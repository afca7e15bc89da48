import Mathlib.Data.List.Basic

/-!
# Texts taken apart at a separator

A text that is put together from parts with separators between them can be taken apart again
where a part is free of its separator: it ends at the first one.
-/

namespace SceneRender

/-- What stands before the first separator is all that the two texts have there. -/
theorem append_cons_inj_of_notMem {α : Type} {sep : α} {front front' rest rest' : List α}
    (hfront : sep ∉ front) (hfront' : sep ∉ front')
    (h : front ++ sep :: rest = front' ++ sep :: rest') : front = front' ∧ rest = rest' := by
  rcases List.append_eq_append_iff.mp h with ⟨between, rfl, hrest⟩ | ⟨between, rfl, hrest⟩ <;>
    cases between with
    | nil =>
        cases hrest
        exact ⟨by rw [List.append_nil], rfl⟩
    | cons c between =>
        -- the separator that ends one front would stand in the other one
        cases hrest
        simp at hfront hfront'

/-- The digits of a number end where something else stands. -/
theorem toDigits_append_cons_inj {sep : Char} (hsep : sep.isDigit = false) {n n' : Nat}
    {rest rest' : List Char}
    (h : Nat.toDigits 10 n ++ sep :: rest = Nat.toDigits 10 n' ++ sep :: rest') :
    n = n' ∧ rest = rest' := by
  have hfree (n : Nat) : sep ∉ Nat.toDigits 10 n := by
    intro hmem
    rw [Nat.isDigit_of_mem_toDigits (by omega) (by omega) hmem] at hsep
    cases hsep
  obtain ⟨hdigits, hrest⟩ := append_cons_inj_of_notMem (hfree n) (hfree n') h
  refine ⟨?_, hrest⟩
  rw [← Nat.ofDigitChars_ten_toDigits (n := n), hdigits, Nat.ofDigitChars_ten_toDigits]

end SceneRender
