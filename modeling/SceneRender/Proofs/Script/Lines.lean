import SceneRender.Script.LineIndex

/-!
# The line of an offset

The index of a text finds the line of an offset by halving the list of line starts.
`LineIndex.lineOf_eq` says what it finds: one more than the line feeds before the offset,
wherever the offset lies, also beyond the end of the text.

The starts that are not beyond an offset stand in front of all others, and there are as many
as that number says (`startsAfter_cut`).  So the offset cuts the list in two, and halving
finds the cut (`CutAt.countUpTo_eq`).
-/

namespace SceneRender.Script

/-- The line of a byte offset, counted from one: each line feed before it ends a line. -/
def lineAt (bytes : List UInt8) (offset : Nat) : Nat := 1 + (bytes.take offset).count lineFeed

namespace LineIndex

variable {starts : Array Nat} {bytes : List UInt8} {offset cut low high pos : Nat}

/-- Are the starts that are not beyond the offset exactly those in front of the cut? -/
def CutAt (starts : Array Nat) (offset cut : Nat) : Prop :=
  ∀ i start, starts[i]? = some start → (start ≤ offset ↔ i < cut)

/-- **Halving finds the cut**, as long as it lies between the two bounds. -/
theorem CutAt.countUpTo_eq (h : CutAt starts offset cut) (hlow : low ≤ cut) (hhigh : cut ≤ high)
    (hsize : high ≤ starts.size) : countUpTo starts offset low high = cut := by
  induction hn : high - low using Nat.strongRecOn generalizing low high with
  | ind n ih =>
      rw [countUpTo]
      by_cases hopen : low < high
      · have hmiddle : (low + high) / 2 < starts.size := by omega
        have hstart : starts[(low + high) / 2]? = some starts[(low + high) / 2] :=
          Array.getElem?_eq_getElem hmiddle
        have hcut := h _ _ hstart
        simp only [dif_pos hopen, hstart, Option.any_some, decide_eq_true_eq]
        split
        · next hbefore =>
          exact ih _ (by omega) (hcut.mp hbefore) hhigh hsize rfl
        · next hbehind =>
          exact ih _ (by omega) hlow (Nat.not_lt.mp (hbehind ∘ hcut.mpr)) (by omega) rfl
      · rw [dif_neg hopen]
        omega

/-- A text has a line start behind each of its line feeds. -/
theorem length_startsAfter : (startsAfter pos bytes).length = bytes.count lineFeed := by
  induction bytes generalizing pos with
  | nil => rfl
  | cons b bytes ih =>
      rw [startsAfter, List.count_cons]
      split
      · rw [List.length_cons, ih]
      · rw [ih, Nat.add_zero]

/-- Every one of them lies beyond the place where the text begins. -/
theorem lt_of_mem_startsAfter {start : Nat} (h : start ∈ startsAfter pos bytes) : pos < start := by
  induction bytes generalizing pos with
  | nil => cases h
  | cons b bytes ih =>
      rw [startsAfter] at h
      split at h
      · rcases List.mem_cons.mp h with rfl | h
        · omega
        · have := ih h
          omega
      · have := ih h
        omega

/-- **The starts behind line feeds** that are not beyond an offset are the first ones, and
there is one for each line feed before the offset. -/
theorem startsAfter_cut (i start : Nat) (hstart : (startsAfter pos bytes)[i]? = some start) :
    start ≤ offset ↔ i < (bytes.take (offset - pos)).count lineFeed := by
  induction bytes generalizing pos i with
  | nil => cases hstart
  | cons b bytes ih =>
      rcases Nat.lt_or_ge pos offset with hpos | hpos
      · -- the first byte lies before the offset and counts if it is a line feed
        have hnext : offset - pos = (offset - (pos + 1)) + 1 := by omega
        rw [hnext, List.take_succ_cons, List.count_cons]
        rw [startsAfter] at hstart
        split at hstart
        · next hfeed =>
          rw [if_pos hfeed]
          cases i with
          | zero =>
              cases hstart
              omega
          | succ i => rw [ih i hstart, Nat.add_lt_add_iff_right]
        · next hother => rw [if_neg hother, Nat.add_zero, ih i hstart]
      · -- no byte lies before it, and every start is beyond the first byte
        have hbeyond := lt_of_mem_startsAfter (List.mem_of_getElem? hstart)
        rw [show offset - pos = 0 by omega, List.take_zero, List.count_nil]
        omega

/-- **The index finds the line of an offset.** -/
theorem lineOf_eq (bytes : List UInt8) (offset : Nat) :
    (ofBytes bytes).lineOf offset = lineAt bytes offset := by
  have hcut : CutAt (ofBytes bytes).starts offset (lineAt bytes offset) := by
    intro i start hstart
    cases i with
    | zero =>
        obtain rfl : 0 = start := Option.some.inj hstart
        rw [lineAt]
        omega
    | succ i =>
        have hbehind : (startsAfter 0 bytes)[i]? = some start := by
          simpa [ofBytes] using hstart
        rw [startsAfter_cut i start hbehind, lineAt, Nat.sub_zero]
        omega
  have hsize : lineAt bytes offset ≤ (ofBytes bytes).starts.size := by
    have hle := (List.take_sublist offset bytes).count_le lineFeed
    simp only [ofBytes, List.size_toArray, List.length_cons, length_startsAfter, lineAt]
    omega
  rw [lineOf, hcut.countUpTo_eq (Nat.zero_le _) hsize (Nat.le_refl _), lineAt]
  omega

end LineIndex

end SceneRender.Script
