import Mathlib.Algebra.GroupWithZero.Nat
import SceneRender.Script.SoftKeyword

/-!
# The weight of tokens

A token weighs as much as it may pay for: nothing if it only marks a block, the length of
the literal if it is a string, and one otherwise.  So the tokens of a text weigh no more
than the text has characters, and one for the end of the last line: every lexeme takes at
least what its token weighs.
-/

namespace SceneRender.Script

/-- What a token may pay for.  A string pays for its body, its letters and two quotes. -/
def Token.weight : Token → Nat
  | .indent | .dedent => 0
  | .string body kind _ => body.length + kind.letters + 2
  | _ => 1

/-- The weight of a token list. -/
def weight (tokens : List Located) : Nat := (tokens.map (·.token.weight)).sum

/-- No tokens weigh nothing. -/
theorem weight_nil : weight [] = 0 := rfl

/-- One more token adds its weight. -/
theorem weight_cons (t : Located) (ts : List Located) :
    weight (t :: ts) = t.token.weight + weight ts := by
  rw [weight, List.map_cons, List.sum_cons, weight]

/-- Two lists weigh as much as both of them. -/
theorem weight_append (ts us : List Located) : weight (ts ++ us) = weight ts + weight us := by
  rw [weight, List.map_append, List.sum_append, weight, weight]

/-- The order does not matter. -/
theorem weight_reverse (ts : List Located) : weight ts.reverse = weight ts := by
  rw [weight, List.map_reverse, List.sum_reverse, weight]

/-- **Soft keywords weigh the same either way.** -/
theorem weight_decideSoft (lineStart : Bool) (ts : List Located) :
    weight (decideSoft lineStart ts) = weight ts := by
  induction ts generalizing lineStart with
  | nil => rfl
  | cons t ts ih =>
      rw [decideSoft, weight_cons, weight_cons, ih]
      refine congrArg (· + weight ts) ?_
      split
      case h_1 ht => split <;> simp only [ht, Token.weight]
      case h_2 ht => split <;> simp only [ht, Token.weight]
      case h_3 ht => split <;> simp only [ht, Token.weight]
      case h_4 => rfl

/-! ## Places -/

namespace Cursor

/-- The glyphs ahead. -/
def left (c : Cursor) : Nat := c.rest.length

variable {c : Cursor}

/-- Going on leaves one character less. -/
theorem left_next (c : Cursor) : c.next.left = c.left - 1 := by
  obtain ⟨rest, pos⟩ := c
  cases rest <;> rfl

/-- Skipping leaves as many characters less. -/
theorem left_skip (c : Cursor) (n : Nat) : (c.skip n).left = c.left - n := by
  induction n generalizing c with
  | zero => rfl
  | succ n ih =>
      rw [skip, ih, left_next]
      omega

/-- Only what is ahead can be seen. -/
theorem lt_left_of_peek {i : Nat} {a : Char} (h : c.peek i = some a) : i < c.left := by
  obtain ⟨g, hg, -⟩ := Option.map_eq_some_iff.mp h
  exact (List.getElem?_eq_some_iff.mp hg).1

/-- What is peeked at is left. -/
theorem rest_of_peek {a : Char} (h : c.peek 0 = some a) :
    ∃ g rest, c.rest = g :: rest ∧ g.char = a := by
  obtain ⟨rest, pos⟩ := c
  cases rest with
  | nil => cases h
  | cons g rest => exact ⟨g, rest, rfl, Option.some.inj h⟩

end Cursor

variable {c c' : Cursor} {p : Char → Bool}

/-- A run leaves no more than before. -/
theorem takeRun_left (p : Char → Bool) (run : List Char) (gs : List Glyph) (pos : Nat) :
    (takeRun p run gs pos).2.left ≤ gs.length := by
  induction gs generalizing run pos with
  | nil => exact Nat.le_refl _
  | cons g gs ih =>
      rw [takeRun]
      split
      · exact Nat.le_succ_of_le (ih _ _)
      · exact Nat.le_refl _

/-- A comment leaves no more than before. -/
theorem skipComment_left (c : Cursor) : c.skipComment.left ≤ c.left := takeRun_left _ _ _ _

/-- A branch that was taken, by what it came to. -/
theorem branch_cases {α : Type} {b : Prop} [Decidable b] {r r' x : α} {goal : Prop}
    (h : (if b then r else r') = x) (hyes : b → r = x → goal) (hno : ¬ b → r' = x → goal) :
    goal := by
  by_cases hb : b
  · exact hyes hb (by rw [← h, if_pos hb])
  · exact hno hb (by rw [← h, if_neg hb])

/-- Where a check stands before a result, the result tells that it was passed. -/
theorem ok_of_check {α : Type} {b : Prop} [Decidable b] {fault : ScriptError}
    {r : Except ScriptError α} {a : α} (h : (if b then .error fault else r) = .ok a) :
    r = .ok a := by
  split at h
  · cases h
  · exact h

/-- What a computation came to, it came to by its parts. -/
theorem bind_cases {α β : Type} {r : Except ScriptError α} {f : α → Except ScriptError β} {b : β}
    (h : r >>= f = .ok b) : ∃ a, r = .ok a ∧ f a = .ok b := by
  cases r with
  | error e => cases h
  | ok a => exact ⟨a, rfl, h⟩

/-! ## Numbers -/

/-- Taking digits leaves no more than before. -/
theorem takeDigits_left (radix : Nat) (digits : List Char) (gs : List Glyph) (pos : Nat) :
    (takeDigits radix digits gs pos).2.left ≤ gs.length := by
  induction gs generalizing digits pos with
  | nil => exact Nat.le_refl _
  | cons g gs ih =>
      rw [takeDigits]
      split
      · exact Nat.le_succ_of_le (ih _ _)
      · split
        · exact Nat.le_succ_of_le (ih _ _)
        · exact Nat.le_refl _

/-- Reading digits leaves no more than before. -/
theorem Cursor.digits_left (radix : Nat) (c : Cursor) : (c.digits radix).2.left ≤ c.left :=
  takeDigits_left _ _ _ _

/-- A digit is taken. -/
theorem Cursor.digits_lt {radix : Nat} {a : Char} (h : c.peek 0 = some a)
    (ha : isDigitOf radix a = true) : (c.digits radix).2.left < c.left := by
  obtain ⟨g, rest, hrest, rfl⟩ := Cursor.rest_of_peek h
  show (takeDigits radix [] c.rest c.pos).2.left < c.rest.length
  rw [hrest, takeDigits, if_pos ha]
  exact Nat.lt_succ_of_le (takeDigits_left _ _ _ _)

/-- A number with a radix is one token. -/
theorem lexRadix_left {radix start : Nat} {t : Token}
    (h : lexRadix radix start c = .ok (t, c')) : t.weight = 1 ∧ c'.left ≤ c.left := by
  unfold lexRadix at h
  dsimp only at h
  split at h
  · cases h
  · obtain ⟨rfl, rfl⟩ := Prod.mk.inj (Except.ok.inj h)
    exact ⟨rfl, c.digits_left radix⟩

/-- A fraction leaves no more than before, and less if there is a dot. -/
theorem lexFraction_left {fraction : List Char} (h : lexFraction c = .ok (fraction, c')) :
    c'.left ≤ c.left ∧ (c.peek 0 = some '.' → c'.left < c.left) := by
  unfold lexFraction at h
  split at h
  · rename_i hpoint
    have hlt := Cursor.lt_left_of_peek (eq_of_beq hpoint)
    split at h
    · cases h
    · have hdigits := c.next.digits_left 10
      rw [Except.ok.inj h, Cursor.left_next] at hdigits
      dsimp only at hdigits
      omega
  · rename_i hpoint
    obtain ⟨-, rfl⟩ := Prod.mk.inj (Except.ok.inj h)
    exact ⟨Nat.le_refl _, fun hc => absurd (beq_iff_eq.mpr hc) hpoint⟩

/-- An exponent leaves no more than before. -/
theorem lexExponent_left {e : Int} (h : lexExponent c = .ok (e, c')) : c'.left ≤ c.left := by
  unfold lexExponent at h
  refine branch_cases h (fun _ h => ?_) fun _ h => ?_
  · replace h := ok_of_check h
    replace h := ok_of_check h
    replace h := ok_of_check h
    obtain ⟨-, rfl⟩ := Prod.mk.inj (Except.ok.inj h)
    refine Nat.le_trans (Cursor.digits_left 10 _) ?_
    split <;> simp only [Cursor.left_next] <;> omega
  · obtain ⟨-, rfl⟩ := Prod.mk.inj (Except.ok.inj h)
    exact Nat.le_refl _

/-- The end of a number is one token. -/
theorem closeNumber_left (value : Numeral) (c : Cursor) {real : Token} (hreal : real.weight = 1) :
    (closeNumber value c real).1.weight = 1 ∧ (closeNumber value c real).2.left ≤ c.left := by
  unfold closeNumber
  split
  · refine ⟨rfl, ?_⟩
    rw [Cursor.left_next]
    omega
  · exact ⟨hreal, Nat.le_refl _⟩

/-- A digit is one of the decimal digits. -/
theorem isDigitOf_of_isDigit {a : Char} (h : a.isDigit = true) : isDigitOf 10 a = true := by
  simp only [Char.isDigit, Bool.and_eq_true, decide_eq_true_eq] at h
  simp only [isDigitOf, Nat.le_refl, if_true, Bool.and_eq_true, decide_eq_true_eq]
  refine ⟨h.1, ?_⟩
  have hle : a.val.toNat ≤ 57 := UInt32.le_iff_toNat_le.mp h.2
  show a.val.toNat < 48 + 10
  omega

/-- Digits are taken, or a point is ahead. -/
theorem Cursor.digits_or_point {a : Char} (ha : c.peek 0 = some a)
    (hdigit : a.isDigit = true ∨ a = '.') :
    (c.digits 10).2.left < c.left ∨
      ((c.digits 10).2.left = c.left ∧ (c.digits 10).2.peek 0 = some '.') := by
  rcases hdigit with hdigit | rfl
  · exact Or.inl (Cursor.digits_lt ha (isDigitOf_of_isDigit hdigit))
  · obtain ⟨g, rest, hrest, hg⟩ := Cursor.rest_of_peek ha
    have hdigits : (c.digits 10).2 = ⟨g :: rest, c.pos⟩ := by
      show (takeDigits 10 [] c.rest c.pos).2 = _
      rw [hrest, takeDigits, hg, if_neg (by decide), if_neg (by simp)]
    refine Or.inr ⟨?_, ?_⟩
    · rw [hdigits]
      exact congrArg List.length hrest.symm
    · rw [hdigits]
      exact congrArg some hg

/-- **A decimal literal takes a glyph.** -/
theorem lexDecimal_left {a : Char} {t : Token} (ha : c.peek 0 = some a)
    (hdigit : a.isDigit = true ∨ a = '.') (h : lexDecimal c = .ok (t, c')) :
    t.weight = 1 ∧ c'.left < c.left := by
  have hdigits := Cursor.digits_or_point ha hdigit
  unfold lexDecimal at h
  dsimp only at h
  refine branch_cases h (fun _ h => ?_) fun hno h => ?_
  · obtain ⟨⟨fraction, c₁⟩, hf, h⟩ := bind_cases h
    obtain ⟨⟨exponent, c₂⟩, he, h⟩ := bind_cases h
    have hfraction := lexFraction_left hf
    have hexponent := lexExponent_left he
    have hclose := closeNumber_left (literalValue (c.digits 10).1 fraction exponent) c₂
      (rfl : (Token.float (literalValue (c.digits 10).1 fraction exponent)).weight = 1)
    rw [Except.ok.inj h] at hclose
    dsimp only at hexponent hclose hfraction
    refine ⟨hclose.1, ?_⟩
    rcases hdigits with hlt | ⟨heq, hpoint⟩
    · omega
    · have := hfraction.2 hpoint
      omega
  · have hlt : (c.digits 10).2.left < c.left := by
      rcases hdigits with hlt | ⟨-, hpoint⟩
      · exact hlt
      · exact absurd (by rw [hpoint]; rfl) hno
    have hclose := closeNumber_left (literalValue (c.digits 10).1 [] 0) (c.digits 10).2
      (rfl : (Token.int (digitsValue 10 (c.digits 10).1)).weight = 1)
    split at h
    case h_1 value c₁ heq =>
      rw [heq] at hclose
      replace h := ok_of_check h
      obtain ⟨rfl, rfl⟩ := Prod.mk.inj (Except.ok.inj h)
      exact ⟨rfl, by dsimp only at hclose; omega⟩
    case h_2 =>
      rw [Except.ok.inj h] at hclose
      exact ⟨hclose.1, by dsimp only at hclose; omega⟩

/-- A number is one token and takes a character. -/
theorem lexNumber_left {a : Char} {t : Token} (ha : c.peek 0 = some a)
    (hdigit : a.isDigit = true ∨ a = '.') (h : lexNumber c = .ok (t, c')) :
    t.weight = 1 ∧ c'.left < c.left := by
  have hpos := Cursor.lt_left_of_peek ha
  have hradix {radix : Nat} (h : lexRadix radix c.pos (c.skip 2) = .ok (t, c')) :
      t.weight = 1 ∧ c'.left < c.left := by
    have := lexRadix_left h
    rw [Cursor.left_skip] at this
    omega
  unfold lexNumber at h
  split at h
  case h_7 => exact lexDecimal_left ha hdigit h
  all_goals exact hradix h

/-! ## Strings and words -/

/-- The body of a string is taken with its quote. -/
theorem takeString_left {quote : Char} {triple : Bool} {body body' : List Char}
    {gs : List Glyph} {pos : Nat} (h : takeString quote triple body gs pos = .ok (body', c')) :
    body'.length + 1 + c'.left ≤ body.length + gs.length := by
  fun_induction takeString quote triple body gs pos
  case case1 => cases h
  case case2 ih =>
    have := ih h
    simp only [List.length_cons] at this ⊢
    omega
  case case3 => cases h
  case case4 =>
    obtain ⟨rfl, rfl⟩ := Prod.mk.inj (Except.ok.inj h)
    simp only [Cursor.left, List.length_cons]
    omega
  case case5 =>
    obtain ⟨rfl, rfl⟩ := Prod.mk.inj (Except.ok.inj h)
    simp only [Cursor.left, List.length_cons]
    omega
  -- the other glyphs go into the body
  all_goals
    rename_i ih
    have := ih h
    simp only [List.length_cons] at this ⊢
    omega

/-- A string weighs no more than it takes. -/
theorem lexString_left {kind : StringKind} {t : Token} (hkind : kind.letters ≤ c.left)
    (h : lexString kind c = .ok (t, c')) : t.weight + c'.left ≤ c.left := by
  unfold lexString at h
  dsimp only at h
  split at h
  case h_1 => cases h
  case h_2 quote hquote =>
    have hlt := Cursor.lt_left_of_peek hquote
    rw [Cursor.left_skip] at hlt
    split at h
    case h_1 body c₁ hbody =>
      obtain ⟨rfl, rfl⟩ := Prod.mk.inj (Except.ok.inj h)
      have htake := takeString_left hbody
      have hopen {b : Bool} : (if b = true then (c.skip kind.letters).next.skip 2
          else (c.skip kind.letters).next).left ≤ c.left - kind.letters - 1 := by
        split <;> simp only [Cursor.left_skip, Cursor.left_next] <;> omega
      have hle := Nat.le_trans htake (Nat.add_le_add_left hopen _)
      rw [Token.weight, String.length_ofList, List.length_reverse]
      rw [List.length_nil] at hle
      omega
    case h_2 => cases h

/-- One letter in front is one letter. -/
theorem letters_le_of_ofLetter {a : Char} {kind : StringKind}
    (h : StringKind.ofLetter? a = some kind) : kind.letters ≤ 1 := by
  unfold StringKind.ofLetter? at h
  split at h
  case h_5 => cases h
  all_goals
    obtain rfl := Option.some.inj h
    exact Nat.le_refl _

/-- There are two letters in front at most. -/
theorem letters_le_two (kind : StringKind) : kind.letters ≤ 2 := by
  cases kind <;> decide

/-- The letters of a string are there. -/
theorem letters_le_left {kind : StringKind} (h : stringKindAt? c = some kind) :
    kind.letters ≤ c.left := by
  unfold stringKindAt? at h
  split at h
  case h_1 a b ha hb =>
    have hleft := Cursor.lt_left_of_peek hb
    refine branch_cases h (fun _ h => ?_) fun _ h => ?_
    · have := letters_le_of_ofLetter h
      omega
    · have := letters_le_two kind
      omega
  case h_2 => cases h

/-- A word weighs no more than it takes. -/
theorem lexWord_left {a : Char} {t : Token} (ha : c.peek 0 = some a)
    (hstart : isNameStart a = true) (h : lexWord c = .ok (t, c')) :
    t.weight + c'.left ≤ c.left := by
  unfold lexWord at h
  split at h
  case h_1 kind hkind => exact lexString_left (letters_le_left hkind) h
  case h_2 =>
    obtain ⟨g, rest, hrest, rfl⟩ := Cursor.rest_of_peek ha
    have hrun : 1 + (takeRun isNameContinue [] c.rest c.pos).2.left ≤ c.left := by
      rw [Cursor.left, Cursor.left, hrest, takeRun,
        if_pos (isNameContinue_of_isNameStart hstart), Nat.add_comm]
      exact Nat.succ_le_succ (takeRun_left _ _ _ _)
    dsimp only at h
    split at h
    all_goals
      obtain ⟨rfl, rfl⟩ := Prod.mk.inj (Except.ok.inj h)
      exact hrun

/-! ## Steps -/

/-- A symbol has characters. -/
theorem symbolAt_pos {a : Char} {b d : Option Char} {y : Symbol} {n : Nat}
    (h : symbolAt? a b d = some (y, n)) : 0 < n := by
  unfold symbolAt? at h
  split at h
  all_goals first
    | (obtain ⟨-, rfl⟩ := Prod.mk.inj (Option.some.inj h); exact Nat.zero_lt_succ _)
    | cases h

variable {s s' : LexState} {tokens : List Located}

/-- What is emitted weighs no more than it took. -/
theorem emit_left {read : Except ScriptError (Token × Cursor)} {k : Nat}
    (hread : ∀ {t c'}, read = .ok (t, c') → t.weight + c'.left ≤ k)
    (h : emit s read = .ok (tokens, s')) : weight tokens + s'.cursor.left ≤ k := by
  unfold emit at h
  split at h
  case h_1 t c' =>
    obtain ⟨rfl, rfl⟩ := Prod.mk.inj (Except.ok.inj h)
    rw [weight_cons, weight_nil]
    exact hread rfl
  case h_2 => cases h

/-- A symbol weighs no more than it takes. -/
theorem lexSymbol_left {a : Char} (ha : s.cursor.peek 0 = some a)
    (h : lexSymbol s a = .ok (tokens, s')) : weight tokens + s'.cursor.left ≤ s.cursor.left := by
  have hpos := Cursor.lt_left_of_peek ha
  unfold lexSymbol at h
  split at h
  case h_1 y n hy =>
    have hn := symbolAt_pos hy
    dsimp only at h
    replace h := ok_of_check h
    obtain ⟨rfl, rfl⟩ := Prod.mk.inj (Except.ok.inj h)
    show 1 + 0 + (s.cursor.skip n).left ≤ s.cursor.left
    rw [Cursor.left_skip]
    omega
  case h_2 =>
    refine branch_cases h (fun _ h => emit_left (fun {t c'} h => ?_) h) fun _ h => ?_
    · obtain ⟨rfl, rfl⟩ := Prod.mk.inj (Except.ok.inj h)
      show 1 + s.cursor.next.left ≤ s.cursor.left
      rw [Cursor.left_next]
      omega
    · replace h := ok_of_check h
      cases h

/-- **A lexeme takes what its token weighs.** -/
theorem lexeme_left {a : Char} (ha : s.cursor.peek 0 = some a)
    (h : lexeme s a = .ok (tokens, s')) : weight tokens + s'.cursor.left ≤ s.cursor.left := by
  have hpos := Cursor.lt_left_of_peek ha
  unfold lexeme at h
  refine branch_cases h (fun hstart h => emit_left (lexWord_left ha hstart) h) fun _ h => ?_
  refine branch_cases h (fun hdigit h => emit_left (fun {t c'} h => ?_) h) fun _ h => ?_
  · have hnumber : a.isDigit = true ∨ a = '.' := by
      rcases Bool.or_eq_true_iff.mp hdigit with hd | hd
      · exact Or.inl hd
      · exact Or.inr (eq_of_beq (Bool.and_eq_true_iff.mp hd).1)
    have := lexNumber_left ha hnumber h
    omega
  · split at h
    case h_1 =>
      obtain ⟨rfl, rfl⟩ := Prod.mk.inj (Except.ok.inj h)
      rw [weight_nil, Nat.zero_add]
      exact skipComment_left s.cursor
    case h_2 => exact emit_left (lexString_left (Nat.zero_le _)) h
    case h_3 => exact emit_left (lexString_left (Nat.zero_le _)) h
    case h_4 =>
      refine branch_cases h (fun _ h => ?_) fun _ h => ?_
      · obtain ⟨rfl, rfl⟩ := Prod.mk.inj (Except.ok.inj h)
        show 1 + 0 + s.cursor.next.left ≤ s.cursor.left
        rw [Cursor.left_next]
        omega
      · obtain ⟨rfl, rfl⟩ := Prod.mk.inj (Except.ok.inj h)
        rw [weight_nil, Nat.zero_add, Cursor.left_next]
        omega
    case h_8 =>
      unfold continueLine at h
      replace h := ok_of_check h
      replace h := ok_of_check h
      obtain ⟨rfl, rfl⟩ := Prod.mk.inj (Except.ok.inj h)
      rw [weight_nil, Nat.zero_add, Cursor.left_next, Cursor.left_next]
      omega
    case h_9 => exact lexSymbol_left ha h
    -- the blanks
    all_goals
      obtain ⟨rfl, rfl⟩ := Prod.mk.inj (Except.ok.inj h)
      rw [weight_nil, Nat.zero_add, Cursor.left_next]
      omega

/-! ## Layout -/

/-- An indentation leaves no more than before. -/
theorem takeIndentation_left {tabs spaces pos : Nat} {comment atEnd : Bool} {gs : List Glyph}
    {indentation : Indentation}
    (h : takeIndentation tabs spaces comment gs pos = .ok (indentation, c', atEnd)) :
    c'.left ≤ gs.length := by
  induction gs generalizing tabs spaces comment pos with
  | nil =>
      obtain ⟨-, heq⟩ := Prod.mk.inj (Except.ok.inj h)
      obtain ⟨rfl, -⟩ := Prod.mk.inj heq
      exact Nat.le_refl _
  | cons g gs ih =>
      rw [takeIndentation] at h
      refine branch_cases h (fun _ h => Nat.le_succ_of_le (ih h)) fun _ h => ?_
      split at h
      case h_2 =>
        exact Nat.le_succ_of_le (ih (ok_of_check h))
      case h_6 =>
        obtain ⟨-, heq⟩ := Prod.mk.inj (Except.ok.inj h)
        obtain ⟨rfl, -⟩ := Prod.mk.inj heq
        exact Nat.le_refl _
      all_goals exact Nat.le_succ_of_le (ih h)

/-- The ends of blocks weigh nothing. -/
theorem closeBlocks_weight {indentation : Indentation} {pos : Nat}
    {indents left : List Indentation}
    (h : closeBlocks indentation pos indents = .ok (tokens, left)) :
    weight tokens = 0 := by
  induction indents generalizing tokens left with
  | nil =>
      rw [closeBlocks] at h
      split at h
      case h_1 =>
        obtain ⟨rfl, -⟩ := Prod.mk.inj (Except.ok.inj h)
        rfl
      case h_2 => cases h
      case h_3 => cases h
  | cons i outer ih =>
      rw [closeBlocks] at h
      split at h
      case h_1 =>
        obtain ⟨rfl, -⟩ := Prod.mk.inj (Except.ok.inj h)
        rfl
      case h_2 => cases h
      case h_3 =>
        split at h
        case h_1 more left' hmore =>
          obtain ⟨rfl, -⟩ := Prod.mk.inj (Except.ok.inj h)
          rw [weight_cons, ih hmore]
          rfl
        case h_2 => cases h
      case h_4 => cases h

/-- **The layout of a line weighs nothing.** -/
theorem layout_left (h : layout s = .ok (tokens, s')) :
    weight tokens = 0 ∧ s'.cursor.left ≤ s.cursor.left := by
  unfold layout at h
  obtain ⟨⟨indentation, cursor, lineStart⟩, hindent, h⟩ := bind_cases h
  have hleft : cursor.left ≤ s.cursor.left := takeIndentation_left hindent
  dsimp only at h
  refine branch_cases h (fun _ h => ?_) fun _ h => ?_
  · obtain ⟨rfl, rfl⟩ := Prod.mk.inj (Except.ok.inj h)
    exact ⟨rfl, hleft⟩
  · split at h
    case h_1 => cases h
    case h_2 =>
      obtain ⟨rfl, rfl⟩ := Prod.mk.inj (Except.ok.inj h)
      exact ⟨rfl, hleft⟩
    case h_3 =>
      obtain ⟨rfl, rfl⟩ := Prod.mk.inj (Except.ok.inj h)
      exact ⟨rfl, hleft⟩
    case h_4 =>
      obtain ⟨⟨closing, indents⟩, hclose, h⟩ := bind_cases h
      obtain ⟨rfl, rfl⟩ := Prod.mk.inj (Except.ok.inj h)
      exact ⟨closeBlocks_weight hclose, hleft⟩

/-- The end of a script weighs one at most. -/
theorem finish_weight (h : finish s = .ok tokens) : weight tokens ≤ 1 := by
  have hdedents (indents : List Indentation) (pos : Nat) :
      weight (indents.map fun _ => ⟨.dedent, pos, pos⟩) = 0 := by
    induction indents with
    | nil => rfl
    | cons i outer ih =>
        rw [List.map_cons, weight_cons, ih]
        rfl
  unfold finish at h
  replace h := ok_of_check h
  obtain rfl := Except.ok.inj h
  rw [weight_append, hdedents]
  split
  · exact Nat.zero_le 1
  · exact Nat.le_refl 1

/-! ## The whole text -/

/-- What a step leaves for the steps after it. -/
def leftAfter : Option LexState → Nat
  | some s => s.cursor.left
  | none => 0

/-- The lexeme ahead, after the marks of the layout in front of it; at the end of the text, the
marks that close it. -/
def lexAhead (opening : List Located) (s : LexState) :
    Except ScriptError (List Located × Option LexState) :=
  match s.cursor.peek 0 with
  | some a => do
    let (more, s') ← lexeme s a
    return (opening ++ more, some s')
  | none => do
    let more ← finish s
    return (opening ++ more, none)

/-- What is ahead weighs no more than it takes. -/
theorem lexAhead_left {opening : List Located} {next : Option LexState}
    (hopening : weight opening = 0) (h : lexAhead opening s = .ok (tokens, next)) :
    weight tokens + leftAfter next ≤ s.cursor.left + if next.isSome then 0 else 1 := by
  unfold lexAhead at h
  split at h
  case h_1 a ha =>
    obtain ⟨⟨more, s'⟩, hmore, h⟩ := bind_cases h
    obtain ⟨rfl, rfl⟩ := Prod.mk.inj (Except.ok.inj h)
    have := lexeme_left ha hmore
    simp only [weight_append, leftAfter, Option.isSome_some, reduceIte]
    omega
  case h_2 =>
    obtain ⟨more, hmore, h⟩ := bind_cases h
    obtain ⟨rfl, rfl⟩ := Prod.mk.inj (Except.ok.inj h)
    have := finish_weight hmore
    simp only [weight_append, leftAfter, Option.isSome_none, Bool.false_eq_true, reduceIte]
    omega

/-- **A step takes what its tokens weigh**, and the last one may end a line. -/
theorem lexStep_left {next : Option LexState} (h : lexStep s = .ok (tokens, next)) :
    weight tokens + leftAfter next ≤ s.cursor.left + if next.isSome then 0 else 1 := by
  unfold lexStep at h
  refine branch_cases h (fun _ h => ?_) fun _ h => lexAhead_left weight_nil h
  obtain ⟨⟨opening, s₁⟩, hopening, h⟩ := bind_cases h
  obtain ⟨hweight, hleft⟩ := layout_left hopening
  have hahead := lexAhead_left hweight h
  omega

/-- All tokens weigh no more than was left, and one. -/
theorem lexLoop_weight (fuel : Nat) (tokens : List Located) (s : LexState) :
    weight (lexLoop fuel tokens s).tokens ≤ weight tokens + s.cursor.left + 1 := by
  induction fuel generalizing tokens s with
  | zero =>
      rw [lexLoop, weight_reverse]
      omega
  | succ fuel ih =>
      rw [lexLoop]
      split
      case h_1 =>
        rw [weight_reverse]
        omega
      case h_2 new s' hstep =>
        have hnew := lexStep_left hstep
        have hrest := ih (new.reverse ++ tokens) s'
        simp only [weight_append, weight_reverse, leftAfter, Option.isSome_some,
          reduceIte] at hnew hrest
        omega
      case h_3 new hstep =>
        have hnew := lexStep_left hstep
        simp only [weight_append, weight_reverse, leftAfter, Option.isSome_none,
          Bool.false_eq_true, reduceIte] at hnew ⊢
        omega

/-- A text has no more glyphs than characters. -/
theorem length_glyphs_le (text : List Char) : (glyphs text).length ≤ text.length := by
  fun_induction glyphs text with
  | case1 => exact Nat.le_refl _
  | case2 rest ih => exact Nat.le_succ_of_le (Nat.succ_le_succ ih)
  | case3 rest _ ih => exact Nat.succ_le_succ ih
  | case4 c rest _ _ ih => exact Nat.succ_le_succ ih

/-- **The tokens of a text weigh no more than it is long**, and one. -/
theorem weight_lex_le (text : List Char) (offset : Nat) :
    weight (lex text offset).tokens ≤ text.length + 1 := by
  have hglyphs := length_glyphs_le text
  unfold lex
  dsimp only
  refine Nat.le_trans (lexLoop_weight _ _ _) ?_
  rw [weight_nil, Nat.zero_add]
  refine Nat.succ_le_succ (Nat.le_trans ?_ hglyphs)
  split
  case h_1 w rest heq =>
    rw [heq]
    exact Nat.le_succ _
  case h_2 => exact Nat.le_refl _

end SceneRender.Script
