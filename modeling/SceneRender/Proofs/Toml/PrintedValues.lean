import Mathlib.Data.List.Forall2
import SceneRender.Proofs.Json.Spelling
import SceneRender.Proofs.Toml.PrintedTokens
import SceneRender.Toml.Document

/-!
# Printed values are read back

A value that is read says what was printed (`ReadsAs`), apart from the spans of its parts, which
only complaints show.  A stream of tokens is known by its tokens without their spans (`Shows`);
each reader takes the tokens of a value and leaves those behind it (`value_tokens`).
-/

namespace SceneRender.Toml

variable {ls : List Lexeme} {s : Stream} {fuel depth : Nat}

/-! ## Streams -/

/-- The tokens that are left. -/
def Stream.Shows (s : Stream) (ls : List Lexeme) : Prop := s.rest.map Token.lexeme = ls

namespace Stream.Shows

variable {kind : TokenKind} {text : List Char}

/-- The token at the front. -/
theorem exists_cons (h : s.Shows ((kind, text) :: ls)) : ∃ span rest,
    s.rest = ⟨kind, span, text⟩ :: rest ∧ rest.map Token.lexeme = ls := by
  obtain ⟨t, rest, hrest, ht, hls⟩ := List.map_eq_cons_iff.mp h
  obtain ⟨k, span, text'⟩ := t
  cases ht
  exact ⟨span, rest, hrest, hls⟩

/-- Going on leaves the tokens after the first. -/
theorem advance (h : s.Shows ((kind, text) :: ls)) : s.advance.Shows ls := by
  obtain ⟨span, rest, hrest, hls⟩ := h.exists_cons
  rw [Shows, Stream.advance, hrest]
  exact hls

/-- A stream is at the kind of its first token. -/
theorem at?_eq (h : s.Shows ((kind, text) :: ls)) (other : TokenKind) :
    s.at? other = (kind == other) := by
  obtain ⟨span, rest, hrest, -⟩ := h.exists_cons
  rw [Stream.at?, Stream.peek?, hrest]
  rfl

/-- A blank is passed over. -/
theorem pastBlanks (h : s.Shows ((.blank, text) :: ls)) : s.pastBlanks.Shows ls := by
  obtain ⟨span, rest, hrest, hls⟩ := h.exists_cons
  rw [Stream.pastBlanks, h.at?_eq]
  exact (congrArg (List.map Token.lexeme ∘ List.drop 1) hrest).trans hls

/-- Where there is no blank, nothing is passed over. -/
theorem pastBlanks_eq (h : s.Shows ((kind, text) :: ls)) (hkind : kind ≠ .blank) :
    s.pastBlanks = s := by
  rw [Stream.pastBlanks, h.at?_eq, beq_eq_false_iff_ne.mpr hkind]
  rfl

/-- A stream is as long as what it shows. -/
theorem length_eq (h : s.Shows ls) : s.rest.length = ls.length := by
  rw [← h, List.length_map]

end Stream.Shows

/-! ## Values without quotes -/

/-- The value that is meant, whatever the spans of its parts. -/
inductive Holds : Value → Written → Prop
  | text (s : String) : Holds (.text s) (.text s)
  | natural (n : Nat) : Holds (integerOf n) (.natural n)
  | flag (b : Bool) : Holds (.flag b) (.flag b)
  | texts {items : List (Span × Value)} {ss : List String}
      (h : items.map (·.2) = ss.map Value.text) : Holds (.list false items) (.texts ss)

/-- What is read says what was printed. -/
def ReadsAs (v : WrittenValue) (w : Written) : Prop :=
  ∃ span found, valueOf v = .ok (span, found) ∧ Holds found w

/-- A quoted text is read as the text. -/
theorem readsAs_text {form : StringForm} {text : List Char} {t : String}
    (h : QuotedAs form t text) (span : Span) :
    ReadsAs (.scalar (some form) span text) (.text t) := by
  refine ⟨span, .text t, ?_, .text t⟩
  simp only [valueOf, scalar, stringText_quoted h span]
  rfl

/-- The digits of a number have its value. -/
theorem digitsValue_toDigits (n : Nat) : digitsValue 10 (Nat.toDigits 10 n) = n := by
  have hfold : ∀ (cs : List Char), (∀ c ∈ cs, c.isDigit = true) → ∀ init,
      cs.foldl (fun n c => n * 10 + (hexValue? c).getD 0) init = Nat.ofDigitChars 10 cs init := by
    intro cs hcs
    induction cs with
    | nil => exact fun _ => rfl
    | cons c cs ih =>
        obtain ⟨hc, hcs⟩ := List.forall_mem_cons.mp hcs
        intro init
        rw [List.foldl_cons, ih hcs, Nat.ofDigitChars_cons, hexValue?, if_pos hc, Option.getD_some,
          Nat.mul_comm]
  rw [digitsValue, hfold _ fun c => Nat.isDigit_of_mem_toDigits (by decide) (by decide),
    Nat.ofDigitChars_ten_toDigits]

/-- A numeral of digits alone, without a sign and not beginning with nought, is a whole number. -/
theorem decimalOrDate_digits {span : Span} {offset : Nat} {cs : List Char}
    (hdigits : ∀ c ∈ cs, c.isDigit = true) (hne : cs ≠ []) (hhead : cs.head? ≠ some '0') :
    Numeral.decimalOrDate ⟨false, span, cs, ⟨cs, offset⟩⟩ =
      .ok (integerOf (digitsValue 10 cs)) := by
  have hnone : cs.dropWhile Char.isDigit = [] := List.dropWhile_eq_nil_iff.mpr hdigits
  have hunderscore : '_' ∉ cs := fun hmem => absurd (hdigits _ hmem) (by decide)
  have hplain : cs.filter (· != '_') = cs :=
    List.filter_eq_self.mpr fun c hc => bne_iff_ne.mpr fun h => hunderscore (h ▸ hc)
  have hall : cs.all Char.isDigit = true := List.all_eq_true.mpr hdigits
  have hempty : cs.isEmpty = false := by simpa using hne
  have hcontains : cs.contains '_' = false := by simpa using hunderscore
  have hleading : (cs.head? == some '0') = false := beq_eq_false_iff_ne.mpr hhead
  simp only [Numeral.decimalOrDate, hnone, Numeral.integer, hleading, Bool.and_false,
    Bool.false_eq_true, if_false, checkUnderscores, Numeral.whole, hcontains, Bool.not_false,
    if_true, Numeral.plainDigits, hplain, hempty, hall, Bool.not_true, Bool.or_self, bind,
    Except.bind, pure, Except.pure]

/-- Numbers of 64 bits are no huge numbers. -/
theorem integerOf_of_lt {n : Nat} (h : n < Nat.pow 2 64) : integerOf n = .integer n := by
  have hpow : Nat.pow 2 64 = 18446744073709551616 := by decide
  have hlow : -(Nat.pow 2 127 : Int) ≤ n := by omega
  have hhigh : (n : Int) < (Nat.pow 2 128 : Int) := by
    have hmore : Nat.pow 2 64 ≤ Nat.pow 2 128 := Nat.pow_le_pow_right (by decide) (by decide)
    omega
  rw [integerOf, if_pos]
  rw [Bool.and_eq_true, decide_eq_true_eq, decide_eq_true_eq]
  exact ⟨hlow, hhigh⟩

/-- **A printed number is read back.** -/
theorem plainScalar_natural (n : Nat) (span : Span) :
    plainScalar span (toString n).toList = .ok (integerOf n) := by
  rw [Nat.toString_eq_ofList_toDigits, String.toList_ofList]
  have hdigits : ∀ c ∈ Nat.toDigits 10 n, c.isDigit = true := fun c =>
    Nat.isDigit_of_mem_toDigits (by decide) (by decide)
  have hvalue := digitsValue_toDigits n
  cases htext : Nat.toDigits 10 n with
  | nil => exact absurd htext Nat.toDigits_ne_nil
  | cons c cs =>
      rw [htext] at hdigits hvalue
      by_cases hzero : c = '0'
      · subst hzero
        obtain rfl := Json.toDigits_eq_zero_cons htext
        obtain rfl : 0 = n := hvalue
        rw [integerOf_of_lt (Nat.pow_pos (by decide))]
        rfl
      · have hread : Numeral.decimalOrDate ⟨false, span, c :: cs, ⟨c :: cs, span.start⟩⟩ = _ :=
          decimalOrDate_digits hdigits (List.cons_ne_nil c cs) (by simpa using hzero)
        rw [hvalue] at hread
        have hc := hdigits c List.mem_cons_self
        have hplus : c ≠ '+' := fun h => absurd hc (h ▸ by decide)
        have hminus : c ≠ '-' := fun h => absurd hc (h ▸ by decide)
        simp only [plainScalar, beq_iff_eq, hplus, hminus, hzero, hc, Bool.or_eq_true, or_self,
          true_or, if_true, if_false]
        exact hread

/-- **A printed flag is read back.** -/
theorem plainScalar_flag (b : Bool) (span : Span) :
    plainScalar span (toString b).toList = .ok (.flag b) := by
  cases b <;> rfl

/-- A printed number is read as the number. -/
theorem readsAs_natural (n : Nat) (span : Span) :
    ReadsAs (.scalar none span (toString n).toList) (.natural n) := by
  refine ⟨span, integerOf n, ?_, .natural n⟩
  simp only [valueOf, scalar, plainScalar_natural]
  rfl

/-- A printed flag is read as the flag. -/
theorem readsAs_flag (b : Bool) (span : Span) :
    ReadsAs (.scalar none span (toString b).toList) (.flag b) := by
  refine ⟨span, .flag b, ?_, .flag b⟩
  simp only [valueOf, scalar, plainScalar_flag]
  rfl

/-- A list of texts is read item by item. -/
theorem readsAs_texts {vs : List WrittenValue} {ss : List String} (span : Span)
    (h : List.Forall₂ (fun v s => ReadsAs v (.text s)) vs ss) :
    ReadsAs (.list span vs) (.texts ss) := by
  have hitems : ∃ items, itemsOf vs = .ok items ∧ items.map (·.2) = ss.map Value.text := by
    induction h with
    | nil => exact ⟨[], by rw [itemsOf], rfl⟩
    | @cons v s vs ss hv _ ih =>
        obtain ⟨at_, found, hvalue, hholds⟩ := hv
        obtain ⟨items, hitems, htexts⟩ := ih
        cases hholds
        refine ⟨(at_, .text s) :: items, ?_, by simp [htexts]⟩
        rw [itemsOf, hvalue, hitems]
        rfl
  obtain ⟨items, hitems, htexts⟩ := hitems
  refine ⟨span, .list false items, ?_, .texts htexts⟩
  rw [valueOf, hitems]
  rfl

/-! ## Lists -/

/-- Blanks and line breaks. -/
def IsLayout (l : Lexeme) : Prop := l.1 = .blank ∨ l = (.newline, ['\n'])

/-- Something else than blanks, comments and line breaks. -/
def IsPart (kind : TokenKind) : Prop :=
  kind ≠ .blank ∧ kind ≠ .newline ∧ kind ≠ .comment

variable {kind : TokenKind} {text : List Char} {layout : List Lexeme} {opening : Span}
  {needsValue : Bool} {taken : List WrittenValue}

/-- Layout is passed over, up to the next part. -/
theorem pastLines_layout (hlayout : ∀ l ∈ layout, IsLayout l) (hpart : IsPart kind)
    (h : s.Shows (layout ++ (kind, text) :: ls)) (hfuel : layout.length < fuel) :
    ∃ s', pastLines fuel s = .ok s' ∧ s'.Shows ((kind, text) :: ls) := by
  induction layout generalizing s fuel with
  | nil =>
      obtain ⟨fuel, rfl⟩ : ∃ less, fuel = less + 1 := ⟨fuel - 1, by omega⟩
      obtain ⟨span, rest, hrest, -⟩ := h.exists_cons
      refine ⟨s, ?_, h⟩
      rw [pastLines, hrest]
      obtain ⟨hblank, hnewline, hcomment⟩ := hpart
      cases kind <;> first | rfl | contradiction
  | cons l layout ih =>
      obtain ⟨fuel, rfl⟩ : ∃ less, fuel = less + 1 := ⟨fuel - 1, by omega⟩
      obtain ⟨hl, hlayout⟩ := List.forall_mem_cons.mp hlayout
      obtain ⟨s', hread, hshows⟩ := ih hlayout h.advance (by simpa using hfuel)
      obtain ⟨span, rest, hrest, -⟩ := h.exists_cons
      refine ⟨s', ?_, hshows⟩
      obtain ⟨k, t⟩ := l
      rw [pastLines, hrest]
      obtain hblank | hnewline := hl
      · obtain rfl : k = .blank := hblank
        exact hread
      · cases hnewline
        exact hread

/-- Layout is passed over up to the next part. -/
theorem nextPart_layout (hlayout : ∀ l ∈ layout, IsLayout l) (hpart : IsPart kind)
    (h : s.Shows (layout ++ (kind, text) :: ls)) :
    ∃ s', nextPart s = .ok s' ∧ s'.Shows ((kind, text) :: ls) := by
  have hfuel : layout.length < s.rest.length := by
    rw [h.length_eq, List.length_append, List.length_cons]
    omega
  obtain ⟨s', hread, hshows⟩ := pastLines_layout hlayout hpart h hfuel
  exact ⟨{ s' with last := s.last }, by rw [nextPart, hread]; rfl, hshows⟩

/-- An item of a list. -/
theorem items_text {form : StringForm} (hlayout : ∀ l ∈ layout, IsLayout l)
    (h : s.Shows (layout ++ (.string form, text) :: ls)) : ∃ span s',
    items (fuel + 2) depth opening true taken s =
      items (fuel + 1) depth opening false (.scalar (some form) span text :: taken) s' ∧
    s'.Shows ls := by
  obtain ⟨s', hread, hshows⟩ := nextPart_layout hlayout (by simp [IsPart]) h
  obtain ⟨span, rest, hrest, hls⟩ := hshows.exists_cons
  refine ⟨span, s'.advance, ?_, hshows.advance⟩
  rw [items, hread]
  simp only [bind, Except.bind, hrest, if_true, value]

/-- The comma after an item. -/
theorem items_comma (h : s.Shows ((.comma, text) :: ls)) : ∃ s',
    items (fuel + 1) depth opening false taken s = items fuel depth opening true taken s' ∧
    s'.Shows ls := by
  have hnone : s.Shows ([] ++ (.comma, text) :: ls) := h
  obtain ⟨s', hread, hshows⟩ :=
    nextPart_layout (List.forall_mem_nil IsLayout) (by simp [IsPart]) hnone
  obtain ⟨span, rest, hrest, hls⟩ := hshows.exists_cons
  refine ⟨s'.advance, ?_, hshows.advance⟩
  rw [items, hread]
  simp only [bind, Except.bind, hrest, Bool.false_eq_true, if_false]

/-- The closing bracket of a list. -/
theorem items_close (hlayout : ∀ l ∈ layout, IsLayout l)
    (h : s.Shows (layout ++ (.rightBracket, text) :: ls)) : ∃ span s',
    items (fuel + 1) depth opening needsValue taken s = .ok (.list span taken.reverse, s') ∧
    s'.Shows ls := by
  obtain ⟨s', hread, hshows⟩ := nextPart_layout hlayout (by simp [IsPart]) h
  obtain ⟨span, rest, hrest, hls⟩ := hshows.exists_cons
  refine ⟨opening.join span, s'.advance, ?_, hshows.advance⟩
  rw [items, hread]
  simp only [bind, Except.bind, hrest]
  rfl

/-- Texts on lines of their own, up to the closing bracket. -/
theorem items_lines {ss : List String} {lines : List Lexeme} (hlines : ItemTokens ss lines)
    (hlayout : ∀ l ∈ layout, IsLayout l)
    (h : s.Shows (layout ++ (lines ++ (.rightBracket, text) :: ls)))
    (hfuel : 2 * ss.length < fuel) : ∃ span vs s',
    items fuel depth opening true taken s = .ok (.list span (taken.reverse ++ vs), s') ∧
    s'.Shows ls ∧ List.Forall₂ (fun v s => ReadsAs v (.text s)) vs ss := by
  induction hlines generalizing s layout taken fuel with
  | nil =>
      obtain ⟨fuel, rfl⟩ : ∃ less, fuel = less + 1 := ⟨fuel - 1, by omega⟩
      obtain ⟨span, s', hread, hshows⟩ := items_close hlayout h
      exact ⟨span, [], s', by rw [hread, List.append_nil], hshows, .nil⟩
  | @cons t ss form quoted lines hquoted _ ih =>
      rw [List.length_cons] at hfuel
      obtain ⟨fuel, rfl⟩ : ∃ less, fuel = less + 2 := ⟨fuel - 2, by omega⟩
      have hindented : ∀ l ∈ layout ++ [itemIndent], IsLayout l := by
        intro l hl
        rcases List.mem_append.mp hl with hl | hl
        · exact hlayout l hl
        · exact Or.inl (congrArg Prod.fst (List.mem_singleton.mp hl))
      have hbroken : ∀ l ∈ [((.newline, ['\n']) : Lexeme)], IsLayout l := by
        intro l hl
        exact Or.inr (List.mem_singleton.mp hl)
      rw [List.cons_append, List.append_cons, List.cons_append] at h
      obtain ⟨span, s', hitem, hcomma⟩ := items_text hindented h
      obtain ⟨s', hnext, hrest⟩ := items_comma hcomma
      obtain ⟨whole, vs, s', hread, hshows, hvs⟩ :=
        ih hbroken hrest (show 2 * ss.length < fuel by omega)
      refine ⟨whole, .scalar (some form) span quoted :: vs, s', ?_, hshows,
        .cons (readsAs_text hquoted span) hvs⟩
      rw [hitem, hnext, hread, List.reverse_cons, List.append_assoc, List.singleton_append]

/-- A word at the end of a line is a value of its own. -/
theorem value_word {word : List Char}
    (h : s.Shows ((.atom, word) :: (.newline, text) :: ls)) : ∃ span,
    value (fuel + 1) depth s = .ok (.scalar none span word, s.advance) ∧
    s.advance.Shows ((.newline, text) :: ls) := by
  obtain ⟨span, rest, hrest, -⟩ := h.exists_cons
  obtain ⟨after, rest', hrest', -⟩ := h.advance.exists_cons
  refine ⟨span, ?_, h.advance⟩
  rw [value, hrest]
  simp only [List.length_cons, unquotedTail, hrest']

/-- The opening bracket of a list. -/
theorem value_list (h : s.Shows ((.leftBracket, text) :: ls)) (hdepth : depth < deepest) :
    ∃ span, value (fuel + 1) depth s = items fuel (depth + 1) span true [] s.advance := by
  obtain ⟨span, rest, hrest, -⟩ := h.exists_cons
  refine ⟨span, ?_⟩
  rw [value, hrest]
  dsimp only
  rw [if_neg (by simpa using Nat.ne_of_lt hdepth)]

/-- Each text has tokens on its line. -/
theorem ItemTokens.length_le {ss : List String} {lines : List Lexeme} (h : ItemTokens ss lines) :
    ss.length ≤ lines.length := by
  induction h with
  | nil => exact Nat.le_refl 0
  | cons _ _ ih =>
      simp only [List.length_cons]
      omega

/-- **A value is read from its tokens**, up to the end of its line. -/
theorem value_tokens {w : Written} {tokens : List Lexeme} (hvalue : ValueTokens w tokens)
    (h : s.Shows (tokens ++ (.newline, text) :: ls)) (hdepth : depth < deepest)
    (hfuel : 2 * tokens.length + 2 ≤ fuel) : ∃ v s',
    value fuel depth s = .ok (v, s') ∧ s'.Shows ((.newline, text) :: ls) ∧ ReadsAs v w := by
  obtain ⟨fuel, rfl⟩ : ∃ less, fuel = less + 1 := ⟨fuel - 1, by omega⟩
  cases hvalue with
  | @text t form quoted hquoted =>
      obtain ⟨span, rest, hrest, -⟩ := h.exists_cons
      refine ⟨_, s.advance, ?_, h.advance, readsAs_text hquoted span⟩
      rw [value, hrest]
  | natural n =>
      obtain ⟨span, hread, hshows⟩ := value_word h
      exact ⟨_, _, hread, hshows, readsAs_natural n span⟩
  | flag b =>
      obtain ⟨span, hread, hshows⟩ := value_word h
      exact ⟨_, _, hread, hshows, readsAs_flag b span⟩
  | noTexts =>
      obtain ⟨fuel, rfl⟩ : ∃ less, fuel = less + 1 := ⟨fuel - 1, by simp at hfuel; omega⟩
      obtain ⟨opening, hopened⟩ := value_list h hdepth
      have hshown : s.advance.Shows ([] ++ (.rightBracket, [']']) :: _) := h.advance
      obtain ⟨span, s', hread, hshows⟩ := items_close (List.forall_mem_nil IsLayout) hshown
      exact ⟨_, s', hopened.trans hread, hshows, readsAs_texts span .nil⟩
  | @oneText t form quoted hquoted =>
      obtain ⟨fuel, rfl⟩ : ∃ less, fuel = less + 2 := ⟨fuel - 2, by simp at hfuel; omega⟩
      obtain ⟨opening, hopened⟩ := value_list h hdepth
      have hshown : s.advance.Shows ([] ++ (.string form, quoted) :: _) := h.advance
      obtain ⟨inner, s', hitem, hclosing⟩ := items_text (List.forall_mem_nil IsLayout) hshown
      have hclosing : s'.Shows ([] ++ (.rightBracket, [']']) :: _) := hclosing
      obtain ⟨span, s', hread, hshows⟩ := items_close (List.forall_mem_nil IsLayout) hclosing
      exact ⟨_, s', hopened.trans (hitem.trans hread), hshows,
        readsAs_texts span (.cons (readsAs_text hquoted inner) .nil)⟩
  | @moreTexts ss lines hlines =>
      simp only [List.cons_append, List.append_assoc, List.nil_append] at h
      obtain ⟨opening, hopened⟩ := value_list h hdepth
      have hbroken : ∀ l ∈ [((.newline, ['\n']) : Lexeme)], IsLayout l := fun l hl =>
        Or.inr (List.mem_singleton.mp hl)
      have hshown : s.advance.Shows ([(.newline, ['\n'])] ++ (lines ++
          (.rightBracket, [']']) :: (.newline, text) :: ls)) := h.advance
      have hlength := hlines.length_le
      have henough : 2 * ss.length < fuel := by
        simp only [List.length_append, List.length_cons] at hfuel
        omega
      obtain ⟨span, vs, s', hread, hshows, hvs⟩ := items_lines hlines hbroken hshown henough
      exact ⟨_, s', hopened.trans hread, hshows, readsAs_texts span hvs⟩

end SceneRender.Toml
