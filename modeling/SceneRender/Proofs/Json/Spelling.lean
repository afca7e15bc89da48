import SceneRender.Json.Document
import SceneRender.Json.Printer

/-!
# Spellings in a JSON document

The same text may be written with or without escapes, and the members of a record may
stand in any order, with blanks around each of them.  The relations here say what is a
spelling of what, apart from how it is read:

* `SpellsText` for texts between quotes;
* `SpellsMembers` and `SpellsItems` for what follows the opening bracket of a record or of
  a list, given by names and by the spellings of the values.

Each reader takes a spelling as a whole, whatever follows it, and stops behind it (`Reads`).
Only a number needs to know that it ends (`Ends`): a digit, a point or an exponent behind
it would belong to it.
-/

namespace SceneRender.Json

variable {ε α β : Type} {rest : List Char} {place : Place}

/-! ## What is taken -/

/-- A thing is read, and the cursor stands where `rest` begins. -/
def Reads (r : Except ε (α × Cursor)) (a : α) (rest : List Char) : Prop :=
  ∃ place, r = .ok (a, ⟨rest, place⟩)

/-- The cursor is moved to where `rest` begins. -/
def Reaches (r : Except ε Cursor) (rest : List Char) : Prop := ∃ place, r = .ok ⟨rest, place⟩

/-- What is read first, and then what comes behind it. -/
theorem Reads.bind {r : Except ε (α × Cursor)} {a : α} {f : α × Cursor → Except ε (β × Cursor)}
    {b : β} {rest' : List Char} (h : Reads r a rest)
    (hf : ∀ place, Reads (f (a, ⟨rest, place⟩)) b rest') : Reads (r >>= f) b rest' := by
  obtain ⟨place, rfl⟩ := h
  exact hf place

/-- What reads on from the place that was reached reads. -/
theorem Reaches.bind {r : Except ε Cursor} {f : Cursor → Except ε (β × Cursor)} {b : β}
    {rest' : List Char} (h : Reaches r rest) (hf : ∀ place, Reads (f ⟨rest, place⟩) b rest') :
    Reads (r >>= f) b rest' := by
  obtain ⟨place, rfl⟩ := h
  exact hf place

/-! ## Blanks -/

/-- Nothing but blanks. -/
def Blanks (cs : List Char) : Prop := ∀ c ∈ cs, Cursor.isSpace c = true

/-- No characters are blanks. -/
theorem Blanks.nil : Blanks [] := nofun

/-- Does a text begin with something else than a blank? -/
def Solid (cs : List Char) : Prop := ∀ c ∈ cs.head?, Cursor.isSpace c = false

/-- A text is solid if its first character is no blank. -/
theorem solid_cons {c : Char} (h : Cursor.isSpace c = false) : Solid (c :: rest) := by
  intro c' hc'
  rwa [← Option.some.inj hc']

/-- Blanks are passed, up to what is not blank. -/
theorem Cursor.pastSpaces_blanks {bs : List Char} (hbs : Blanks bs) (hrest : Solid rest)
    (place : Place) : ∃ place', Cursor.pastSpaces ⟨bs ++ rest, place⟩ = ⟨rest, place'⟩ := by
  induction bs generalizing place with
  | nil =>
      cases rest with
      | nil => exact ⟨place, rfl⟩
      | cons c rest =>
          have hc : Cursor.isSpace c = false := hrest c rfl
          exact ⟨place, by simp [pastSpaces, skipSpaces, hc]⟩
  | cons b bs ih =>
      obtain ⟨hb, hbs⟩ := List.forall_mem_cons.mp hbs
      obtain ⟨place', hpast⟩ := ih hbs (place.after b)
      refine ⟨place', ?_⟩
      rw [← hpast]
      simp [pastSpaces, skipSpaces, hb]

/-- Blanks are skipped up to the first other character. -/
theorem Cursor.pastSpaces_cons {bs : List Char} (hbs : Blanks bs) {c : Char}
    (hc : Cursor.isSpace c = false) (rest : List Char) (place : Place) :
    ∃ place', Cursor.pastSpaces ⟨bs ++ c :: rest, place⟩ = ⟨c :: rest, place'⟩ :=
  pastSpaces_blanks hbs (solid_cons hc) place

/-! ## Texts -/

/-- The letters of short escapes, with what they stand for. -/
def shortEscapes : List (Char × Char) :=
  [('"', '"'), ('\\', '\\'), ('/', '/'), ('b', Char.ofNat 8), ('f', Char.ofNat 12),
    ('n', '\n'), ('r', '\r'), ('t', '\t')]

/-- A character as it may stand between quotes. -/
inductive SpellsChar : Char → List Char → Prop
  | plain {c : Char} (printable : 32 ≤ c.toNat) (noQuote : c ≠ '"') (noBackslash : c ≠ '\\') :
      SpellsChar c [c]
  | short {letter c : Char} (escape : (letter, c) ∈ shortEscapes) : SpellsChar c ['\\', letter]
  /-- Four hexadecimal digits for a character that is not half of a pair. -/
  | coded {x y z w : Char} {n : Nat} (digits : hexValue4? x y z w = some n)
      (single : n < 0xD800 ∨ 0xDFFF < n) :
      SpellsChar (Char.ofNat n) ['\\', 'u', x, y, z, w]
  /-- Two codes for a character beyond U+FFFF. -/
  | paired {x y z w x' y' z' w' : Char} {high low : Nat}
      (highDigits : hexValue4? x y z w = some high) (isHigh : 0xD800 ≤ high ∧ high ≤ 0xDBFF)
      (lowDigits : hexValue4? x' y' z' w' = some low) (isLow : 0xDC00 ≤ low ∧ low ≤ 0xDFFF) :
      SpellsChar (Char.ofNat (0x10000 + (high - 0xD800) * 0x400 + (low - 0xDC00)))
        ['\\', 'u', x, y, z, w, '\\', 'u', x', y', z', w']

/-- Characters one after the other. -/
inductive SpellsChars : List Char → List Char → Prop
  | nil : SpellsChars [] []
  | cons {c : Char} {s cs text : List Char} (head : SpellsChar c cs) (tail : SpellsChars s text) :
      SpellsChars (c :: s) (cs ++ text)

/-- A text with its quotes. -/
inductive SpellsText (s : String) : List Char → Prop
  | quoted {text : List Char} (chars : SpellsChars s.toList text) :
      SpellsText s ('"' :: text ++ ['"'])

/-- The codes of control characters are read back. -/
theorem hexValue4?_control : ∀ n < 32,
    hexValue4? '0' '0' (hexDigit (n / 16)) (hexDigit (n % 16)) = some n := by
  decide

/-- How a character is written by the printer is one of its spellings. -/
theorem spellsChar_escapeChar (c : Char) : SpellsChar c (escapeChar c) := by
  rw [escapeChar.eq_def]
  split
  · exact .short (by decide)
  · exact .short (by decide)
  · exact .short (by decide)
  · exact .short (by decide)
  · exact .short (by decide)
  · next hquote hbackslash _ _ _ =>
    have hself : Char.ofNat c.toNat = c := Char.ofNat_toNat c
    split
    · next heq =>
      rw [← hself, beq_iff_eq.mp heq]
      exact .short (by decide)
    · split
      · next heq =>
        rw [← hself, beq_iff_eq.mp heq]
        exact .short (by decide)
      · split
        · next hcontrol =>
          have hcode := SpellsChar.coded (hexValue4?_control c.toNat hcontrol) (Or.inl (by omega))
          rwa [hself] at hcode
        · next hprintable =>
          exact .plain (Nat.not_lt.mp hprintable) hquote hbackslash

/-- The printer spells the characters that it escapes. -/
theorem spellsChars_escaped (s : List Char) : SpellsChars s (s.flatMap escapeChar) := by
  induction s with
  | nil => exact .nil
  | cons c s ih => exact .cons (spellsChar_escapeChar c) ih

/-- So is how a text is written. -/
theorem spellsText_quote (s : String) : SpellsText s (quote s).toList := by
  rw [quote, String.toList_ofList]
  exact .quoted (spellsChars_escaped s.toList)

namespace Cursor

/-- Four hexadecimal digits are read as their number. -/
theorem reads_hexEscape {x y z w : Char} {n : Nat} (h : hexValue4? x y z w = some n)
    (place : Place) : Reads (hexEscape ⟨x :: y :: z :: w :: rest, place⟩) n rest :=
  ⟨place.afterBytes 4 (x :: y :: z :: w :: rest), by simp only [hexEscape, h]⟩

/-- A number outside the surrogates is read as its character. -/
theorem reads_unicodeEscape_coded {x y z w : Char} {n : Nat} (h : hexValue4? x y z w = some n)
    (hsingle : n < 0xD800 ∨ 0xDFFF < n) (place : Place) :
    Reads (unicodeEscape ⟨x :: y :: z :: w :: rest, place⟩) (Char.ofNat n) rest := by
  refine (reads_hexEscape h place).bind fun place => ?_
  have hnotLow : ¬ (decide (0xDC00 ≤ n) && decide (n ≤ 0xDFFF)) = true := by
    simp only [Bool.and_eq_true, decide_eq_true_eq]
    omega
  have hnotHigh : (decide (n < 0xD800) || decide (0xDBFF < n)) = true := by
    simp only [Bool.or_eq_true, decide_eq_true_eq]
    omega
  dsimp only
  rw [if_neg hnotLow, if_pos hnotHigh]
  exact ⟨place, rfl⟩

/-- Two surrogates are read as one character. -/
theorem reads_unicodeEscape_paired {x y z w x' y' z' w' : Char} {high low : Nat}
    (h : hexValue4? x y z w = some high) (hhigh : 0xD800 ≤ high ∧ high ≤ 0xDBFF)
    (h' : hexValue4? x' y' z' w' = some low) (hlow : 0xDC00 ≤ low ∧ low ≤ 0xDFFF)
    (place : Place) :
    Reads (unicodeEscape
      ⟨x :: y :: z :: w :: '\\' :: 'u' :: x' :: y' :: z' :: w' :: rest, place⟩)
      (Char.ofNat (0x10000 + (high - 0xD800) * 0x400 + (low - 0xDC00))) rest := by
  refine (reads_hexEscape h place).bind fun place => ?_
  have hnotLow : ¬ (decide (0xDC00 ≤ high) && decide (high ≤ 0xDFFF)) = true := by
    simp only [Bool.and_eq_true, decide_eq_true_eq]
    omega
  have hisHigh : ¬ (decide (high < 0xD800) || decide (0xDBFF < high)) = true := by
    simp only [Bool.or_eq_true, decide_eq_true_eq]
    omega
  have hisLow : ¬ (decide (low < 0xDC00) || decide (0xDFFF < low)) = true := by
    simp only [Bool.or_eq_true, decide_eq_true_eq]
    omega
  dsimp only
  rw [if_neg hnotLow, if_neg hisHigh]
  refine (reads_hexEscape h' ((place.after '\\').after 'u')).bind fun place => ?_
  dsimp only
  rw [if_neg hisLow]
  exact ⟨place, rfl⟩

/-- A short escape is read as its character. -/
theorem reads_escape_short {letter c : Char} (h : (letter, c) ∈ shortEscapes) (place : Place) :
    Reads (escape ⟨letter :: rest, place⟩) c rest := by
  simp only [shortEscapes, List.mem_cons, Prod.mk.injEq, List.not_mem_nil, or_false] at h
  rcases h with ⟨rfl, rfl⟩ | ⟨rfl, rfl⟩ | ⟨rfl, rfl⟩ | ⟨rfl, rfl⟩ | ⟨rfl, rfl⟩ | ⟨rfl, rfl⟩ |
    ⟨rfl, rfl⟩ | ⟨rfl, rfl⟩ <;>
  exact ⟨_, rfl⟩

/-- A character that is written by an escape, taken as the next one of a text. -/
theorem textChars_escape {cs : List Char} {c : Char} {place : Place} (fuel : Nat)
    (taken : List Char) (h : Reads (escape ⟨cs, place.after '\\'⟩) c rest) :
    ∃ place', textChars (fuel + 1) taken ⟨'\\' :: cs, place⟩ =
      textChars fuel (c :: taken) ⟨rest, place'⟩ := by
  obtain ⟨place', hescape⟩ := h
  refine ⟨place', ?_⟩
  change (escape ⟨cs, place.after '\\'⟩ >>= fun x => textChars fuel (x.1 :: taken) x.2) = _
  rw [hescape]
  rfl

/-- **A spelled character is taken as one character.** -/
theorem textChars_spelled {c : Char} {cs : List Char} (h : SpellsChar c cs) (rest : List Char)
    (fuel : Nat) (taken : List Char) (place : Place) : ∃ place',
      textChars (fuel + 1) taken ⟨cs ++ rest, place⟩ =
        textChars fuel (c :: taken) ⟨rest, place'⟩ := by
  cases h with
  | plain printable noQuote noBackslash =>
      have hnot : ¬ c.toNat < 32 := Nat.not_lt.mpr printable
      refine ⟨place.after c, ?_⟩
      rw [List.singleton_append, textChars]
      split
      · contradiction
      · next heq => exact absurd (List.cons.inj heq).1 noQuote
      · next heq => exact absurd (List.cons.inj heq).1 noBackslash
      · next heq =>
        obtain ⟨rfl, rfl⟩ := List.cons.inj heq
        rw [if_neg hnot]
        rfl
  | short escape => exact textChars_escape fuel taken (reads_escape_short escape _)
  | coded digits single =>
      exact textChars_escape fuel taken (reads_unicodeEscape_coded digits single _)
  | paired highDigits isHigh lowDigits isLow =>
      exact textChars_escape fuel taken
        (reads_unicodeEscape_paired highDigits isHigh lowDigits isLow _)

/-- The characters of a text are read up to the quote. -/
theorem reads_textChars {s text : List Char} (h : SpellsChars s text) {fuel : Nat}
    (hfuel : s.length < fuel) (taken : List Char) (place : Place) :
    Reads (textChars fuel taken ⟨text ++ '"' :: rest, place⟩) (s.reverse ++ taken) rest := by
  induction h generalizing fuel taken place with
  | nil =>
      obtain ⟨fuel, rfl⟩ := Nat.exists_eq_succ_of_ne_zero (Nat.ne_zero_of_lt hfuel)
      exact ⟨_, rfl⟩
  | @cons c s cs text head tail ih =>
      obtain ⟨fuel, rfl⟩ := Nat.exists_eq_succ_of_ne_zero (Nat.ne_zero_of_lt hfuel)
      obtain ⟨place', hstep⟩ := textChars_spelled head (text ++ '"' :: rest) fuel taken place
      rw [List.append_assoc, hstep, List.reverse_cons, List.append_assoc]
      exact ih (Nat.lt_of_succ_lt_succ hfuel) (c :: taken) place'

end Cursor

/-- Every character takes up some room. -/
theorem SpellsChars.length_le {s text : List Char} (h : SpellsChars s text) :
    s.length ≤ text.length := by
  induction h with
  | nil => exact Nat.le_refl 0
  | @cons c s cs text head tail ih =>
      have hroom : 1 ≤ cs.length := by cases head <;> simp
      rw [List.length_cons, List.length_append]
      omega

/-- **A spelled text is read** behind its opening quote, whatever follows. -/
theorem SpellsText.reads {s : String} {cs : List Char} (h : SpellsText s cs) :
    ∃ tail, cs = '"' :: tail ∧
      ∀ rest place, Reads (Cursor.text ⟨tail ++ rest, place⟩) s rest := by
  obtain @⟨text, chars⟩ := h
  refine ⟨text ++ ['"'], rfl, fun rest place => ?_⟩
  have hroom : s.toList.length < (text ++ ['"'] ++ rest).length + 1 := by
    have hle := chars.length_le
    simp only [List.length_append]
    omega
  rw [List.append_assoc, List.singleton_append] at hroom ⊢
  refine (Cursor.reads_textChars chars hroom [] place).bind fun place => ⟨place, ?_⟩
  simp [pure, Except.pure]

/-! ## Numbers -/

/-- Does a number end where the text begins? -/
def Ends (cs : List Char) : Prop :=
  ∀ c ∈ cs.head?, c.isDigit = false ∧ c ≠ '.' ∧ c ≠ 'e' ∧ c ≠ 'E'

/-- A number ends before a character that cannot go on with it. -/
theorem ends_cons {c : Char} (h : c.isDigit = false ∧ c ≠ '.' ∧ c ≠ 'e' ∧ c ≠ 'E') :
    Ends (c :: rest) := by
  intro c' hc'
  rwa [← Option.some.inj hc']

/-- The value of digits does not fall below what was there before. -/
theorem le_ofDigitChars (ds : List Char) (n : Nat) : n ≤ Nat.ofDigitChars 10 ds n := by
  induction ds generalizing n with
  | nil => exact Nat.le_refl n
  | cons d ds ih =>
      rw [Nat.ofDigitChars_cons]
      exact Nat.le_trans (by omega) (ih _)

/-- Digits are taken up to their end, as long as their value fits. -/
theorem Cursor.significandDigits_digits {ds : List Char} (hds : ∀ d ∈ ds, d.isDigit = true)
    (hrest : Ends rest) {n : Nat} (hfits : Nat.ofDigitChars 10 ds n ≤ maxSignificand) (count : Nat)
    (place : Place) : ∃ place', significandDigits (ds ++ rest) n count place =
      (Nat.ofDigitChars 10 ds n, count + ds.length, ⟨rest, place'⟩) := by
  induction ds generalizing n count place with
  | nil =>
      refine ⟨place, ?_⟩
      cases rest with
      | nil => rfl
      | cons c rest =>
          have hc : c.isDigit = false := (hrest c rfl).1
          simp [significandDigits, hc]
  | cons d ds ih =>
      obtain ⟨hd, hds⟩ := List.forall_mem_cons.mp hds
      rw [Nat.ofDigitChars_cons] at hfits ⊢
      have hnext : n * 10 + (d.toNat - '0'.toNat) ≤ maxSignificand := by
        have hle := le_ofDigitChars ds (10 * n + (d.toNat - '0'.toNat))
        omega
      obtain ⟨place', htaken⟩ := ih hds hfits (count + 1) (place.after d)
      refine ⟨place', ?_⟩
      rw [List.cons_append, significandDigits,
        if_pos (Bool.and_eq_true_iff.mpr ⟨hd, decide_eq_true hnext⟩), Nat.mul_comm n 10, htaken,
        List.length_cons, Nat.add_right_comm, Nat.add_assoc]

/-- The decimal digits of a number begin with nought only if there is no other digit. -/
theorem toDigits_eq_zero_cons {n : Nat} {ds : List Char} (h : Nat.toDigits 10 n = '0' :: ds) :
    ds = [] := by
  induction n using Nat.strongRecOn generalizing ds with
  | ind n ih =>
      rw [Nat.toDigits_eq_if (by omega)] at h
      split at h
      · exact (List.cons.inj h).2.symm
      · next hlarge =>
        -- the leading digit of a larger number is that of its tenth
        obtain ⟨d, tenth, htenth⟩ :=
          List.exists_cons_of_ne_nil (Nat.toDigits_ne_nil (n := n / 10) (b := 10))
        rw [htenth, List.cons_append] at h
        obtain ⟨rfl, -⟩ := List.cons.inj h
        obtain rfl := ih (n / 10) (by omega) htenth
        have hvalue := Nat.ofDigitChars_ten_toDigits (n := n / 10)
        rw [htenth] at hvalue
        have hzero : Nat.ofDigitChars 10 ['0'] 0 = 0 := rfl
        omega

/-- Where a number ends there is nothing more of it. -/
theorem Cursor.number_ended (hrest : Ends rest) (place : Place) :
    rest.takeWhile Char.isDigit = [] ∧ pastDigits ⟨rest, place⟩ = ⟨rest, place⟩ ∧
      (peek? ⟨rest, place⟩ == some '.') = false ∧ atExponent ⟨rest, place⟩ = false := by
  cases rest with
  | nil => exact ⟨rfl, rfl, rfl, rfl⟩
  | cons c rest =>
      obtain ⟨hdigit, hpoint, hexp, hexp'⟩ := hrest c rfl
      refine ⟨?_, ?_, ?_, ?_⟩
      · simp [hdigit]
      · simp [pastDigits, skipDigits, hdigit]
      · simp [peek?, hpoint]
      · simp [atExponent, peek?, hexp, hexp']

/-- **The digits of a number are read**, if they end. -/
theorem Cursor.reads_number {n : Nat} (hn : n ≤ maxSignificand) (hrest : Ends rest)
    (place : Place) : Reads (number ⟨Nat.toDigits 10 n ++ rest, place⟩ false) (.natural n) rest := by
  have hdigits : ∀ d ∈ Nat.toDigits 10 n, d.isDigit = true := fun d hd =>
    Nat.isDigit_of_mem_toDigits (by omega) (by omega) hd
  have hvalue := Nat.ofDigitChars_ten_toDigits (n := n)
  obtain ⟨place', htaken⟩ := significandDigits_digits hdigits hrest (hvalue.symm ▸ hn) 0 place
  rw [hvalue] at htaken
  obtain ⟨hdropped, hpast, hpoint, hexponent⟩ := number_ended hrest place'
  obtain ⟨d, ds, hcons⟩ := List.exists_cons_of_ne_nil (Nat.toDigits_ne_nil (n := n) (b := 10))
  rw [hcons] at hdigits htaken ⊢
  have hd : d.isDigit = true := hdigits d List.mem_cons_self
  -- nought stands in front of no other digit
  have hlead : (d == '0' && (ds ++ rest).head?.any Char.isDigit) = false := by
    by_cases hzero : d = '0'
    · obtain rfl := toDigits_eq_zero_cons (hzero ▸ hcons)
      cases rest with
      | nil => simp
      | cons c rest => simp [(hrest c rfl).1]
    · simp [hzero]
  refine ⟨place', ?_⟩
  rw [List.cons_append] at htaken ⊢
  rw [peek?] at hpoint
  simp only [number, hd, advance, peek?, hlead, htaken, hdropped, hpast, hpoint, hexponent]
  rfl

/-! ## Records and lists -/

/-- What stands in front of a member or an item: blanks, and a comma among them unless it is
the first one. -/
inductive Lead : Bool → List Char → Prop
  | first {bs : List Char} (blanks : Blanks bs) : Lead true bs
  | next {bs bs' : List Char} (before : Blanks bs) (after : Blanks bs') :
      Lead false (bs ++ ',' :: bs')

/-- The members of a record up to its closing brace, each given by its name and by how its
value is written. -/
inductive SpellsMembers : Bool → List (String × List Char) → List Char → Prop
  | closed {first : Bool} {bs : List Char} (blanks : Blanks bs) :
      SpellsMembers first [] (bs ++ ['\x7d'])
  | member {first : Bool} {lead nameText bs bs' value text : List Char} {name : String}
      {members : List (String × List Char)} (leads : Lead first lead)
      (names : SpellsText name nameText) (before : Blanks bs) (after : Blanks bs')
      (rest : SpellsMembers false members text) :
      SpellsMembers first ((name, value) :: members)
        (lead ++ nameText ++ bs ++ ':' :: bs' ++ value ++ text)

/-- The items of a list up to its closing bracket, each given by how it is written. -/
inductive SpellsItems : Bool → List (List Char) → List Char → Prop
  | closed {first : Bool} {bs : List Char} (blanks : Blanks bs) :
      SpellsItems first [] (bs ++ [']'])
  | item {first : Bool} {lead value text : List Char} {items : List (List Char)}
      (leads : Lead first lead) (rest : SpellsItems false items text) :
      SpellsItems first (value :: items) (lead ++ value ++ text)

/-- The compact form of a record spells its members, without any blank. -/
theorem spellsMembers_compact {first : Bool} {lead : List Char} (leads : Lead first lead)
    (name : String) (v : Value) (fields : List (String × Value)) :
    SpellsMembers first (((name, v) :: fields).map fun f => (f.1, f.2.compact.toList))
      (lead ++ (",".intercalate (Value.compactFields ((name, v) :: fields))).toList ++ ['\x7d']) := by
  induction fields generalizing first lead name v with
  | nil =>
      have hmember : SpellsMembers first [(name, v.compact.toList)] _ :=
        .member leads (spellsText_quote name) Blanks.nil Blanks.nil (.closed Blanks.nil)
      simpa [Value.compactFields] using hmember
  | cons f fields ih =>
      obtain ⟨name', v'⟩ := f
      have hmember : SpellsMembers first ((name, v.compact.toList) :: _) _ :=
        .member leads (spellsText_quote name) Blanks.nil Blanks.nil
          (ih (.next Blanks.nil Blanks.nil) name' v')
      simpa [Value.compactFields, String.intercalate_cons_cons] using hmember

/-- Does a text begin like an item, and not with a blank or the end of a list? -/
def BeginsItem (value : List Char) : Prop :=
  ∃ c tail, value = c :: tail ∧ Cursor.isSpace c = false ∧ c ≠ ']'

/-- A number ends at blanks that something solid follows. -/
theorem Blanks.ends {bs : List Char} (h : Blanks bs) {c : Char} (hc : Ends (c :: rest)) :
    Ends (bs ++ c :: rest) := by
  cases bs with
  | nil => exact hc
  | cons b bs =>
      have hb : Cursor.isSpace b = true := h b List.mem_cons_self
      simp only [Cursor.isSpace, Bool.or_eq_true, beq_iff_eq] at hb
      refine ends_cons ?_
      rcases hb with ((rfl | rfl) | rfl) | rfl <;> decide

/-- A number ends before a comma. -/
theorem Lead.ends {lead : List Char} (h : Lead false lead) : Ends (lead ++ rest) := by
  obtain _ | ⟨before, after⟩ := h
  rw [List.append_assoc]
  exact before.ends (ends_cons (by decide))

/-- A number ends before the next member. -/
theorem SpellsMembers.ends {members : List (String × List Char)} {text : List Char}
    (h : SpellsMembers false members text) : Ends (text ++ rest) := by
  cases h with
  | closed blanks =>
      rw [List.append_assoc]
      exact blanks.ends (ends_cons (by decide))
  | member leads =>
      simp only [List.append_assoc]
      exact leads.ends

/-- Every member takes up some room. -/
theorem SpellsMembers.length_le {first : Bool} {members : List (String × List Char)}
    {text : List Char} (h : SpellsMembers first members text) : members.length ≤ text.length := by
  induction h with
  | closed blanks => exact Nat.zero_le _
  | member leads names before after rest ih =>
      simp only [List.length_append, List.length_cons]
      omega

/-- A number ends before the next item. -/
theorem SpellsItems.ends {items : List (List Char)} {text : List Char}
    (h : SpellsItems false items text) : Ends (text ++ rest) := by
  cases h with
  | closed blanks =>
      rw [List.append_assoc]
      exact blanks.ends (ends_cons (by decide))
  | item leads =>
      simp only [List.append_assoc]
      exact leads.ends

namespace Cursor

/-- The colon is taken, with the blanks in front of it. -/
theorem reaches_colon {bs : List Char} (hbs : Blanks bs) (place : Place) :
    Reaches (colon ⟨bs ++ ':' :: rest, place⟩) rest := by
  obtain ⟨place', hpast⟩ := pastSpaces_cons hbs (c := ':') (by decide) rest place
  refine ⟨place'.after ':', ?_⟩
  rw [colon, hpast]
  rfl

/-- The closing brace of a record is seen. -/
theorem reads_nextField_closed {bs : List Char} (hbs : Blanks bs) (first : Bool) (place : Place) :
    Reads (nextField ⟨bs ++ '\x7d' :: rest, place⟩ first) false ('\x7d' :: rest) := by
  obtain ⟨place', hpast⟩ := pastSpaces_cons hbs (c := '\x7d') (by decide) rest place
  refine ⟨place', ?_⟩
  rw [nextField, hpast]
  rfl

/-- A member of a record is seen behind what leads to it. -/
theorem reads_nextField {lead : List Char} {first : Bool} (h : Lead first lead) (place : Place) :
    Reads (nextField ⟨lead ++ '"' :: rest, place⟩ first) true ('"' :: rest) := by
  have hquote : Solid ('"' :: rest) := solid_cons (by decide)
  cases h with
  | first blanks =>
      obtain ⟨place', hpast⟩ := pastSpaces_blanks blanks hquote place
      refine ⟨place', ?_⟩
      rw [nextField, hpast]
      rfl
  | @next bs bs' before after =>
      obtain ⟨place', hpast⟩ := pastSpaces_cons before (c := ',') (by decide)
        (bs' ++ '"' :: rest) place
      obtain ⟨place'', hpast'⟩ := pastSpaces_blanks after hquote (place'.after ',')
      refine ⟨place'', ?_⟩
      rw [List.append_assoc, List.cons_append, nextField, hpast]
      dsimp only [advance]
      rw [hpast']
      rfl

/-- The closing bracket of a list is seen. -/
theorem reads_nextItem_closed {bs : List Char} (hbs : Blanks bs) (first : Bool) (place : Place) :
    Reads (nextItem ⟨bs ++ ']' :: rest, place⟩ first) false (']' :: rest) := by
  obtain ⟨place', hpast⟩ := pastSpaces_cons hbs (c := ']') (by decide) rest place
  refine ⟨place', ?_⟩
  rw [nextItem, hpast]
  rfl

/-- An item of a list is seen behind what leads to it. -/
theorem reads_nextItem {lead value : List Char} {first : Bool} (h : Lead first lead)
    (hvalue : BeginsItem value) (rest : List Char) (place : Place) :
    Reads (nextItem ⟨lead ++ (value ++ rest), place⟩ first) true (value ++ rest) := by
  obtain ⟨c, tail, rfl, hc⟩ := hvalue
  rw [List.cons_append]
  have hsolid : Solid (c :: (tail ++ rest)) := solid_cons hc.1
  cases h with
  | first blanks =>
      obtain ⟨place', hpast⟩ := pastSpaces_blanks blanks hsolid place
      refine ⟨place', ?_⟩
      rw [nextItem, hpast]
      dsimp only
      split
      · contradiction
      · next heq => exact absurd (List.cons.inj heq).1 hc.2
      · rfl
  | @next bs bs' before after =>
      obtain ⟨place', hpast⟩ := pastSpaces_cons before (c := ',') (by decide)
        (bs' ++ c :: (tail ++ rest)) place
      obtain ⟨place'', hpast'⟩ := pastSpaces_blanks after hsolid (place'.after ',')
      refine ⟨place'', ?_⟩
      rw [List.append_assoc, List.cons_append, nextItem, hpast]
      dsimp only [advance]
      rw [hpast']
      split
      · contradiction
      · next heq => exact absurd (List.cons.inj heq).1 (by decide)
      · next heq =>
          rw [← (List.cons.inj heq).1, if_neg (by decide), if_neg (by decide)]
          split
          · contradiction
          · next heq => exact absurd (List.cons.inj heq).1 hc.2
          · rfl

end Cursor

end SceneRender.Json
