import SceneRender.Toml.Printer
import SceneRender.Toml.Scalar
import Mathlib.Data.List.TakeWhile

/-!
# Quoted texts of a TOML document

A text may be written in four forms, with escapes or without, on one line or over several.
`QuotedAs` says what is a spelling of what, apart from how it is written and read:

* the printer's form is one of the spellings (`quotedAs_writeText`);
* a spelling is cut from a document as one token, whatever follows it (`nextToken_quoted`);
* its value is the text that it spells (`stringText_quoted`).

A string ends at its quotes, so the second fact needs that no such quotes are inside it: in a
short string there is none, and in a long string never more than two stand in a row (`Calm`).
The third needs no such thing: it follows the characters one by one (`SpellsChars`).
-/

namespace SceneRender.Toml

variable {form : StringForm} {c : Char} {cs text body rest : List Char}

/-! ## Characters -/

/-- The letters of short escapes, with what they stand for. -/
def shortEscapes : List (Char × Char) :=
  [('"', '"'), ('\\', '\\'), ('b', Char.ofNat 8), ('t', '\t'), ('n', '\n'), ('f', Char.ofNat 12),
    ('r', '\r')]

/-- A character as it may stand in a string of a form. -/
inductive SpellsChar (form : StringForm) (c : Char) : List Char → Prop
  | plain (held : stringMayHold form c = true) (whole : c = '\\' → form.hasEscapes = false) :
      SpellsChar form c [c]
  | short {letter : Char} (escapes : form.hasEscapes = true) (pair : (letter, c) ∈ shortEscapes) :
      SpellsChar form c ['\\', letter]
  /-- Four hexadecimal digits. -/
  | coded (escapes : form.hasEscapes = true) (ascii : c.toNat < 128) :
      SpellsChar form c ('\\' :: 'u' :: hex4 c.toNat)

/-- Characters one after the other. -/
inductive SpellsChars (form : StringForm) : List Char → List Char → Prop
  | nil : SpellsChars form [] []
  | cons {c : Char} {s cs text : List Char} (head : SpellsChar form c cs)
      (tail : SpellsChars form s text) : SpellsChars form (c :: s) (cs ++ text)

/-- Characters that stand for themselves. -/
theorem spellsChars_self (hform : form.hasEscapes = false)
    (hheld : ∀ c ∈ cs, stringMayHold form c = true) : SpellsChars form cs cs := by
  induction cs with
  | nil => exact .nil
  | cons c cs ih =>
      obtain ⟨hc, hcs⟩ := List.forall_mem_cons.mp hheld
      exact .cons (.plain hc fun _ => hform) (ih hcs)

/-- A character other than a quote between the quotes of a basic string. -/
def charText (long : Bool) (c : Char) : List Char :=
  if c == '\\' then ['\\', '\\']
  else if c == '\t' then ['\\', 't']
  else if c == '\n' then if long then ['\n'] else ['\\', 'n']
  else if c == '\r' then ['\\', 'r']
  else if c.toNat == 8 then ['\\', 'b']
  else if c.toNat == 12 then ['\\', 'f']
  else if isHardControl c then ['\\', 'u'] ++ hex4 c.toNat
  else [c]

/-- How many quotes may stand in a row in a string. -/
def freeQuotes (long : Bool) : Nat := if long then 2 else 0

/-- How a text is escaped, one character at a time. -/
theorem escaped_cons (long : Bool) (quotes : Nat) (c : Char) (rest : List Char) :
    escaped long quotes (c :: rest) =
      if c == '"' then
        if quotes < freeQuotes long then c :: escaped long (quotes + 1) rest
        else '\\' :: c :: escaped long 0 rest
      else charText long c ++ escaped long 0 rest := rfl

/-- The form of a string with escapes. -/
def basicForm (long : Bool) : StringForm := if long then .longBasic else .basic

/-- A basic text has escapes. -/
@[simp] theorem basicForm_hasEscapes (long : Bool) : (basicForm long).hasEscapes = true := by
  cases long <;> rfl

/-- A basic text is as long as it was said to be. -/
@[simp] theorem basicForm_isLong (long : Bool) : (basicForm long).isLong = long := by
  cases long <;> rfl

/-- A basic text stands in double quotes. -/
@[simp] theorem basicForm_quote (long : Bool) : (basicForm long).quote = '"' := by
  cases long <;> rfl

/-- A string may hold every character but the control characters. -/
theorem stringMayHold_of_soft (hsoft : isHardControl c = false)
    (hbreak : c = '\n' → form.isLong = true) : stringMayHold form c = true := by
  by_cases htab : c = '\t'
  · simp [stringMayHold, htab]
  · by_cases hnewline : c = '\n'
    · simp [stringMayHold, hnewline, hbreak hnewline]
    · simp only [isHardControl, htab, hnewline, ne_eq, Bool.or_eq_false_iff,
        Bool.and_eq_false_iff, decide_eq_false_iff_not, beq_eq_false_iff_ne, bne_eq_false_iff_eq,
        or_false, Nat.not_lt] at hsoft
      simp [stringMayHold, hsoft]

/-- The characters that are printed in a string spell what is meant. -/
theorem spellsChar_charText (long : Bool) (hquote : c ≠ '"') :
    SpellsChar (basicForm long) c (charText long c) := by
  have hself : Char.ofNat c.toNat = c := Char.ofNat_toNat c
  have hshort {letter : Char} (h : (letter, c) ∈ shortEscapes) :
      SpellsChar (basicForm long) c ['\\', letter] :=
    .short (basicForm_hasEscapes long) h
  by_cases hbackslash : c = '\\'
  · subst hbackslash
    exact hshort (by decide)
  by_cases htab : c = '\t'
  · subst htab
    exact hshort (by decide)
  by_cases hnewline : c = '\n'
  · subst hnewline
    cases long with
    | true => exact .plain (by decide) nofun
    | false => exact hshort (by decide)
  by_cases hreturn : c = '\r'
  · subst hreturn
    exact hshort (by decide)
  simp only [charText, beq_iff_eq, hbackslash, htab, hnewline, hreturn, if_false]
  split
  · next heq => exact hshort (by rw [← hself, heq]; decide)
  · split
    · next heq => exact hshort (by rw [← hself, heq]; decide)
    · split
      · next hhard =>
        refine .coded (basicForm_hasEscapes long) ?_
        simp only [isHardControl, Bool.or_eq_true, Bool.and_eq_true, decide_eq_true_eq,
          beq_iff_eq] at hhard
        omega
      · next hsoft =>
        exact .plain (stringMayHold_of_soft (eq_false_of_ne_true hsoft)
          fun h => absurd h hnewline) fun h => absurd h hbackslash

/-- **An escaped text spells the text.** -/
theorem spellsChars_escaped (long : Bool) (quotes : Nat) (cs : List Char) :
    SpellsChars (basicForm long) cs (escaped long quotes cs) := by
  induction cs generalizing quotes with
  | nil => exact .nil
  | cons c cs ih =>
      rw [escaped_cons]
      by_cases hquote : c = '"'
      · subst hquote
        have hplain : SpellsChar (basicForm long) '"' ['"'] :=
          .plain (by cases long <;> decide) fun h => absurd h (by decide)
        have hshort : SpellsChar (basicForm long) '"' ['\\', '"'] :=
          .short (basicForm_hasEscapes long) (by decide)
        rw [if_pos (beq_self_eq_true _)]
        split
        · exact .cons hplain (ih _)
        · exact .cons hshort (ih _)
      · rw [if_neg (by simpa using hquote)]
        exact .cons (spellsChar_charText long hquote) (ih _)

/-! ## Reading characters -/

/-- Does a character not continue the line that a backslash ends? -/
def GoesOn (c : Char) : Prop := (isBlankInLine c || c == '\r' || c == '\n') = false

instance : Decidable (GoesOn c) := inferInstanceAs (Decidable (_ = false))

/-- An escape is read as the character that it stands for. -/
theorem stringChars_escape (hescapes : form.hasEscapes = true) {letter : Char}
    (hletter : GoesOn letter) {offset : Nat} {p : Piece}
    (h : escape ⟨letter :: rest, offset + 1⟩ = .ok (c, p)) (fuel : Nat) (taken : List Char) :
    stringChars form (fuel + 1) taken ⟨'\\' :: letter :: rest, offset⟩ =
      stringChars form fuel (c :: taken) p := by
  rw [GoesOn] at hletter
  have hdrop : (Piece.mk ('\\' :: letter :: rest) offset).drop 1 = ⟨letter :: rest, offset + 1⟩ :=
    rfl
  rw [stringChars.eq_def]
  simp [hescapes, hdrop, hletter, h, bind, Except.bind]

/-- The short escapes are read. -/
theorem escape_short {letter : Char} (hpair : (letter, c) ∈ shortEscapes) (rest : List Char)
    (offset : Nat) :
    escape ⟨letter :: rest, offset⟩ = .ok (c, ⟨rest, offset + letter.utf8Size⟩) := by
  simp only [shortEscapes, List.mem_cons, Prod.mk.injEq, List.not_mem_nil, or_false] at hpair
  obtain ⟨rfl, rfl⟩ | ⟨rfl, rfl⟩ | ⟨rfl, rfl⟩ | ⟨rfl, rfl⟩ | ⟨rfl, rfl⟩ | ⟨rfl, rfl⟩ | ⟨rfl, rfl⟩ :=
    hpair <;> rfl

/-- The digits of an ASCII character's code spell its code. -/
theorem hexEscape_hex4 : ∀ n < 128, (hex4 n).length = 4 ∧
    ((hex4 n).all fun c => (hexValue? c).isSome) = true ∧
    (hex4 n).foldl (fun n c => n * 16 + (hexValue? c).getD 0) 0 = n := by
  decide +kernel

/-- The codes of ASCII characters are read. -/
theorem escape_coded (hascii : c.toNat < 128) (rest : List Char) (offset : Nat) :
    ∃ after, escape ⟨'u' :: (hex4 c.toNat ++ rest), offset⟩ = .ok (c, ⟨rest, after⟩) := by
  obtain ⟨hlength, hdigits, hvalue⟩ := hexEscape_hex4 c.toNat hascii
  have htake : (hex4 c.toNat ++ rest).take 4 = hex4 c.toNat := List.take_left' hlength
  have hrun : (hex4 c.toNat).takeWhile (fun c => (hexValue? c).isSome) = hex4 c.toNat :=
    List.takeWhile_eq_self_iff.mpr (List.all_eq_true.mp hdigits)
  have hdrop : (hex4 c.toNat ++ rest).drop 4 = rest := List.drop_left' hlength
  refine ⟨offset + 1 + byteCount (hex4 c.toNat), ?_⟩
  simp only [escape, hexEscape, Piece.drop, List.drop_succ_cons, List.drop_zero, htake, hrun,
    hlength, hvalue, hdrop, bne_self_eq_false, Bool.false_eq_true, if_false,
    show c.toNat < 0xD800 by omega, decide_true, Bool.true_or, if_true, Char.ofNat_toNat]
  rfl

/-- A character is read from what spells it, whatever follows. -/
theorem stringChars_spelled (h : SpellsChar form c cs) (fuel offset : Nat)
    (taken rest : List Char) : ∃ after,
    stringChars form (fuel + 1) taken ⟨cs ++ rest, offset⟩ =
      stringChars form fuel (c :: taken) ⟨rest, after⟩ := by
  cases h with
  | plain hheld hwhole =>
      have hreturn : c ≠ '\r' := by
        rintro rfl
        cases form <;> exact absurd hheld (by decide)
      have hescape : (c == '\\' && form.hasEscapes) = false := by
        by_cases hbackslash : c = '\\'
        · rw [hwhole hbackslash, Bool.and_false]
        · rw [beq_eq_false_iff_ne.mpr hbackslash, Bool.false_and]
      refine ⟨offset + c.utf8Size, ?_⟩
      rw [stringChars.eq_def]
      simp [hescape, hheld, Piece.drop, byteCount]
  | short hescapes hpair =>
      refine ⟨_, stringChars_escape hescapes ?_ (escape_short hpair rest (offset + 1)) fuel taken⟩
      have hletters : ∀ pair ∈ shortEscapes, GoesOn pair.1 := by decide
      exact hletters _ hpair
  | coded hescapes hascii =>
      obtain ⟨after, hread⟩ := escape_coded hascii rest (offset + 1)
      exact ⟨after, stringChars_escape hescapes (by decide +kernel) hread fuel taken⟩

/-- What spells a character is not empty. -/
theorem SpellsChar.length_pos (h : SpellsChar form c cs) : 0 < cs.length := by
  cases h <;> simp

/-- **A text is read from what spells it.** -/
theorem stringChars_text (h : SpellsChars form cs text) {fuel : Nat} (hfuel : text.length ≤ fuel)
    (taken : List Char) (offset : Nat) :
    stringChars form fuel taken ⟨text, offset⟩ = .ok (cs.reverse ++ taken) := by
  induction h generalizing fuel taken offset with
  | nil => cases fuel <;> simp [stringChars]
  | @cons c s cs text hhead htail ih =>
      have hpos := hhead.length_pos
      rw [List.length_append] at hfuel
      obtain ⟨fuel, rfl⟩ : ∃ less, fuel = less + 1 := ⟨fuel - 1, by omega⟩
      obtain ⟨after, hread⟩ := stringChars_spelled hhead fuel offset taken text
      rw [hread, ih (by omega), List.reverse_cons, List.append_assoc, List.singleton_append]

/-! ## Quotes in a row -/

/-- Inside a string: never more than `most` quotes stand in a row, where a quote after a backslash
does not count; `n` of them stand just before. -/
inductive Calm (quote : Char) (escapes : Bool) (most : Nat) : Nat → List Char → Prop
  | nil {n : Nat} : Calm quote escapes most n []
  | quote {n : Nat} {body : List Char} (room : n < most)
      (rest : Calm quote escapes most (n + 1) body) : Calm quote escapes most n (quote :: body)
  | plain {n : Nat} {c : Char} {body : List Char} (hquote : c ≠ quote)
      (hescape : escapes = true → c ≠ '\\') (rest : Calm quote escapes most 0 body) :
      Calm quote escapes most n (c :: body)
  | escaped {n : Nat} {d : Char} {body : List Char} (h : escapes = true)
      (rest : Calm quote escapes most 0 body) : Calm quote escapes most n ('\\' :: d :: body)

variable {quote : Char} {escapes : Bool} {most n : Nat}

/-- Characters that are neither quotes nor backslashes. -/
theorem Calm.plain_append (hcs : ∀ c ∈ cs, c ≠ quote ∧ c ≠ '\\')
    (h : Calm quote escapes most 0 body) : Calm quote escapes most 0 (cs ++ body) := by
  induction cs with
  | nil => exact h
  | cons c cs ih =>
      obtain ⟨⟨hquote, hescape⟩, hcs⟩ := List.forall_mem_cons.mp hcs
      exact .plain hquote (fun _ => hescape) (ih hcs)

/-- The digits of an ASCII character's code are none of the characters that count in a string. -/
theorem mem_hex4 : ∀ n < 128, ∀ c ∈ hex4 n, c ≠ '"' ∧ c ≠ '\\' ∧ c ≠ '\n' := by
  have hall : ∀ n < 128, (hex4 n).all (fun c => c != '"' && c != '\\' && c != '\n') = true := by
    decide +kernel
  intro n hn c hc
  simpa [and_assoc] using List.all_eq_true.mp (hall n hn) c hc

/-- What spells another character than a quote is calm. -/
theorem Calm.spelled_append (h : SpellsChar form c cs) (hform : form.hasEscapes = true)
    (hquote : c ≠ '"') (hbody : Calm '"' true most 0 body) :
    Calm '"' true most n (cs ++ body) := by
  cases h with
  | plain hheld hwhole =>
      refine .plain hquote (fun _ hc => ?_) hbody
      rw [hwhole hc] at hform
      cases hform
  | short _ _ => exact .escaped rfl hbody
  | coded _ hascii =>
      refine .escaped rfl (Calm.plain_append (fun d hd => ?_) hbody)
      obtain ⟨hquote, hescape, -⟩ := mem_hex4 _ hascii d hd
      exact ⟨hquote, hescape⟩

/-- **An escaped text is calm.** -/
theorem calm_escaped (long : Bool) (quotes : Nat) (cs : List Char) :
    Calm '"' true (freeQuotes long) quotes (escaped long quotes cs) := by
  induction cs generalizing quotes with
  | nil => exact .nil
  | cons c cs ih =>
      rw [escaped_cons]
      by_cases hquote : c = '"'
      · subst hquote
        rw [if_pos (beq_self_eq_true _)]
        split
        · next hroom => exact .quote hroom (ih _)
        · exact .escaped rfl (ih _)
      · rw [if_neg (by simpa using hquote)]
        exact (ih 0).spelled_append (spellsChar_charText long hquote) (basicForm_hasEscapes long)
          hquote

/-- A run is no longer than the longest. -/
theorem le_longestRun (run : Nat) : run ≤ longestRun c run cs := by
  induction cs generalizing run with
  | nil => exact Nat.le_refl run
  | cons d cs ih =>
      rw [longestRun]
      split
      · exact Nat.le_of_succ_le (ih (run + 1))
      · exact Nat.le_max_left _ _

/-- A text is calm as it stands if its runs of quotes are short enough. -/
theorem calm_of_longestRun {run : Nat} (h : longestRun quote run cs ≤ most) :
    Calm quote false most run cs := by
  induction cs generalizing run with
  | nil => exact .nil
  | cons d cs ih =>
      rw [longestRun] at h
      split at h
      · next heq =>
        rw [beq_iff_eq.mp heq]
        exact .quote (Nat.lt_of_lt_of_le (Nat.lt_succ_self run) (Nat.le_trans (le_longestRun _) h))
          (ih h)
      · next hne =>
        exact .plain (by simpa using hne) nofun (ih (Nat.le_trans (Nat.le_max_right _ _) h))

/-- What follows the quotes at the front of a calm text. -/
theorem Calm.run (h : Calm quote escapes most n body) (hquote : quote ≠ '\\') (hn : n ≤ most) :
    ∃ k more, body = List.replicate k quote ++ more ∧ n + k ≤ most ∧ more.head? ≠ some quote := by
  induction h with
  | nil => exact ⟨0, [], rfl, hn, nofun⟩
  | quote hroom _ ih =>
      obtain ⟨k, more, rfl, hk, hmore⟩ := ih hroom
      exact ⟨k + 1, more, rfl, by omega, hmore⟩
  | plain hc => exact ⟨0, _, rfl, hn, by simpa using hc⟩
  | escaped => exact ⟨0, _, rfl, hn, by simpa using hquote.symm⟩

/-! ## Cutting -/

/-- Quotes at the front are counted, as far as the count goes. -/
theorem quoteRun_replicate (hrest : rest.head? ≠ some quote) (most k : Nat) :
    quoteRun quote most (List.replicate k quote ++ rest) = min k most := by
  induction k generalizing most with
  | zero =>
      cases rest with
      | nil => simp [quoteRun]
      | cons d rest =>
          have hd : d ≠ quote := by simpa using hrest
          cases most <;> simp [quoteRun, hd]
  | succ k ih =>
      cases most with
      | zero => simp [quoteRun]
      | succ most =>
          have h := ih most
          rw [quoteRun] at h ⊢
          simp [List.replicate_succ, h, Nat.add_min_add_right]

/-- A short text ends at its quote. -/
theorem shortString_closing (hbreak : quote ≠ '\n') :
    shortString escapes quote (quote :: rest) = [quote] := by
  rw [shortString.eq_def]
  simp [hbreak]

/-- A short text goes on past a plain character. -/
theorem shortString_plain (hnewline : c ≠ '\n') (hc : c ≠ quote)
    (hescape : escapes = true → c ≠ '\\') :
    shortString escapes quote (c :: rest) = c :: shortString escapes quote rest := by
  rw [shortString.eq_def]
  simp only [beq_iff_eq, hnewline, hc, if_false]
  rw [if_neg]
  simpa using hescape

/-- A short text goes on past an escape. -/
theorem shortString_escaped (hquote : quote ≠ '\\') (hescapes : escapes = true)
    (hnewline : c ≠ '\n') :
    shortString escapes quote ('\\' :: c :: rest) =
      '\\' :: c :: shortString escapes quote rest := by
  rw [shortString.eq_def]
  simp only [hescapes, Bool.true_and, beq_self_eq_true, if_true, beq_iff_eq, hquote.symm,
    if_false, show ('\\' : Char) ≠ '\n' by decide]
  split
  · rfl
  · next hd =>
    obtain ⟨hbackslash, hc⟩ : c ≠ '\\' ∧ c ≠ quote := by simpa using hd
    rw [shortString_plain hnewline hc fun _ => hbackslash]

/-- **A short string is cut at its closing quote.** -/
theorem shortString_calm (h : Calm quote escapes 0 n body) (hline : '\n' ∉ body)
    (hquote : quote ≠ '\\') (hbreak : quote ≠ '\n') :
    shortString escapes quote (body ++ quote :: rest) = body ++ [quote] := by
  induction h with
  | nil => exact shortString_closing hbreak
  | quote hroom => exact absurd hroom (Nat.not_lt_zero _)
  | @plain n c body hc hescape _ ih =>
      obtain ⟨hnewline, hline⟩ := not_or.mp (List.mem_cons.not.mp hline)
      rw [List.cons_append, shortString_plain (Ne.symm hnewline) hc hescape, ih hline,
        List.cons_append]
  | @escaped n d body hescapes _ ih =>
      obtain ⟨-, hline⟩ := not_or.mp (List.mem_cons.not.mp hline)
      obtain ⟨hnewline, hline⟩ := not_or.mp (List.mem_cons.not.mp hline)
      rw [List.cons_append, List.cons_append,
        shortString_escaped hquote hescapes (Ne.symm hnewline), ih hline]
      rfl

/-- Quotes that do not close a string belong to it. -/
theorem longString_quote (hquote : quote ≠ '\\') (hrun : quoteRun quote 2 rest ≠ 2) :
    longString escapes quote (quote :: rest) = quote :: longString escapes quote rest := by
  rw [longString.eq_def]
  simp [hrun, hquote]

/-- Closing quotes, with those before them that belong to the string. -/
theorem longString_closing (hrun : quoteRun quote 2 rest = 2) :
    longString escapes quote (quote :: rest) =
      List.replicate (1 + quoteRun quote 4 rest) quote := by
  rw [longString.eq_def]
  simp [hrun]

/-- A long text goes on past a plain character. -/
theorem longString_plain (hc : c ≠ quote) (hescape : escapes = true → c ≠ '\\') :
    longString escapes quote (c :: rest) = c :: longString escapes quote rest := by
  rw [longString.eq_def]
  simp only [beq_eq_false_iff_ne.mpr hc, Bool.false_and, Bool.false_eq_true, if_false]
  rw [if_neg]
  simpa using hescape

/-- A long text goes on past an escape. -/
theorem longString_escaped (hquote : quote ≠ '\\') (hescapes : escapes = true) :
    longString escapes quote ('\\' :: c :: rest) =
      '\\' :: c :: longString escapes quote rest := by
  rw [longString.eq_def]
  simp only [hescapes, beq_eq_false_iff_ne.mpr hquote.symm, Bool.false_and, Bool.false_eq_true,
    if_false, Bool.true_and, beq_self_eq_true, if_true]
  split
  · rfl
  · next hd =>
    obtain ⟨hbackslash, hc⟩ : c ≠ '\\' ∧ c ≠ quote := by simpa using hd
    rw [longString_plain hc fun _ => hbackslash]

/-- **A long string is cut at its closing quotes.** -/
theorem longString_calm (h : Calm quote escapes 2 n body) (hquote : quote ≠ '\\')
    (hrest : rest.head? ≠ some quote) :
    longString escapes quote (body ++ [quote, quote, quote] ++ rest) =
      body ++ [quote, quote, quote] := by
  induction h with
  | nil =>
      have htwo := quoteRun_replicate hrest 2 2
      have hfour := quoteRun_replicate hrest 4 2
      exact (longString_closing htwo).trans (by rw [hfour]; rfl)
  | @quote n body hroom hbody ih =>
      obtain ⟨k, more, rfl, hk, hmore⟩ := hbody.run hquote hroom
      cases more with
      | nil =>
          have hrun (most : Nat) : quoteRun quote most
              (List.replicate k quote ++ [] ++ [quote, quote, quote] ++ rest) =
                min (k + 3) most := by
            rw [← quoteRun_replicate hrest most (k + 3), List.append_nil,
              ← List.replicate_append_replicate]
            rfl
          rw [List.cons_append, List.cons_append, longString_closing (by rw [hrun]; omega), hrun,
            show 1 + min (k + 3) 4 = 1 + (k + 3) by omega, ← List.replicate_append_replicate,
            ← List.replicate_append_replicate, List.append_nil]
          rfl
      | cons d more =>
          have hrun : quoteRun quote 2
              (List.replicate k quote ++ d :: more ++ [quote, quote, quote] ++ rest) = min k 2 := by
            rw [List.append_assoc, List.append_assoc]
            exact quoteRun_replicate (by simpa using hmore) 2 k
          rw [List.cons_append, List.cons_append,
            longString_quote hquote (by rw [hrun]; omega), ih]
  | @plain n c body hc hescape _ ih =>
      rw [List.cons_append, List.cons_append, longString_plain hc hescape, ih]
  | @escaped n d body hescapes _ ih =>
      rw [List.cons_append, List.cons_append, List.cons_append, List.cons_append,
        longString_escaped hquote hescapes, ih]

/-! ## Strings -/

/-- The quotes at each end of a string. -/
def marks (form : StringForm) : List Char := List.replicate form.quotes form.quote

/-- What may stand between the opening quotes and the text: a line break in a long string, which
has to be there if the text has line breaks. -/
inductive Opens (form : StringForm) (cs : List Char) : List Char → Prop
  | plainly (h : form.isLong = true → '\n' ∉ cs) : Opens form cs []
  | broken (h : form.isLong = true) : Opens form cs ['\n']

/-- A text with its quotes. -/
inductive QuotedAs (form : StringForm) (s : String) : List Char → Prop
  | mk {start body : List Char} (opening : Opens form s.toList start)
      (chars : SpellsChars form s.toList body)
      (calm : Calm form.quote form.hasEscapes (freeQuotes form.isLong) 0 body) :
      QuotedAs form s (marks form ++ (start ++ body) ++ marks form)

variable {s : String}

/-- No quote is a backslash. -/
theorem quote_ne_backslash : form.quote ≠ '\\' := by
  cases form <;> decide

/-- No quote is a line feed. -/
theorem quote_ne_newline : form.quote ≠ '\n' := by
  cases form <;> decide

/-- An opening before a calm text keeps it calm. -/
theorem Opens.calm {start : List Char} (h : Opens form cs start)
    (hbody : Calm form.quote escapes most 0 body) :
    Calm form.quote escapes most 0 (start ++ body) := by
  cases h with
  | plainly => exact hbody
  | broken => exact .plain quote_ne_newline.symm (fun _ => by decide) hbody

/-- A short string is written on one line. -/
theorem SpellsChars.one_line (h : SpellsChars form cs text) (hform : form.isLong = false) :
    '\n' ∉ text := by
  induction h with
  | nil => exact List.not_mem_nil
  | cons hhead _ ih =>
      rw [List.mem_append, not_or]
      refine ⟨?_, ih⟩
      cases hhead with
      | plain hheld =>
          rintro hmem
          obtain rfl := List.mem_singleton.mp hmem
          rw [stringMayHold, hform] at hheld
          exact absurd hheld (by decide)
      | @short letter _ hpair =>
          have hletters : ∀ pair ∈ shortEscapes, '\n' ∉ ['\\', pair.1] := by decide
          exact hletters _ hpair
      | coded _ hascii =>
          intro hmem
          simp only [List.mem_cons, show ('\n' : Char) ≠ '\\' by decide,
            show ('\n' : Char) ≠ 'u' by decide, false_or] at hmem
          exact (mem_hex4 _ hascii _ hmem).2.2 rfl

/-- A short text is the next token. -/
theorem nextToken_short (hform : form.isLong = false) (hrun : quoteRun form.quote 2 rest ≠ 2) :
    nextToken form.quote rest =
      (.string form, form.quote :: shortString form.hasEscapes form.quote rest) := by
  cases form with
  | literal => exact if_neg (by simpa using hrun)
  | basic => exact if_neg (by simpa using hrun)
  | longLiteral => cases hform
  | longBasic => cases hform

/-- A long text is the next token. -/
theorem nextToken_long (hform : form.isLong = true) :
    nextToken form.quote (form.quote :: form.quote :: rest) =
      (.string form, marks form ++ longString form.hasEscapes form.quote rest) := by
  have hrun : quoteRun form.quote 2 (form.quote :: form.quote :: rest) = 2 := by simp [quoteRun]
  cases form with
  | literal => cases hform
  | basic => cases hform
  | longLiteral =>
      rw [StringForm.quote] at hrun ⊢
      simp only [nextToken, hrun, beq_self_eq_true, if_true]
      rfl
  | longBasic =>
      rw [StringForm.quote] at hrun ⊢
      simp only [nextToken, hrun, beq_self_eq_true, if_true]
      rfl

/-- A short string does not begin like a long one. -/
theorem Calm.quoteRun_ne (h : Calm quote escapes 0 0 body) (hquote : quote ≠ '\\')
    (hrest : rest.head? ≠ some quote) : quoteRun quote 2 (body ++ quote :: rest) ≠ 2 := by
  obtain ⟨k, more, rfl, hk, hmore⟩ := h.run hquote (Nat.le_refl 0)
  obtain rfl : k = 0 := by omega
  cases more with
  | nil =>
      have hrun := quoteRun_replicate hrest 2 1
      exact fun htwo => absurd (hrun.symm.trans htwo) (by decide)
  | cons d more =>
      have hrun : quoteRun quote 2 (d :: more ++ quote :: rest) = 0 :=
        quoteRun_replicate (by simpa using hmore) 2 0
      exact fun htwo => absurd (hrun.symm.trans htwo) (by decide)

/-- A short text has one mark on each side. -/
theorem marks_short (hform : form.isLong = false) : marks form = [form.quote] := by
  cases form <;> first | rfl | cases hform

/-- A long text has three marks on each side. -/
theorem marks_long (hform : form.isLong = true) :
    marks form = [form.quote, form.quote, form.quote] := by
  cases form <;> first | rfl | cases hform

/-- **A quoted text is cut as one token**, whatever follows it but another quote. -/
theorem nextToken_quoted (h : QuotedAs form s text) (hrest : rest.head? ≠ some form.quote) :
    ∃ c more, text = c :: more ∧ nextToken c (more ++ rest) = (.string form, text) := by
  obtain @⟨start, body, hopening, hchars, hcalm⟩ := h
  have hcalm := hopening.calm hcalm
  cases hlong : form.isLong with
  | false =>
      cases hopening with
      | broken h => exact absurd (hlong.symm.trans h) nofun
      | plainly =>
          rw [hlong] at hcalm
          rw [marks_short hlong]
          refine ⟨form.quote, body ++ [form.quote], rfl, ?_⟩
          have hrun : quoteRun form.quote 2 (body ++ form.quote :: rest) ≠ 2 :=
            hcalm.quoteRun_ne quote_ne_backslash hrest
          have hcut : shortString form.hasEscapes form.quote (body ++ form.quote :: rest) = _ :=
            shortString_calm hcalm (hchars.one_line hlong) quote_ne_backslash quote_ne_newline
          rw [List.append_assoc, List.singleton_append, nextToken_short hlong hrun, hcut]
          rfl
  | true =>
      rw [hlong] at hcalm
      have hcut := longString_calm hcalm quote_ne_backslash hrest
      rw [← marks_long hlong] at hcut
      refine ⟨form.quote, [form.quote, form.quote] ++ (start ++ body) ++ marks form,
        by rw [marks_long hlong]; rfl, ?_⟩
      rw [List.append_assoc, List.append_assoc, List.cons_append, List.cons_append,
        List.nil_append, nextToken_long hlong, ← List.append_assoc, hcut, ← List.append_assoc]

/-- A text that begins with a line break is spelled with that. -/
theorem SpellsChars.head_plain (h : SpellsChars form cs text) (hcs : '\n' ∉ cs) :
    text.head? ≠ some '\n' ∧ text.head? ≠ some '\r' := by
  cases h with
  | nil => exact ⟨nofun, nofun⟩
  | @cons c cs' shown text' hhead _ =>
      have hc : c ≠ '\n' := fun h => hcs (h ▸ List.mem_cons_self)
      cases hhead with
      | plain hheld =>
          refine ⟨by simpa using hc, ?_⟩
          rintro hreturn
          obtain rfl := Option.some.inj hreturn
          cases form <;> exact absurd hheld (by decide)
      | short => exact ⟨by simp, by simp⟩
      | coded => exact ⟨by simp, by simp⟩

/-- What stands between the quotes of a string is what they enclose. -/
theorem stringBody_enclosed (inside : List Char) (span : Span) :
    stringBody form span (marks form ++ inside ++ marks form) =
      if form.isLong then
        match inside with
        | '\n' :: _ => .ok (Piece.drop ⟨inside, span.start + form.quotes⟩ 1)
        | '\r' :: '\n' :: _ => .ok (Piece.drop ⟨inside, span.start + form.quotes⟩ 2)
        | _ => .ok ⟨inside, span.start + form.quotes⟩
      else .ok ⟨inside, span.start + form.quotes⟩ := by
  have hlength : (marks form).length = form.quotes := List.length_replicate
  have hopening : (marks form ++ inside ++ marks form).drop form.quotes = inside ++ marks form := by
    rw [List.append_assoc, List.drop_left' hlength]
  have hless : (inside ++ marks form).length - form.quotes = inside.length := by
    rw [List.length_append, hlength, Nat.add_sub_cancel]
  have hclosing : (inside ++ marks form).drop inside.length = marks form := List.drop_left
  have hinside : (inside ++ marks form).take inside.length = inside := List.take_left
  have henough : ¬(inside ++ marks form).length < form.quotes := by
    rw [List.length_append, hlength]
    omega
  have hquotes : (marks form).any (· != form.quote) = false := by
    simp [marks]
  simp only [stringBody, hopening, hless, hclosing, hinside, henough, hquotes, decide_false,
    Bool.or_self, Bool.false_eq_true, if_false]
  cases form <;> rfl

/-- What stands between the quotes of a string. -/
theorem stringBody_marks (hopening : Opens form cs text) (hchars : SpellsChars form cs body)
    (span : Span) : ∃ offset,
    stringBody form span (marks form ++ (text ++ body) ++ marks form) = .ok ⟨body, offset⟩ := by
  rw [stringBody_enclosed]
  cases hlong : form.isLong with
  | false =>
      cases hopening with
      | plainly => exact ⟨_, rfl⟩
      | broken h => exact absurd (hlong.symm.trans h) nofun
  | true =>
      cases hopening with
      | broken => exact ⟨_, rfl⟩
      | plainly h =>
          obtain ⟨hnewline, hreturn⟩ := hchars.head_plain (h hlong)
          simp only [List.nil_append, if_true]
          split
          · exact absurd rfl hnewline
          · exact absurd rfl hreturn
          · exact ⟨_, rfl⟩

/-- **The value of a quoted text** is the text. -/
theorem stringText_quoted (h : QuotedAs form s text) (span : Span) :
    stringText form span text = .ok s := by
  obtain ⟨hopening, hchars, -⟩ := h
  obtain ⟨offset, hbody⟩ := stringBody_marks hopening hchars span
  have hread := stringChars_text hchars (Nat.le_refl _) [] offset
  simp only [stringText, hbody, bind, Except.bind, hread, pure, Except.pure, List.append_nil,
    List.reverse_reverse, String.ofList_toList]

/-- The traits of a text that holds no control characters. -/
theorem held_of_soft (hsoft : (traits cs).hasControl = false)
    (hbreak : '\n' ∈ cs → form.isLong = true) : ∀ c ∈ cs, stringMayHold form c = true := by
  intro c hc
  have hc' : isHardControl c = false := by
    simpa using List.any_eq_false.mp hsoft c hc
  exact stringMayHold_of_soft hc' fun h => hbreak (h ▸ hc)

/-- A text with escapes, between the quotes of a basic string. -/
theorem quotedAs_escaped (s : String) (long : Bool) {start : List Char}
    (hopening : Opens (basicForm long) s.toList start) :
    QuotedAs (basicForm long) s (marks (basicForm long) ++
      (start ++ escaped long 0 s.toList) ++ marks (basicForm long)) := by
  refine .mk hopening (spellsChars_escaped long 0 s.toList) ?_
  rw [basicForm_quote, basicForm_hasEscapes, basicForm_isLong]
  exact calm_escaped long 0 s.toList

/-- A text as it stands, between the quotes of a literal string. -/
theorem quotedAs_self {start : List Char} (hform : form.hasEscapes = false)
    (hopening : Opens form s.toList start) (hsoft : (traits s.toList).hasControl = false)
    (hbreak : '\n' ∈ s.toList → form.isLong = true)
    (hquotes : longestRun form.quote 0 s.toList ≤ freeQuotes form.isLong) :
    QuotedAs form s (marks form ++ (start ++ s.toList) ++ marks form) := by
  refine .mk hopening (spellsChars_self hform (held_of_soft hsoft hbreak)) ?_
  rw [hform]
  exact calm_of_longestRun hquotes

/-- **The printer's form of a text is one of its spellings.** -/
theorem quotedAs_writeText (s : String) :
    ∃ form, QuotedAs form s (writeText s).toList := by
  obtain ⟨start, hstart⟩ : ∃ start : List Char,
      start = if (traits s.toList).hasNewline then ['\n'] else [] := ⟨_, rfl⟩
  have hopens (form : StringForm) (hform : form.isLong = true) : Opens form s.toList start := by
    rw [hstart]
    split
    · exact .broken hform
    · next h => exact .plainly fun _ => by simpa [traits] using h
  have hlong : QuotedAs .longBasic s
      ("\"\"\"".toList ++ start ++ escaped true 0 s.toList ++ "\"\"\"".toList) := by
    rw [List.append_assoc "\"\"\"".toList]
    exact quotedAs_escaped s true (hopens .longBasic rfl)
  have hbasic : QuotedAs .basic s ('"' :: escaped false 0 s.toList ++ ['"']) :=
    quotedAs_escaped s false (.plainly fun h => absurd h (by decide))
  simp only [writeText, String.toList_ofList, ← hstart]
  split
  · exact ⟨_, hbasic⟩
  · split
    · next hplain =>
      simp only [Bool.and_eq_true, Bool.not_eq_true', beq_iff_eq] at hplain
      obtain ⟨⟨hcontrol, hquotes⟩, hnewline⟩ := hplain
      have hline : '\n' ∉ s.toList := by simpa [traits] using hnewline
      have hself : QuotedAs .literal s ('\'' :: s.toList ++ ['\'']) :=
        quotedAs_self rfl (.plainly fun h => absurd h (by decide)) hcontrol
          (fun h => absurd h hline) (Nat.le_of_eq hquotes)
      exact ⟨_, hself⟩
    · split
      · exact ⟨_, hlong⟩
      · split
        · next hplain =>
          simp only [Bool.and_eq_true, Bool.not_eq_true', decide_eq_true_eq] at hplain
          rw [List.append_assoc "'''".toList]
          exact ⟨.longLiteral, quotedAs_self rfl (hopens _ rfl) hplain.1 (fun _ => rfl) hplain.2⟩
        · split
          · exact ⟨_, hlong⟩
          · exact ⟨_, hbasic⟩

end SceneRender.Toml
