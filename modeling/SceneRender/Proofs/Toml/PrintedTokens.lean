import SceneRender.Proofs.Toml.QuotedText

/-!
# Tokens of a printed document

A printed document is cut where its lines say.  `Cuts` is cutting as a relation between a text
and its tokens, without their spans; it is built up from the end of the text, so that each part
needs to know only how the text behind it begins.

The tokens of a line are told apart from how they come about: `ValueTokens` for a value,
`DocumentTokens` for the lines of a document (`cuts_document`).
-/

namespace SceneRender.Toml

/-- A token without its span. -/
abbrev Lexeme := TokenKind × List Char

/-- A token without its span. -/
def Token.lexeme (t : Token) : Lexeme := (t.kind, t.text)

variable {c : Char} {text rest : List Char} {ls : List Lexeme}

/-! ## Cutting -/

/-- A text is cut into tokens. -/
inductive Cuts : List Char → List Lexeme → Prop
  | nil : Cuts [] []
  | cons {c : Char} {more rest : List Char} {kind : TokenKind} {ls : List Lexeme}
      (next : nextToken c (more ++ rest) = (kind, c :: more)) (tail : Cuts rest ls) :
      Cuts (c :: more ++ rest) ((kind, c :: more) :: ls)

/-- **Tokens are found** wherever the text begins, as long as there is fuel for each. -/
theorem tokensFrom_lexemes (h : Cuts text ls) {fuel : Nat} (hfuel : text.length ≤ fuel)
    (offset : Nat) : (tokensFrom fuel offset text).map Token.lexeme = ls := by
  induction h generalizing fuel offset with
  | nil => cases fuel <;> rfl
  | @cons c more rest kind ls hnext _ ih =>
      rw [List.cons_append, List.length_cons, List.length_append] at hfuel
      obtain ⟨fuel, rfl⟩ : ∃ less, fuel = less + 1 := ⟨fuel - 1, by omega⟩
      rw [List.cons_append, tokensFrom]
      simp only [hnext, List.length_cons, Nat.add_sub_cancel, List.drop_left, List.map_cons,
        ih (show rest.length ≤ fuel by omega)]
      rfl

/-- Marks that are tokens of their own. -/
def markKinds : List (Char × TokenKind) :=
  [('=', .equals), (',', .comma), ('[', .leftBracket), (']', .rightBracket), ('\n', .newline)]

/-- A mark is cut off as a token of its own. -/
theorem Cuts.mark {kind : TokenKind} (hmark : (c, kind) ∈ markKinds) (h : Cuts rest ls) :
    Cuts (c :: rest) ((kind, [c]) :: ls) := by
  have hnext : nextToken c ([] ++ rest) = (kind, [c]) := by
    simp only [markKinds, List.mem_cons, Prod.mk.injEq, List.not_mem_nil, or_false] at hmark
    obtain ⟨rfl, rfl⟩ | ⟨rfl, rfl⟩ | ⟨rfl, rfl⟩ | ⟨rfl, rfl⟩ | ⟨rfl, rfl⟩ := hmark <;> rfl
  exact .cons hnext h

/-- A quoted text is one token. -/
theorem Cuts.quoted {form : StringForm} {s : String} (hquoted : QuotedAs form s text)
    (hrest : rest.head? ≠ some form.quote) (h : Cuts rest ls) :
    Cuts (text ++ rest) ((.string form, text) :: ls) := by
  obtain ⟨c, more, rfl, hnext⟩ := nextToken_quoted hquoted hrest
  exact .cons hnext h

/-- What is taken while a condition holds, up to where it does not. -/
theorem takeWhile_append_cut {p : Char → Bool} (hall : ∀ c ∈ text, p c = true)
    (hrest : ∀ c ∈ rest.head?, p c = false) : (text ++ rest).takeWhile p = text := by
  rw [List.takeWhile_append_of_pos hall]
  cases rest with
  | nil => simp
  | cons c rest => simp [hrest c rfl]

/-- Blanks are one token, up to what is not blank. -/
theorem Cuts.blanks {n : Nat} (hn : 0 < n) (hrest : ∀ c ∈ rest.head?, isBlankInLine c = false)
    (h : Cuts rest ls) :
    Cuts (List.replicate n ' ' ++ rest) ((.blank, List.replicate n ' ') :: ls) := by
  obtain ⟨n, rfl⟩ : ∃ less, n = less + 1 := ⟨n - 1, by omega⟩
  have htake : (List.replicate n ' ' ++ rest).takeWhile isBlankInLine = List.replicate n ' ' :=
    takeWhile_append_cut (fun c hc => by rw [List.eq_of_mem_replicate hc]; rfl) hrest
  refine .cons ?_ h
  exact congrArg (fun cs => (TokenKind.blank, ' ' :: cs)) htake

/-- A word that may be a key. -/
def IsWord (word : List Char) : Prop := word ≠ [] ∧ ∀ c ∈ word, keyMayHold c = true

instance : Decidable (IsWord text) :=
  decidable_of_iff (text ≠ [] ∧ text.all keyMayHold = true) (and_congr_right' List.all_eq_true)

/-- A key does not hold what ends an atom. -/
theorem endsAtom_of_keyMayHold (hc : keyMayHold c = true) : endsAtom c = false := by
  simp only [endsAtom, Bool.or_eq_false_iff, beq_eq_false_iff_ne]
  and_intros <;> rintro rfl <;> exact absurd hc (by decide)

/-- A word is not cut as anything else. -/
theorem nextToken_word (hc : keyMayHold c = true) (rest : List Char) :
    nextToken c rest = (.atom, c :: rest.takeWhile fun c => !endsAtom c) := by
  unfold nextToken
  split <;> try exact absurd hc (by decide)
  have hblank : ¬(c == ' ' || c == '\t') = true := by
    simp only [Bool.or_eq_true, beq_iff_eq]
    rintro (rfl | rfl) <;> exact absurd hc (by decide)
  rw [if_neg hblank]

/-- A word is one token, up to what ends an atom. -/
theorem Cuts.word (hword : IsWord text) (hrest : ∀ c ∈ rest.head?, endsAtom c = true)
    (h : Cuts rest ls) : Cuts (text ++ rest) ((.atom, text) :: ls) := by
  obtain ⟨hne, hall⟩ := hword
  obtain ⟨c, more, rfl⟩ := List.exists_cons_of_ne_nil hne
  obtain ⟨hc, hmore⟩ := List.forall_mem_cons.mp hall
  refine .cons ?_ h
  rw [nextToken_word hc, takeWhile_append_cut]
  · exact fun d hd => by rw [endsAtom_of_keyMayHold (hmore d hd)]; rfl
  · exact fun d hd => by rw [hrest d hd]; rfl

/-- A comment is one token, up to the end of its line. -/
theorem Cuts.comment (htext : ∀ c ∈ text, c ≠ '\n' ∧ c ≠ '\r') (hrest : rest.head? = some '\n')
    (h : Cuts rest ls) : Cuts ('#' :: text ++ rest) ((.comment, '#' :: text) :: ls) := by
  refine .cons ?_ h
  have htake : (text ++ rest).takeWhile (fun c => c != '\n' && c != '\r') = text := by
    refine takeWhile_append_cut (fun c hc => by simpa using htext c hc) fun c hc => ?_
    rw [hrest] at hc
    cases hc
    rfl
  exact congrArg (fun cs => (TokenKind.comment, '#' :: cs)) htake

/-! ## Values -/

/-- The indentation of an item on its own line. -/
def itemIndent : Lexeme := (.blank, List.replicate 4 ' ')

/-- The tokens of texts that stand on lines of their own. -/
inductive ItemTokens : List String → List Lexeme → Prop
  | nil : ItemTokens [] []
  | cons {s : String} {ss : List String} {form : StringForm} {text : List Char}
      {ls : List Lexeme} (head : QuotedAs form s text) (tail : ItemTokens ss ls) :
      ItemTokens (s :: ss)
        (itemIndent :: (.string form, text) :: (.comma, [',']) :: (.newline, ['\n']) :: ls)

/-- The tokens of a value. -/
inductive ValueTokens : Written → List Lexeme → Prop
  | text {s : String} {form : StringForm} {text : List Char} (h : QuotedAs form s text) :
      ValueTokens (.text s) [(.string form, text)]
  | natural (n : Nat) : ValueTokens (.natural n) [(.atom, (toString n).toList)]
  | flag (b : Bool) : ValueTokens (.flag b) [(.atom, (toString b).toList)]
  | noTexts : ValueTokens (.texts []) [(.leftBracket, ['[']), (.rightBracket, [']'])]
  | oneText {s : String} {form : StringForm} {text : List Char} (h : QuotedAs form s text) :
      ValueTokens (.texts [s])
        [(.leftBracket, ['[']), (.string form, text), (.rightBracket, [']'])]
  | moreTexts {ss : List String} {ls : List Lexeme} (h : ItemTokens ss ls) :
      ValueTokens (.texts ss)
        ((.leftBracket, ['[']) :: (.newline, ['\n']) :: ls ++ [(.rightBracket, [']'])])

/-- A number is one word. -/
theorem isWord_natural (n : Nat) : IsWord (toString n).toList := by
  rw [Nat.toString_eq_ofList_toDigits, String.toList_ofList]
  refine ⟨List.ne_nil_of_length_pos Nat.length_toDigits_pos, fun c hc => ?_⟩
  have hdigit : c.isDigit = true := Nat.isDigit_of_mem_toDigits (by decide) (by decide) hc
  simp [keyMayHold, Char.isAlphanum, hdigit]

/-- A flag is one word. -/
theorem isWord_flag (b : Bool) : IsWord (toString b).toList := by
  cases b <;> decide

/-- No quote stands at the front of a text. -/
def Unquoted (cs : List Char) : Prop := ∀ c ∈ cs.head?, c ≠ '"' ∧ c ≠ '\''

/-- A text that begins with neither quote is unquoted. -/
theorem unquoted_cons (hdouble : c ≠ '"') (hsingle : c ≠ '\'') : Unquoted (c :: rest) := by
  rintro d ⟨⟩
  exact ⟨hdouble, hsingle⟩

/-- A printed text is one token, if it is followed by something else than a quote. -/
theorem cuts_writeText (s : String) (h : Cuts rest ls) (hrest : Unquoted rest) :
    ∃ form, QuotedAs form s (writeText s).toList ∧
      Cuts ((writeText s).toList ++ rest) ((.string form, (writeText s).toList) :: ls) := by
  obtain ⟨form, hquoted⟩ := quotedAs_writeText s
  refine ⟨form, hquoted, h.quoted hquoted fun hhead => ?_⟩
  obtain ⟨hdouble, hsingle⟩ := hrest _ hhead
  cases form with
  | literal | longLiteral => exact hsingle rfl
  | basic | longBasic => exact hdouble rfl

/-- A quoted text begins with a quote. -/
theorem QuotedAs.head?_append {form : StringForm} {s : String} (h : QuotedAs form s text) :
    (text ++ rest).head? = some form.quote := by
  obtain ⟨-, -, -⟩ := h
  cases form <;> rfl

/-- Texts that are printed on lines of their own. -/
theorem cuts_items (ss : List String) (h : Cuts rest ls) : ∃ items, ItemTokens ss items ∧
    Cuts (ss.flatMap (fun s => "    ".toList ++ (writeText s).toList ++ ",\n".toList) ++ rest)
      (items ++ ls) := by
  induction ss with
  | nil => exact ⟨[], .nil, h⟩
  | cons s ss ih =>
      obtain ⟨items, hitems, hcuts⟩ := ih
      have hends : Cuts (',' :: '\n' :: _) ((.comma, [',']) :: (.newline, ['\n']) :: _) :=
        .mark (by decide) (.mark (by decide) hcuts)
      obtain ⟨form, hquoted, hitem⟩ :=
        cuts_writeText s hends (unquoted_cons (by decide) (by decide))
      have hline := hitem.blanks (show 0 < 4 by decide) fun c hc => by
        obtain rfl := Option.some.inj (hquoted.head?_append.symm.trans hc)
        cases form <;> rfl
      refine ⟨_, .cons hquoted hitems, ?_⟩
      rw [List.flatMap_cons, List.append_assoc, List.append_assoc, List.append_assoc]
      exact hline

/-- **A printed value** is cut into its tokens. -/
theorem cuts_value (w : Written) (h : Cuts ('\n' :: rest) ls) : ∃ value, ValueTokens w value ∧
    Cuts (w.print.toList ++ '\n' :: rest) (value ++ ls) := by
  have hatom : ∀ c ∈ ('\n' :: rest).head?, endsAtom c = true := by
    rintro c ⟨⟩
    decide
  cases w with
  | text s =>
      obtain ⟨form, hquoted, hcuts⟩ := cuts_writeText s h (unquoted_cons (by decide) (by decide))
      exact ⟨_, .text hquoted, hcuts⟩
  | natural n => exact ⟨_, .natural n, .word (isWord_natural n) hatom h⟩
  | flag b => exact ⟨_, .flag b, .word (isWord_flag b) hatom h⟩
  | texts ss =>
      have hclosing : Cuts (']' :: _) ((.rightBracket, [']']) :: _) := .mark (by decide) h
      rw [Written.print, writeTexts.eq_def]
      split
      · exact ⟨_, .noTexts, .mark (by decide) hclosing⟩
      · next s =>
        obtain ⟨form, hquoted, hcuts⟩ :=
          cuts_writeText s hclosing (unquoted_cons (by decide) (by decide))
        refine ⟨_, .oneText hquoted, ?_⟩
        simp only [String.toList_append, List.append_assoc]
        exact .mark (by decide) hcuts
      · obtain ⟨items, hitems, hcuts⟩ := cuts_items ss hclosing
        refine ⟨_, .moreTexts hitems, ?_⟩
        have hopening :
            Cuts ('[' :: '\n' :: _) ((.leftBracket, ['[']) :: (.newline, ['\n']) :: _) :=
          .mark (by decide) (.mark (by decide) hcuts)
        simp only [String.toList_append, String.toList_join, List.flatMap_map, List.append_assoc,
          List.cons_append] at hopening ⊢
        exact hopening

/-- A printed value does not begin with a blank. -/
theorem print_solid (w : Written) (rest : List Char) :
    ∀ c ∈ (w.print.toList ++ rest).head?, isBlankInLine c = false := by
  have hword {word : List Char} (hword : IsWord word) :
      ∀ c ∈ (word ++ rest).head?, isBlankInLine c = false := by
    obtain ⟨hne, hall⟩ := hword
    obtain ⟨d, more, rfl⟩ := List.exists_cons_of_ne_nil hne
    rintro c ⟨⟩
    have hends := endsAtom_of_keyMayHold (hall d List.mem_cons_self)
    simp only [endsAtom, Bool.or_eq_false_iff] at hends
    simp [isBlankInLine, hends]
  cases w with
  | text s =>
      obtain ⟨form, hquoted⟩ := quotedAs_writeText s
      intro c hc
      obtain rfl := Option.some.inj (hquoted.head?_append.symm.trans hc)
      cases form <;> rfl
  | natural n => exact hword (isWord_natural n)
  | flag b => exact hword (isWord_flag b)
  | texts ss =>
      rw [Written.print, writeTexts.eq_def]
      split
      · rintro c ⟨⟩
        rfl
      all_goals
        simp only [String.toList_append, List.append_assoc]
        rintro c ⟨⟩
        rfl

/-! ## Lines -/

/-- A line of a document that says something. -/
inductive Entry where
  | table (name : String)
  | field (name : String) (w : Written)

/-- The lines of tables. -/
def entriesOf (tables : List (String × List (String × Written))) : List Entry :=
  tables.flatMap fun t => .table t.1 :: t.2.map fun f => .field f.1 f.2

/-- The tokens of a document; lines that say nothing may stand between the others. -/
inductive DocumentTokens : List Entry → List Lexeme → Prop
  | nil : DocumentTokens [] []
  | newline {es : List Entry} {ls : List Lexeme} (tail : DocumentTokens es ls) :
      DocumentTokens es ((.newline, ['\n']) :: ls)
  | comment {es : List Entry} {text : List Char} {ls : List Lexeme}
      (h : ∀ c ∈ text, commentMayHold c = true) (tail : DocumentTokens es ls) :
      DocumentTokens es ((.comment, text) :: ls)
  | table {es : List Entry} {name : String} {ls : List Lexeme} (h : IsWord name.toList)
      (tail : DocumentTokens es ls) :
      DocumentTokens (.table name :: es)
        ((.leftBracket, ['[']) :: (.atom, name.toList) :: (.rightBracket, [']']) ::
          (.newline, ['\n']) :: ls)
  | field {es : List Entry} {name : String} {w : Written} {value ls : List Lexeme}
      (h : IsWord name.toList) (hvalue : ValueTokens w value) (tail : DocumentTokens es ls) :
      DocumentTokens (.field name w :: es)
        ((.atom, name.toList) :: (.blank, [' ']) :: (.equals, ['=']) :: (.blank, [' ']) ::
          (value ++ (.newline, ['\n']) :: ls))

variable {es : List Entry}

/-- A text is cut into the tokens of a document with certain lines. -/
def Says (text : List Char) (es : List Entry) : Prop :=
  ∃ ls, DocumentTokens es ls ∧ Cuts text ls

/-- The empty document says nothing. -/
theorem Says.nil : Says [] [] := ⟨[], .nil, .nil⟩

/-- An empty line says nothing. -/
theorem Says.newline (h : Says rest es) : Says ('\n' :: rest) es := by
  obtain ⟨ls, htokens, hcuts⟩ := h
  exact ⟨_, .newline htokens, .mark (by decide) hcuts⟩

/-- A comment may not hold what ends a line. -/
theorem lineBreak_not_held (hc : commentMayHold c = true) : c ≠ '\n' ∧ c ≠ '\r' := by
  constructor <;> rintro rfl <;> exact absurd hc (by decide)

/-- A comment says nothing. -/
theorem Says.comment (htext : ∀ c ∈ text, commentMayHold c = true) (h : Says rest es) :
    Says ('#' :: text ++ '\n' :: rest) es := by
  obtain ⟨ls, htokens, hcuts⟩ := h.newline
  refine ⟨_, .comment ?_ htokens, .comment (fun c hc => lineBreak_not_held (htext c hc)) rfl hcuts⟩
  exact List.forall_mem_cons.mpr ⟨by decide, htext⟩

/-- The line of a field. -/
theorem Says.field {name : String} (hname : IsWord name.toList) (w : Written)
    (h : Says rest es) :
    Says ((name ++ " = " ++ w.print ++ "\n").toList ++ rest) (.field name w :: es) := by
  obtain ⟨ls, htokens, hcuts⟩ := h
  have hend : Cuts ('\n' :: rest) ((.newline, ['\n']) :: ls) := .mark (by decide) hcuts
  obtain ⟨value, hvalue, hcuts⟩ := cuts_value w hend
  have hblank := hcuts.blanks Nat.one_pos (print_solid w _)
  have hequals : Cuts ('=' :: _) ((.equals, ['=']) :: _) := .mark (by decide) hblank
  have hbefore := hequals.blanks Nat.one_pos (by rintro c ⟨⟩; rfl)
  refine ⟨_, .field hname hvalue htokens, ?_⟩
  simp only [String.toList_append, List.append_assoc]
  exact .word hname (by rintro c ⟨⟩; rfl) hbefore

/-- The header of a table. -/
theorem Says.header {name : String} (hname : IsWord name.toList) (h : Says rest es) :
    Says (("[" ++ name ++ "]\n").toList ++ rest) (.table name :: es) := by
  obtain ⟨ls, htokens, hcuts⟩ := h
  have hclosing : Cuts (']' :: '\n' :: _) ((.rightBracket, [']']) :: (.newline, ['\n']) :: _) :=
    .mark (by decide) (.mark (by decide) hcuts)
  refine ⟨_, .table hname htokens, ?_⟩
  simp only [String.toList_append, List.append_assoc]
  exact .mark (by decide) (.word hname (by rintro c ⟨⟩; rfl) hclosing)

/-- The names in tables are words. -/
def Named (tables : List (String × List (String × Written))) : Prop :=
  ∀ t ∈ tables, IsWord t.1.toList ∧ ∀ f ∈ t.2, IsWord f.1.toList

/-- **A printed table** says its lines. -/
theorem Says.writeTable {name : String} {fields : List (String × Written)}
    (hname : IsWord name.toList) (hfields : ∀ f ∈ fields, IsWord f.1.toList) (h : Says rest es) :
    Says ((writeTable name fields).toList ++ rest)
      (.table name :: (fields.map fun f => .field f.1 f.2) ++ es) := by
  have hlines : Says (fields.flatMap (fun f => (f.1 ++ " = " ++ f.2.print ++ "\n").toList) ++ rest)
      ((fields.map fun f => .field f.1 f.2) ++ es) := by
    induction fields with
    | nil => exact h
    | cons f fields ih =>
        obtain ⟨hf, hfields⟩ := List.forall_mem_cons.mp hfields
        rw [List.flatMap_cons, List.append_assoc]
        exact (ih hfields).field hf f.2
  rw [Toml.writeTable, String.toList_append, String.toList_join, List.flatMap_map,
    List.append_assoc]
  exact hlines.header hname

/-- **A printed document** says its lines. -/
theorem says_writeTables {tables : List (String × List (String × Written))}
    (hnamed : Named tables) : Says (writeTables tables).toList (entriesOf tables) := by
  rw [writeTables, String.toList_intercalate, List.map_map]
  induction tables with
  | nil => exact .nil
  | cons t tables ih =>
      obtain ⟨⟨hname, hfields⟩, hnamed⟩ := List.forall_mem_cons.mp hnamed
      cases tables with
      | nil =>
          have hlast := Says.nil.writeTable hname hfields
          rw [List.append_nil] at hlast
          simpa [entriesOf] using hlast
      | cons t' tables =>
          have hrest := (ih hnamed).newline.writeTable hname hfields
          rw [List.map_cons, List.map_cons, List.intercalate_cons_cons]
          simpa [entriesOf] using hrest

/-- **The tokens of a document** are those that its text is cut into. -/
theorem tokens_lexemes {source : String} (h : Cuts source.toList ls)
    (hmark : ∀ c ∈ source.toList.head?, c.toNat ≠ 0xFEFF) :
    (tokens source).map Token.lexeme = ls := by
  rw [tokens]
  cases hsource : source.toList with
  | nil =>
      rw [hsource] at h
      cases h
      rfl
  | cons c rest =>
      rw [hsource] at h hmark
      dsimp only
      rw [if_neg (by simpa using hmark c rfl)]
      exact tokensFrom_lexemes h (Nat.le_refl _) 0

end SceneRender.Toml
