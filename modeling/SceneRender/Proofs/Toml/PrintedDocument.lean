import SceneRender.Proofs.Toml.PrintedValues

/-!
# Printed documents are read back

Line by line, a printed document is read as the statements that its lines are
(`statements_tokens`), and the statements fill the tables that were printed
(`readDocument_says`).  Tables and fields are kept in the order of their names and not in the
order of their lines, so what is found are the printed ones in some order (`Kept`).

Lines that say nothing do not matter, but a line that is a word only spoils the document
(`readDocument_strayWord`).
-/

namespace SceneRender.Toml

variable {ls : List Lexeme} {s : Stream} {fuel : Nat} {es : List Entry} {text : List Char}
  {name : String} {w : Written}

/-! ## Statements -/

/-- A statement says what a line does. -/
inductive ReadsLine : Statement → Entry → Prop
  | table {name : String} (h : IsWord name.toList) (span keySpan : Span) :
      ReadsLine (.header false span [⟨none, keySpan, name.toList⟩]) (.table name)
  | field {name : String} {w : Written} {v : WrittenValue} (h : IsWord name.toList)
      (keySpan : Span) (hvalue : ReadsAs v w) :
      ReadsLine (.assignment [⟨none, keySpan, name.toList⟩] v) (.field name w)

/-- The end of a line. -/
theorem lineEnd_newline (h : s.Shows ((.newline, ['\n']) :: ls)) :
    lineEnd s = .ok s.advance ∧ s.advance.Shows ls := by
  obtain ⟨span, rest, hrest, -⟩ := h.exists_cons
  refine ⟨?_, h.advance⟩
  rw [lineEnd, h.pastBlanks_eq nofun]
  simp only [hrest]
  rfl

/-- A word is a whole key, unless a dot follows. -/
theorem keyPath_word {word : List Char} (h : s.Shows ((.atom, word) :: ls))
    (hdot : s.advance.pastBlanks.at? .dot = false) :
    ∃ span, keyPath s = ([⟨none, span, word⟩], true, s.advance.pastBlanks) := by
  obtain ⟨span, rest, hrest, -⟩ := h.exists_cons
  refine ⟨span, ?_⟩
  rw [keyPath, Stream.peek?, hrest]
  simp only [List.head?_cons, Option.bind_some, keyOf?, List.length_cons, dottedKeys, hdot,
    Bool.false_eq_true, if_false, List.reverse_singleton]

/-- The header of a table is read. -/
theorem header_tokens {word : List Char} (opening : Span)
    (h : s.Shows ((.atom, word) :: (.rightBracket, text) :: (.newline, ['\n']) :: ls)) :
    ∃ span keySpan s', header opening s =
      .ok (.header false span [⟨none, keySpan, word⟩], s') ∧ s'.Shows ls := by
  have hplain : s.at? .leftBracket = false := h.at?_eq _
  have hstays : s.pastBlanks = s := h.pastBlanks_eq nofun
  have hclose : s.advance.pastBlanks = s.advance := h.advance.pastBlanks_eq nofun
  obtain ⟨keySpan, hkey⟩ := keyPath_word h (by rw [hclose]; exact h.advance.at?_eq _)
  obtain ⟨hend, hrest⟩ := lineEnd_newline h.advance.advance
  have hright : s.advance.at? .rightBracket = true := h.advance.at?_eq _
  refine ⟨opening.join s.advance.nextSpan, keySpan, s.advance.advance.advance, ?_, hrest⟩
  simp only [header, hplain, Bool.false_eq_true, if_false, hstays, hkey, hclose, hright, if_true,
    hend, bind, Except.bind]
  rfl

/-- The line of a field is read. -/
theorem assignment_tokens {word : List Char} {tokens : List Lexeme}
    (hvalue : ValueTokens w tokens)
    (h : s.Shows ((.atom, word) :: (.blank, [' ']) :: (.equals, ['=']) :: (.blank, [' ']) ::
      (tokens ++ (.newline, ['\n']) :: ls))) :
    ∃ keySpan v s', assignment s = .ok (.assignment [⟨none, keySpan, word⟩] v, s') ∧
      s'.Shows ls ∧ ReadsAs v w := by
  have hequals := h.advance.pastBlanks
  obtain ⟨keySpan, hkey⟩ := keyPath_word h (hequals.at?_eq _)
  have hat : s.advance.pastBlanks.at? .equals = true := hequals.at?_eq _
  have hblank := hequals.advance.pastBlanks
  have hdot : s.at? .dot = false := h.at?_eq _
  have hfuel : 2 * tokens.length + 2 ≤
      2 * s.advance.pastBlanks.advance.pastBlanks.rest.length + 2 := by
    rw [hblank.length_eq, List.length_append]
    omega
  obtain ⟨v, s', hread, hend, hv⟩ :=
    value_tokens hvalue hblank (show 0 < deepest by decide) hfuel
  obtain ⟨hline, hrest⟩ := lineEnd_newline hend
  refine ⟨keySpan, v, s'.advance, ?_, hrest, hv⟩
  simp only [assignment, hdot, hkey, hat, if_true, hread, hline, bind, Except.bind]
  rfl

/-- The end of a line says nothing. -/
theorem statements_newline (h : s.Shows ((.newline, ['\n']) :: ls)) (taken : List Statement) :
    statements (fuel + 1) taken s = statements fuel taken s.advance := by
  obtain ⟨span, rest, hrest, -⟩ := h.exists_cons
  rw [statements, hrest]
  rfl

/-- A comment of characters that it may hold says nothing. -/
theorem statements_comment (h : s.Shows ((.comment, text) :: ls))
    (hheld : ∀ c ∈ text, commentMayHold c = true) (taken : List Statement) :
    statements (fuel + 1) taken s = statements fuel taken s.advance := by
  obtain ⟨span, rest, hrest, -⟩ := h.exists_cons
  have hnone : (text.findIdx? fun c => !commentMayHold c) = none :=
    List.findIdx?_eq_none_iff.mpr fun c hc => by rw [hheld c hc]; rfl
  have hcheck : checkComment ⟨.comment, span, text⟩ = .ok () := by rw [checkComment, hnone]
  rw [statements, hrest]
  simp only [hcheck, bind, Except.bind]

/-- A line that is a word only ends the reading. -/
theorem statements_strayWord {word : List Char}
    (h : s.Shows ((.atom, word) :: (.newline, ['\n']) :: ls)) (taken : List Statement) :
    ∃ fault, statements (fuel + 1) taken s = .error fault := by
  obtain ⟨span, rest, hrest, -⟩ := h.exists_cons
  have hstays : s.advance.pastBlanks = s.advance := h.advance.pastBlanks_eq nofun
  obtain ⟨keySpan, hkey⟩ := keyPath_word h (by rw [hstays]; exact h.advance.at?_eq _)
  have hequals : s.advance.at? .equals = false := h.advance.at?_eq _
  rw [statements, hrest]
  simp only [assignment, hkey, hstays, hequals, Bool.false_eq_true, if_false, Stream.fail, bind,
    Except.bind]
  exact ⟨_, rfl⟩

/-- **Statements are read line by line.** -/
theorem statements_tokens (htokens : DocumentTokens es ls) (h : s.Shows ls)
    (hfuel : ls.length < fuel) (taken : List Statement) : ∃ sts,
    statements fuel taken s = .ok (taken.reverse ++ sts) ∧ List.Forall₂ ReadsLine sts es := by
  obtain ⟨fuel, rfl⟩ : ∃ less, fuel = less + 1 := ⟨fuel - 1, by omega⟩
  induction htokens generalizing s fuel taken with
  | nil =>
      refine ⟨[], ?_, .nil⟩
      rw [statements, List.map_eq_nil_iff.mp h, List.append_nil]
  | newline _ ih =>
      obtain ⟨fuel, rfl⟩ : ∃ less, fuel = less + 1 := ⟨fuel - 1, by simp at hfuel; omega⟩
      rw [statements_newline h]
      exact ih h.advance taken fuel (by simpa using hfuel)
  | comment hheld _ ih =>
      obtain ⟨fuel, rfl⟩ : ∃ less, fuel = less + 1 := ⟨fuel - 1, by simp at hfuel; omega⟩
      rw [statements_comment h hheld]
      exact ih h.advance taken fuel (by simpa using hfuel)
  | @table es name ls hname _ ih =>
      obtain ⟨fuel, rfl⟩ : ∃ less, fuel = less + 1 := ⟨fuel - 1, by simp at hfuel; omega⟩
      obtain ⟨opening, rest, hrest, -⟩ := h.exists_cons
      obtain ⟨span, keySpan, s', hheader, hshows⟩ := header_tokens opening h.advance
      obtain ⟨sts, hread, hsts⟩ := ih hshows
        (.header false span [⟨none, keySpan, name.toList⟩] :: taken) fuel
        (by simp at hfuel; omega)
      refine ⟨_ :: sts, ?_, .cons (.table hname span keySpan) hsts⟩
      rw [statements, hrest]
      simp only [hheader, hread, bind, Except.bind]
      simp
  | @field es name w value ls hname hvalue _ ih =>
      obtain ⟨fuel, rfl⟩ : ∃ less, fuel = less + 1 := ⟨fuel - 1, by simp at hfuel; omega⟩
      obtain ⟨span, rest, hrest, -⟩ := h.exists_cons
      obtain ⟨keySpan, v, s', hfield, hshows, hv⟩ := assignment_tokens hvalue h
      obtain ⟨sts, hread, hsts⟩ := ih hshows
        (.assignment [⟨none, keySpan, name.toList⟩] v :: taken) fuel (by simp at hfuel; omega)
      refine ⟨_ :: sts, ?_, .cons (.field hname keySpan hv) hsts⟩
      rw [statements, hrest]
      simp only [hfield, hread, bind, Except.bind]
      simp

/-- The statements of a document that says certain lines. -/
theorem statementsOf_says {source : String} (h : Says source.toList es)
    (hmark : ∀ c ∈ source.toList.head?, c.toNat ≠ 0xFEFF) :
    ∃ sts, statementsOf source = .ok sts ∧ List.Forall₂ ReadsLine sts es := by
  obtain ⟨ls, htokens, hcuts⟩ := h
  have hshows : Stream.Shows ⟨tokens source, ⟨0, 0⟩, source.utf8ByteSize⟩ ls :=
    tokens_lexemes hcuts hmark
  have hfuel : ls.length < (tokens source).length + 1 := by
    rw [← hshows.length_eq]
    exact Nat.lt_succ_self _
  exact statements_tokens htokens hshows hfuel []

/-- **A line that is a word only**, behind two comments, spoils a document. -/
theorem readDocument_strayWord {source : String} {line word rest : List Char}
    (hline : ∀ c ∈ line, commentMayHold c = true) (htext : ∀ c ∈ text, commentMayHold c = true)
    (hword : IsWord word) (hrest : Cuts rest ls)
    (hsource : source.toList =
      '#' :: line ++ '\n' :: ('#' :: text ++ '\n' :: (word ++ '\n' :: rest))) :
    ∃ fault, readDocument source = .error fault := by
  have hstray : Cuts (word ++ '\n' :: rest) ((.atom, word) :: (.newline, ['\n']) :: ls) :=
    .word hword (by rintro c ⟨⟩; rfl) (.mark (by decide) hrest)
  have hcuts : Cuts source.toList ((.comment, '#' :: line) :: (.newline, ['\n']) ::
      (.comment, '#' :: text) :: (.newline, ['\n']) :: (.atom, word) :: (.newline, ['\n']) ::
        ls) := by
    rw [hsource]
    exact .comment (fun c hc => lineBreak_not_held (hline c hc)) rfl (.mark (by decide)
      (.comment (fun c hc => lineBreak_not_held (htext c hc)) rfl (.mark (by decide) hstray)))
  have hshows : Stream.Shows ⟨tokens source, ⟨0, 0⟩, source.utf8ByteSize⟩ _ :=
    tokens_lexemes hcuts (by rw [hsource]; rintro c ⟨⟩; decide)
  have hlength : (tokens source).length = ls.length + 6 := hshows.length_eq
  obtain ⟨fault, hfault⟩ := statements_strayWord hshows.advance.advance.advance.advance []
  have hstatements : statementsOf source = .error fault := by
    rw [statementsOf, hlength,
      statements_comment hshows (List.forall_mem_cons.mpr ⟨by decide, hline⟩),
      statements_newline hshows.advance,
      statements_comment hshows.advance.advance (List.forall_mem_cons.mpr ⟨by decide, htext⟩),
      statements_newline hshows.advance.advance.advance]
    exact hfault
  refine ⟨fault, ?_⟩
  simp only [readDocument, hstatements, bind, Except.bind]

/-! ## Tables -/

/-- The name that a word is, as a key. -/
theorem pathOf_word (hname : IsWord name.toList) (span : Span) :
    pathOf [⟨none, span, name.toList⟩] = .ok [⟨name, span⟩] := by
  obtain ⟨hne, hall⟩ := hname
  have hempty : name.toList.isEmpty = false := by simpa using hne
  have hgood : name.toList.takeWhile keyMayHold = name.toList :=
    List.takeWhile_eq_self_iff.mpr hall
  have hread : WrittenKey.name ⟨none, span, name.toList⟩ = .ok name := by
    simp only [WrittenKey.name, hempty, hgood, Bool.false_eq_true, if_false, List.drop_length,
      List.takeWhile_nil, List.isEmpty_nil, if_true, String.ofList_toList]
  simp only [pathOf, namesOf, hread, bind, Except.bind, pure, Except.pure]
  rfl

/-- Fields with the values that were printed, in some order. -/
def Kept {β : Type} (holds : Value → β → Prop) (fields : Fields) (printed : List (String × β)) :
    Prop :=
  ∃ sorted : List (String × β), sorted.Perm printed ∧
    List.Forall₂ (fun f p => f.1 = p.1 ∧ holds f.2.2 p.2) fields sorted

namespace Kept

variable {β : Type} {holds : Value → β → Prop} {fields : Fields} {printed : List (String × β)}

/-- Nothing is kept of nothing. -/
theorem nil : Kept holds [] [] := ⟨[], .nil, .nil⟩

/-- The names of the fields are those that were printed. -/
theorem mem_names (h : Kept holds fields printed) :
    name ∈ fields.map (·.1) ↔ name ∈ printed.map (·.1) := by
  obtain ⟨sorted, hperm, hfields⟩ := h
  have hnames : fields.map (·.1) = sorted.map (·.1) := by
    clear hperm
    induction hfields with
    | nil => rfl
    | cons hf _ ih => rw [List.map_cons, List.map_cons, hf.1, ih]
  rw [hnames, (hperm.map _).mem_iff]

/-- A name that was not printed is not there. -/
theorem get?_eq_none (h : Kept holds fields printed) (hname : name ∉ printed.map (·.1)) :
    fields.get? name = none := by
  rw [← h.mem_names] at hname
  rw [Fields.get?, List.lookup_eq_none_iff]
  exact fun f hf => bne_iff_ne.mpr fun heq => hname (heq ▸ List.mem_map_of_mem hf)

/-- Erasing a name that was not printed changes nothing. -/
theorem erase_eq (h : Kept holds fields printed) (hname : name ∉ printed.map (·.1)) :
    fields.erase name = fields := by
  rw [← h.mem_names] at hname
  exact List.filter_eq_self.mpr fun f hf => bne_iff_ne.mpr fun heq =>
    hname (heq ▸ List.mem_map_of_mem hf)

/-- **A new field** takes its place among the others. -/
theorem set (h : Kept holds fields printed) (hname : name ∉ printed.map (·.1)) {v : Value} {b : β}
    (hv : holds v b) (span : Span) :
    Kept holds (fields.set name span v) (printed ++ [(name, b)]) := by
  obtain ⟨sorted, hperm, hfields⟩ := h
  rw [← (hperm.map _).mem_iff] at hname
  suffices hset : ∃ sorted', sorted'.Perm ((name, b) :: sorted) ∧
      List.Forall₂ (fun f p => f.1 = p.1 ∧ holds f.2.2 p.2) (fields.set name span v) sorted' by
    obtain ⟨sorted', hperm', hfields'⟩ := hset
    exact ⟨sorted', hperm'.trans ((hperm.cons _).trans (List.perm_append_singleton _ _).symm),
      hfields'⟩
  clear hperm
  induction hfields with
  | nil => exact ⟨[(name, b)], .refl _, .cons ⟨rfl, hv⟩ .nil⟩
  | @cons f p rest sorted hf hrest ih =>
      obtain ⟨hp, hname⟩ := not_or.mp (List.mem_cons.not.mp hname)
      rw [Fields.set, if_neg (by simpa [hf.1] using Ne.symm hp)]
      split
      · exact ⟨_, .refl _, .cons ⟨rfl, hv⟩ (.cons hf hrest)⟩
      · obtain ⟨sorted', hperm, hset⟩ := ih hname
        exact ⟨p :: sorted', (hperm.cons p).trans (.swap _ _ _), .cons hf hset⟩

end Kept

/-! ## Reading -/

/-- A table with the fields that were printed. -/
def HoldsTable (v : Value) (printed : List (String × Written)) : Prop :=
  ∃ inner, v = .table .complete inner ∧ Kept Holds inner printed

variable {d : Draft} {done : List (String × List (String × Written))}
  {before : List (String × Written)}

/-- A draft ends in the tables that were printed. -/
def Finishes (d : Draft) (done : List (String × List (String × Written))) : Prop :=
  ∃ root, d.finish = .ok root ∧ Kept HoldsTable root done

/-- A table is being read: those before it are done, and it has got its first fields. -/
structure Reading (d : Draft) (done : List (String × List (String × Written))) (name : String)
    (before : List (String × Written)) : Prop where
  current : ∃ span keySpan, d.current = some ⟨false, span, [⟨name, keySpan⟩]⟩
  root : Kept HoldsTable d.root done
  fields : Kept Holds d.fields before

/-- A table that is being read can be finished. -/
theorem Reading.finishes (h : Reading d done name before) (hname : name ∉ done.map (·.1)) :
    Finishes d (done ++ [(name, before)]) := by
  obtain ⟨⟨span, keySpan, hcurrent⟩, hroot, hfields⟩ := h
  refine ⟨d.root.set name span (.table .complete d.fields), ?_,
    hroot.set hname ⟨d.fields, rfl, hfields⟩ span⟩
  simp only [Draft.finish, hcurrent]
  rfl

/-- A table that is not there yet is taken out of the document as an empty one. -/
theorem takeImplied_absent {root : Fields} {span : Span} (habsent : root.get? name = none)
    (herase : root.erase name = root) :
    Draft.takeImplied [⟨name, span⟩] root = .ok (root, []) := by
  simp only [Draft.takeImplied, splitLast, List.dropLast_singleton, List.getLast?_singleton,
    Option.getD_some, Draft.takeImplied.look, habsent, inPath, herase, bind, Except.bind]
  rfl

/-- A value is assigned to a name that has none yet. -/
theorem assign_absent {fields : Fields} {keySpan span : Span} {v : Value}
    (habsent : fields.get? name = none) :
    assign [⟨name, keySpan⟩] span v fields = .ok (fields.set name span v) := by
  simp only [assign, splitLast, List.dropLast_singleton, List.getLast?_singleton,
    Option.getD_some, inPath, habsent, Option.isSome_none, Bool.false_eq_true, if_false]

/-- A header begins a table. -/
theorem Finishes.header {st : Statement} (h : Finishes d done) (hname : name ∉ done.map (·.1))
    (hst : ReadsLine st (.table name)) : ∃ d', d.add st = .ok d' ∧ Reading d' done name [] := by
  obtain ⟨root, hfinish, hroot⟩ := h
  cases hst with
  | table hword span keySpan =>
      refine ⟨⟨root, some ⟨false, span, [⟨name, keySpan⟩]⟩, []⟩, ?_,
        ⟨⟨span, keySpan, rfl⟩, hroot, .nil⟩⟩
      simp only [Draft.add, hfinish, pathOf_word hword, bind, Except.bind, Bool.false_eq_true,
        if_false, takeImplied_absent (hroot.get?_eq_none hname) (hroot.erase_eq hname)]
      rfl

/-- A field is added to the table that is being read. -/
theorem Reading.field {st : Statement} {field : String} (h : Reading d done name before)
    (hfield : field ∉ before.map (·.1)) (hst : ReadsLine st (.field field w)) :
    ∃ d', d.add st = .ok d' ∧ Reading d' done name (before ++ [(field, w)]) := by
  obtain ⟨hcurrent, hroot, hfields⟩ := h
  cases hst with
  | @field _ _ v hword keySpan hv =>
      obtain ⟨span, found, hvalue, hholds⟩ := hv
      refine ⟨{ d with fields := d.fields.set field span found }, ?_,
        ⟨hcurrent, hroot, hfields.set hfield hholds span⟩⟩
      simp only [Draft.add, pathOf_word hword, hvalue, bind, Except.bind,
        assign_absent (hfields.get?_eq_none hfield)]
      rfl

/-- A name that stands behind others is none of them, where all are different. -/
theorem notMem_of_nodup {β : Type} {before after : List (String × β)} {f : String × β}
    (h : ((before ++ f :: after).map (·.1)).Nodup) : f.1 ∉ before.map (·.1) := by
  rw [List.map_append, List.nodup_append] at h
  exact fun hmem => h.2.2 f.1 hmem f.1 List.mem_cons_self rfl

/-- The fields of a table are read one after the other. -/
theorem Reading.run {sts : List Statement} (fields : List (String × Written))
    (h : Reading d done name before) (hdistinct : ((before ++ fields).map (·.1)).Nodup)
    (hsts : List.Forall₂ ReadsLine sts ((fields.map fun f => .field f.1 f.2) ++ es)) :
    ∃ d' sts', Reading d' done name (before ++ fields) ∧ List.Forall₂ ReadsLine sts' es ∧
      sts.foldlM Draft.add d = sts'.foldlM Draft.add d' := by
  induction fields generalizing d before sts with
  | nil => exact ⟨d, sts, by rwa [List.append_nil], hsts, rfl⟩
  | cons f fields ih =>
      rw [List.map_cons, List.cons_append, List.forall₂_cons_right_iff] at hsts
      obtain ⟨st, sts, hst, hsts, rfl⟩ := hsts
      obtain ⟨d₁, hadd, hreading⟩ := h.field (notMem_of_nodup hdistinct) hst
      obtain ⟨d', sts', hread, hrest, hrun⟩ := ih hreading
        (by rwa [List.append_assoc, List.singleton_append]) hsts
      refine ⟨d', sts', by rwa [List.append_assoc, List.singleton_append] at hread, hrest, ?_⟩
      rw [List.foldlM_cons, hadd]
      exact hrun

/-- The names of tables are distinct, and so are the names of the fields of each. -/
structure Distinct (tables : List (String × List (String × Written))) : Prop where
  outer : (tables.map (·.1)).Nodup
  inner : ∀ t ∈ tables, (t.2.map (·.1)).Nodup

/-- The tables of a document are read one after the other. -/
theorem Finishes.run {sts : List Statement} (tables : List (String × List (String × Written)))
    (h : Finishes d done) (hdistinct : ((done ++ tables).map (·.1)).Nodup)
    (hfields : ∀ t ∈ tables, (t.2.map (·.1)).Nodup)
    (hsts : List.Forall₂ ReadsLine sts (entriesOf tables)) :
    ∃ d', sts.foldlM Draft.add d = .ok d' ∧ Finishes d' (done ++ tables) := by
  induction tables generalizing d done sts with
  | nil =>
      cases hsts
      exact ⟨d, rfl, by rwa [List.append_nil]⟩
  | cons t tables ih =>
      obtain ⟨ht, hfields⟩ := List.forall_mem_cons.mp hfields
      have hlines : entriesOf (t :: tables) =
          .table t.1 :: ((t.2.map fun f => .field f.1 f.2) ++ entriesOf tables) := rfl
      rw [hlines, List.forall₂_cons_right_iff] at hsts
      obtain ⟨st, sts, hst, hsts, rfl⟩ := hsts
      have hname : t.1 ∉ done.map (·.1) := notMem_of_nodup hdistinct
      obtain ⟨d₁, hadd, hreading⟩ := h.header hname hst
      obtain ⟨d₂, sts', hread, hrest, hrun⟩ := hreading.run t.2 (by simpa using ht) hsts
      obtain ⟨d', hfold, hfinishes⟩ := ih (hread.finishes hname)
        (by rwa [List.append_assoc, List.nil_append, List.singleton_append]) hfields hrest
      refine ⟨d', ?_, by rwa [List.append_assoc, List.singleton_append] at hfinishes⟩
      rw [List.foldlM_cons, hadd]
      exact hrun.trans hfold

/-- **A document is read as the tables that it says.** -/
theorem readDocument_says {source : String} {tables : List (String × List (String × Written))}
    (h : Says source.toList (entriesOf tables))
    (hmark : ∀ c ∈ source.toList.head?, c.toNat ≠ 0xFEFF) (hdistinct : Distinct tables) :
    ∃ root, readDocument source = .ok root ∧ Kept HoldsTable root tables := by
  obtain ⟨sts, hstatements, hsts⟩ := statementsOf_says h hmark
  have hstart : Finishes ⟨[], none, []⟩ [] := ⟨[], rfl, .nil⟩
  obtain ⟨d, hfold, root, hfinish, hroot⟩ :=
    hstart.run tables hdistinct.outer hdistinct.inner hsts
  refine ⟨root, ?_, hroot⟩
  simp only [readDocument, hstatements, hfold, bind, Except.bind, hfinish]

end SceneRender.Toml
