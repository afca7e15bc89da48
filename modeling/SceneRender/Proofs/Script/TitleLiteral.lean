import SceneRender.Generation.Prompt
import SceneRender.Proofs.Script.SignChains

/-!
# The title of the placeholder scene

A topic is any text, and the placeholder scene quotes it.  What a character of the topic
becomes in the title is one of two pieces: a pair of backslashes, which every reader of
strings passes as a pair, or one character that is no backslash, no quote and no line end,
which every reader passes by itself.  So for the scan, for the lexer and for the decoder of
escapes alike, the title ends where its closing quote stands.
-/

namespace SceneRender.Script

/-- A character that stands for itself within quotes. -/
structure IsQuotable (c : Char) : Prop where
  slash : c ≠ '\\'
  quote : c ≠ '"'
  feed : c ≠ '\n'
  ret : c ≠ '\r'

/-- **What a character of a topic becomes** in the title. -/
theorem titleChar_eq (c : Char) :
    titleChar c = ['\\', '\\'] ∨ ∃ d, titleChar c = [d] ∧ IsQuotable d := by
  unfold titleChar
  split
  · exact .inl rfl
  · exact .inr ⟨_, rfl, by decide, by decide, by decide, by decide⟩
  · exact .inr ⟨_, rfl, by decide, by decide, by decide, by decide⟩
  · exact .inr ⟨_, rfl, by decide, by decide, by decide, by decide⟩
  · rename_i hslash hquote hfeed hreturn
    exact .inr ⟨c, rfl, hslash, hquote, hfeed, hreturn⟩

/-- The characters of a title are backslashes or can be quoted. -/
theorem mem_title {d : Char} {topic : List Char} (h : d ∈ topic.flatMap titleChar) :
    d = '\\' ∨ IsQuotable d := by
  obtain ⟨c, -, hc⟩ := List.mem_flatMap.mp h
  rcases titleChar_eq c with h | ⟨d', h, hd⟩ <;> rw [h] at hc
  · exact .inl (by simpa using hc)
  · rw [List.mem_singleton.mp hc]
    exact .inr hd

/-- A title does not begin with a quote. -/
theorem quote_not_mem_title (topic : List Char) : '"' ∉ topic.flatMap titleChar := fun h =>
  (mem_title h).elim (by decide) fun hd => hd.quote rfl

/-- A title has no carriage return. -/
theorem return_not_mem_title (topic : List Char) : '\r' ∉ topic.flatMap titleChar := fun h =>
  (mem_title h).elim (by decide) fun hd => hd.ret rfl

/-! ## Size -/

/-- A title is at least as long as its topic, and at most twice as long. -/
theorem length_title_bounds (topic : List Char) :
    topic.length ≤ (topic.flatMap titleChar).length ∧
      (topic.flatMap titleChar).length ≤ 2 * topic.length := by
  induction topic with
  | nil => exact ⟨Nat.le_refl _, Nat.le_refl _⟩
  | cons c topic ih =>
      rw [List.flatMap_cons, List.length_append, List.length_cons]
      rcases titleChar_eq c with h | ⟨d, h, -⟩ <;> rw [h] <;>
        simp only [List.length_cons, List.length_nil] <;> omega

/-- A text is at most four times as many bytes as it has characters. -/
theorem utf8ByteSize_ofList_le (cs : List Char) :
    (String.ofList cs).utf8ByteSize ≤ 4 * cs.length := by
  change (utf8 (String.ofList cs)).length ≤ _
  rw [utf8_ofList]
  induction cs with
  | nil => exact Nat.le_refl _
  | cons c cs ih =>
      have hc : (String.utf8EncodeChar c).length ≤ 4 := by
        rw [String.length_utf8EncodeChar]
        exact Char.utf8Size_le_four c
      rw [List.flatMap_cons, List.length_append, List.length_cons]
      omega

/-! ## The scan -/

namespace Nesting

/-- Bytes that neither escape nor end anything stay inside a string. -/
theorem scanString_skip {q : Quoting} {depth line : Nat} {bytes rest : List UInt8}
    (hplain : q.formatted = false)
    (h : ∀ b ∈ bytes, b ≠ byte '\\' ∧ b ≠ lineFeed ∧ b ≠ q.quote) :
    scanString q depth line (bytes ++ rest) = scanString q depth line rest := by
  induction bytes with
  | nil => rfl
  | cons b bytes ih =>
      obtain ⟨hslash, hfeed, hquote⟩ := h b (List.mem_cons_self ..)
      rw [List.cons_append, scanString.eq_def]
      simp only [beq_iff_eq, hslash, hfeed, hquote, hplain, if_false, Bool.false_and,
        Bool.false_eq_true]
      exact ih fun b hb => h b (List.mem_cons_of_mem _ hb)

/-- **The scan passes a title** up to its closing quote. -/
theorem scanString_title (topic : List Char) (line : Nat) (rest : List UInt8) :
    scanString ⟨byte '"', false, false⟩ 0 line
        ((topic.flatMap titleChar).flatMap String.utf8EncodeChar ++ byte '"' :: rest) =
      .ok (rest, line) := by
  induction topic with
  | nil =>
      rw [scanString.eq_def]
      rfl
  | cons c topic ih =>
      rw [List.flatMap_cons, List.flatMap_append, List.append_assoc]
      rcases titleChar_eq c with h | ⟨d, h, hd⟩ <;> rw [h]
      · exact ih
      · refine (scanString_skip rfl fun b hb => ?_).trans ih
        have hother {a : Char} (ha : a.toNat < 128) (hne : d ≠ a) : b ≠ byte a := by
          rintro rfl
          exact hne (eq_of_byte_mem_utf8EncodeChar ha (by simpa using hb))
        exact ⟨hother (by decide) hd.slash, hother (a := '\n') (by decide) hd.feed,
          hother (by decide) hd.quote⟩

/-- A string with one quote on either side is left behind its closing quote. -/
theorem State.string_single {s : State} {quote : UInt8} {formatted : Bool}
    {bytes rest : List UInt8} {line : Nat} (hrest : s.rest = quote :: bytes)
    (hsingle : bytes.take 2 ≠ [quote, quote])
    (hscan : scanString ⟨quote, false, formatted⟩ 0 s.line bytes = .ok (rest, line)) :
    s.string formatted = .ok { s with rest, line } := by
  rw [State.string, hrest]
  rcases bytes with _ | ⟨b₁, _ | ⟨b₂, tail⟩⟩
  · simp only [Bool.false_eq_true, if_false, hscan]
  · simp only [Bool.false_eq_true, if_false, hscan]
  · have htriple : (b₁ == quote && b₂ == quote) = false := by simpa using hsingle
    simp only [htriple, Bool.false_eq_true, if_false, hscan]

/-- **A quoted title is one string** to the scan, and not one with three quotes. -/
theorem State.string_title {s : State} {topic : List Char} {b : UInt8} {rest : List UInt8}
    (hrest : s.rest = byte '"' ::
      ((topic.flatMap titleChar).flatMap String.utf8EncodeChar ++ byte '"' :: b :: rest))
    (hb : b ≠ byte '"') :
    s.string false = .ok { s with rest := b :: rest } := by
  have hquote : byte '"' ∉ (topic.flatMap titleChar).flatMap String.utf8EncodeChar := by
    rw [List.mem_flatMap]
    rintro ⟨c, hc, hbyte⟩
    exact quote_not_mem_title topic (eq_of_byte_mem_utf8EncodeChar (by decide) hbyte ▸ hc)
  refine State.string_single hrest ?_ (scanString_title topic s.line (b :: rest))
  cases hbytes : (topic.flatMap titleChar).flatMap String.utf8EncodeChar with
  | nil => simpa using hb
  | cons b₁ bytes =>
      intro hfirst
      exact hquote (hbytes ▸ (List.cons.inj hfirst).1 ▸ List.mem_cons_self ..)

end Nesting

/-! ## The lexer -/

/-- The glyphs of a text without a carriage return. -/
def plainGlyphs (cs : List Char) : List Glyph := cs.map fun c => ⟨c, c.utf8Size⟩

/-- A text without carriage returns has plain characters only. -/
theorem glyphs_eq_plainGlyphs {cs : List Char} (h : '\r' ∉ cs) : glyphs cs = plainGlyphs cs := by
  induction cs with
  | nil => rfl
  | cons c cs ih =>
      rw [List.mem_cons, not_or] at h
      rw [glyphs, ih h.2]
      · rfl
      · exact fun _ hc _ => h.1 hc.symm
      · exact fun hc => h.1 hc.symm

/-- A quotable character goes into the body. -/
theorem takeString_quotable {c : Char} {w pos : Nat} {body : List Char} {gs : List Glyph}
    (hc : IsQuotable c) :
    takeString '"' false body (⟨c, w⟩ :: gs) pos =
      takeString '"' false (c :: body) gs (pos + w) := by
  rw [takeString.eq_def]
  split
  · rename_i heq
    cases heq
  · rename_i heq
    exact absurd (congrArg Glyph.char (List.cons.inj heq).1) hc.slash
  · rename_i heq
    cases heq
    simp [hc.feed, hc.quote]

/-- **The lexer takes a title** up to its closing quote. -/
theorem takeString_title (topic body : List Char) (gs : List Glyph) (pos : Nat) :
    ∃ stop, takeString '"' false body
        (plainGlyphs (topic.flatMap titleChar) ++ ⟨'"', 1⟩ :: gs) pos =
      .ok ((topic.flatMap titleChar).reverse ++ body, ⟨gs, stop⟩) := by
  induction topic generalizing body pos with
  | nil =>
      refine ⟨pos + 1, ?_⟩
      rw [takeString.eq_def]
      rfl
  | cons c topic ih =>
      rw [List.flatMap_cons, List.reverse_append, List.append_assoc]
      rcases titleChar_eq c with h | ⟨d, h, hd⟩ <;> rw [h]
      · obtain ⟨stop, hstop⟩ := ih ('\\' :: '\\' :: body) (pos + 1 + 1)
        exact ⟨stop, hstop⟩
      · obtain ⟨stop, hstop⟩ := ih (d :: body) (pos + d.utf8Size)
        refine ⟨stop, Eq.trans ?_ hstop⟩
        exact takeString_quotable hd

/-- A string with one quote on either side is a token up to its closing quote. -/
theorem lexString_single {quote : Char} {w pos : Nat} {gs : List Glyph} {body : List Char}
    {c : Cursor} (hsingle : (gs.take 2).map (·.char) ≠ [quote, quote])
    (hbody : takeString quote false [] gs (pos + w) = .ok (body, c)) :
    lexString .plain ⟨⟨quote, w⟩ :: gs, pos⟩ =
      .ok (.string (String.ofList body.reverse) .plain false, c) := by
  have htriple : (Cursor.peek ⟨gs, pos + w⟩ 0 == some quote &&
      Cursor.peek ⟨gs, pos + w⟩ 1 == some quote) = false := by
    rcases gs with _ | ⟨g₁, _ | ⟨g₂, gs⟩⟩
    · rfl
    · simp [Cursor.peek]
    · simpa [Cursor.peek] using hsingle
  have hopen : Cursor.peek ⟨⟨quote, w⟩ :: gs, pos⟩ 0 = some quote := rfl
  simp only [lexString, StringKind.letters, Cursor.skip, Cursor.next, hopen, htriple,
    Bool.false_eq_true, if_false, hbody]

/-- **A quoted title is one string** to the lexer as well. -/
theorem lexString_title (topic : List Char) {g : Glyph} (gs : List Glyph) (hg : g.char ≠ '"')
    (pos : Nat) :
    ∃ stop, lexString .plain
        ⟨⟨'"', 1⟩ :: (plainGlyphs (topic.flatMap titleChar) ++ ⟨'"', 1⟩ :: g :: gs), pos⟩ =
      .ok (.string (String.ofList (topic.flatMap titleChar)) .plain false, ⟨g :: gs, stop⟩) := by
  obtain ⟨stop, hstop⟩ := takeString_title topic [] (g :: gs) (pos + 1)
  rw [List.append_nil] at hstop
  refine ⟨stop, (lexString_single ?_ hstop).trans (by rw [List.reverse_reverse])⟩
  have hquote := quote_not_mem_title topic
  cases htitle : topic.flatMap titleChar with
  | nil => simpa [plainGlyphs] using hg
  | cons c title =>
      intro hfirst
      have hc : c = '"' := (List.cons.inj hfirst).1
      exact hquote (htitle ▸ hc ▸ List.mem_cons_self ..)

/-! ## Escapes -/

/-- What a reader makes of a character of the topic in the title. -/
def shownChar (c : Char) : Char := (titleChar c).headD c

/-- **A title says its topic**, quotes and line ends apart. -/
theorem decodeBody_title (topic : List Char) {fuel : Nat} (hfuel : topic.length ≤ fuel)
    (text : List Char) (pos : Nat) :
    decodeBody .plain fuel text ⟨topic.flatMap titleChar, pos⟩ =
      .ok (text.reverse ++ topic.map shownChar) := by
  induction topic generalizing fuel text pos with
  | nil =>
      rw [List.map_nil, List.append_nil]
      cases fuel <;> rfl
  | cons c topic ih =>
      obtain ⟨fuel, rfl⟩ : ∃ m, fuel = m + 1 := ⟨fuel - 1, by simp at hfuel; omega⟩
      have hrest : topic.length ≤ fuel := Nat.le_of_succ_le_succ hfuel
      have hshown {d : Char} {cs : List Char} (h : titleChar c = d :: cs) :
          text.reverse ++ (c :: topic).map shownChar =
            (d :: text).reverse ++ topic.map shownChar := by
        simp [shownChar, h]
      rw [List.flatMap_cons]
      rcases titleChar_eq c with h | ⟨d, h, hd⟩ <;> rw [hshown h, h]
      · exact ih hrest ('\\' :: text) (pos + 1 + 1)
      · refine Eq.trans ?_ (ih hrest (d :: text) (pos + d.utf8Size))
        simp [decodeBody, Place.next?, hd.slash, StringKind.isBytes]

/-- **A quoted title is a text** to the reader. -/
theorem joinLiterals_title {read : FieldReader} (topic : List Char) (start : Nat) :
    joinLiterals read [⟨topic.flatMap titleChar, .plain, false, start⟩] =
      .ok (.constant (.text (String.ofList (topic.map shownChar)))) := by
  have hfuel : topic.length ≤ 2 * (topic.flatMap titleChar).length + 2 := by
    have hlength := (length_title_bounds topic).1
    omega
  have hbody := decodeBody_title topic hfuel [] (start + 1)
  have hpieces : StringPart.pieces read ⟨topic.flatMap titleChar, .plain, false, start⟩ =
      .ok [.constant (.text (String.ofList (topic.map shownChar)))] :=
    (congrArg (Except.map fun text => [Expr.constant (.text (String.ofList text))]) hbody).trans rfl
  have hall : allPieces read [⟨topic.flatMap titleChar, .plain, false, start⟩] =
      .ok [.constant (.text (String.ofList (topic.map shownChar)))] := by
    rw [allPieces, hpieces]
    rfl
  refine (congrArg (Except.map fun pieces => Expr.constant (.text (piecesText pieces)))
    hall).trans ?_
  simp [piecesText, Except.map]

end SceneRender.Script
