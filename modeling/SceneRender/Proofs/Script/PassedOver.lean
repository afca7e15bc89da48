import SceneRender.Proofs.Script.Lookahead

/-!
# What the nesting scan passes over

A comment and a literal without replacement fields are one step of the scan each, and the state
behind it does not depend on what stands in them: a comment is skipped up to the line feed, and
of a body only the line feeds count.  What was read before does not see the difference either,
because the bytes that it looked at are the same (`Reached.exists_read`).  So two texts that
differ in a comment or in such a body get the same verdict.
-/

namespace SceneRender.Script.Nesting

variable {s s' : State} {b : UInt8} {before after : List UInt8}

/-- **Bytes ahead can be exchanged** for others that begin alike, if one step leads to the same
state from both. -/
theorem Reached.check_eq_of_verdict {old new : List UInt8} (hs : Reached (before ++ old) s)
    (hrest : s.rest = old) (hbegin : new.head? = old.head?)
    (hverdict : ({ s with rest := new } : State).verdict = s.verdict) :
    Nesting.check (before ++ new) = Nesting.check (before ++ old) := by
  obtain ⟨read, htext, -, hagain⟩ := hs.exists_read
  have hread : read = before := by
    rw [hrest] at htext
    exact (List.append_cancel_right htext).symm
  have hnew : Reached (before ++ new) { s with rest := new } :=
    hread ▸ hagain new (hbegin.trans (by rw [hrest]))
  rw [hnew.check_eq_verdict, hverdict, hs.check_eq_verdict]

/-! ## Comments -/

/-- Does a line end in front of the text, with a line feed or because nothing is left? -/
def IsLineEnd (after : List UInt8) : Prop := ∀ b, after.head? = some b → b = lineFeed

/-- The state behind a comment: only the line start is over. -/
theorem verdict_comment {comment : List UInt8} (hrest : s.rest = byte '#' :: (comment ++ after))
    (hcomment : lineFeed ∉ comment) (hafter : IsLineEnd after) :
    s.verdict = ({ s with rest := after, lineStart := false } : State).verdict := by
  have hskip : s.rest.dropWhile (· != lineFeed) = after := by
    have hpassed : ∀ b ∈ byte '#' :: comment, (b != lineFeed) = true := by
      intro b hb
      rw [bne_iff_ne]
      rintro rfl
      rcases List.mem_cons.mp hb with hb | hb
      · exact absurd hb (by decide)
      · exact hcomment hb
    rw [hrest, ← List.cons_append, List.dropWhile_append_of_pos hpassed]
    cases after with
    | nil => rfl
    | cons b after => exact List.dropWhile_cons_of_neg (by simp [hafter b rfl])
  have hwithin : ∀ t : State, t.rest = s.rest → t.lineStart = false →
      t.verdict = ({ t with rest := after } : State).verdict := by
    intro t ht hstart
    refine verdict_step (b := byte '#') (ht.trans hrest) ?_
    rw [step_eq_token hstart, ← hskip, ← ht]
    rfl
  cases hstart : s.lineStart with
  | false =>
      rw [hwithin s rfl hstart]
      congr 1
      rw [← hstart]
  | true =>
      -- a line that begins with a comment is measured, but opens and closes no block
      have hstep : s.step (byte '#') = .ok { s with lineStart := false } := by
        have hindent : s.rest.dropWhile isIndent = s.rest := by
          rw [hrest]
          rfl
        rw [State.step, if_pos hstart, indentation_eq, hindent, if_pos (by rw [hrest]; rfl)]
      rw [verdict_step hrest hstep, hwithin { s with lineStart := false } rfl rfl]

/-! ## Literals -/

/-- A literal: the letters in front, its quotes and its body.  A literal that is left open ends
with its body. -/
structure Literal where
  mark : List UInt8
  quote : UInt8
  triple : Bool
  body : List UInt8
  closed : Bool

namespace Literal

variable {l : Literal}

/-- The quotes that open the literal, and those that close it. -/
def quotes (l : Literal) : List UInt8 := List.replicate (if l.triple then 3 else 1) l.quote

/-- The quotes behind the body. -/
def closing (l : Literal) : List UInt8 := if l.closed then l.quotes else []

/-- The bytes of a literal. -/
def bytes (l : Literal) : List UInt8 := l.mark ++ (l.quotes ++ (l.body ++ l.closing))

/-- **A plain literal**: it has a quote, and perhaps letters that announce a string without
replacement fields. -/
structure IsPlain (l : Literal) : Prop where
  quote : isQuote l.quote = true
  mark : l.mark = [] ∨ isStringMark l.mark = true ∧ ∀ b ∈ l.mark, lower b ≠ byte 'f'

/-- Where a literal can end: behind its quotes or, if it is left open, at the end of the text, or at
the end of the line unless it has three quotes. -/
def EndsAt (l : Literal) (after : List UInt8) : Prop :=
  l.closed = true ∨ after = [] ∨ l.triple = false ∧ after.head? = some lineFeed

/-- **A body that can stand in place of another**: it is not empty, has neither a backslash nor a
quote of the literal in it, and as many line feeds, which are none unless the literal has three
quotes. -/
structure Admits (l : Literal) (body : List UInt8) : Prop where
  ne_nil : body ≠ []
  backslash : byte '\\' ∉ body
  quote : l.quote ∉ body
  lines : body.count lineFeed = l.body.count lineFeed
  line : l.triple = false → lineFeed ∉ body

/-- **The scan enters the literal** behind `before` and leaves it in front of `after`: it comes to a
state with the literal ahead, outside of any string and comment and not at a line start, and the
next step passes over the literal. -/
structure Entered (l : Literal) (before after : List UInt8) (s s' : State) : Prop where
  reached : Reached (before ++ (l.bytes ++ after)) s
  ahead : s.rest = l.bytes ++ after
  lineStart : s.lineStart = false
  step : ∃ b, s.rest.head? = some b ∧ s.step b = .ok s'
  behind : s'.rest = after

/-- The letters that announce a string, in either case. -/
theorem mem_of_mark (hb : "rbuf".toList.any (byte · == lower b) = true) :
    b ∈ "rbufRBUF".toList.map byte := by
  obtain ⟨c, hc, hlower⟩ := List.any_eq_true.mp hb
  have hlower : byte c = lower b := beq_iff_eq.mp hlower
  have hc : c = 'r' ∨ c = 'b' ∨ c = 'u' ∨ c = 'f' := by simpa using hc
  rw [lower] at hlower
  split_ifs at hlower
  · obtain rfl : byte c - 32 = b := by rw [hlower, UInt8.add_sub_cancel]
    rcases hc with rfl | rfl | rfl | rfl <;> decide
  · subst hlower
    rcases hc with rfl | rfl | rfl | rfl <;> decide

/-- Such a letter begins a word and stands in it. -/
theorem letter_of_mark (hb : "rbuf".toList.any (byte · == lower b) = true) :
    isWordByte b = true ∧ ∀ ahead, tokenAt b ahead = State.word := by
  have hmem := mem_of_mark hb
  simp only [String.reduceToList, List.map_cons, List.map_nil, List.mem_cons, List.not_mem_nil,
    or_false] at hmem
  rcases hmem with rfl | rfl | rfl | rfl | rfl | rfl | rfl | rfl <;>
    exact ⟨by decide, fun _ => rfl⟩

/-- The step at a plain literal scans its string. -/
theorem IsPlain.step (hl : l.IsPlain) {tail : List UInt8}
    (hrest : s.rest = l.mark ++ l.quote :: tail) (hstart : s.lineStart = false)
    (hb : s.rest.head? = some b) :
    s.step b = ({ s with rest := l.quote :: tail } : State).string false := by
  rw [step_eq_token hstart]
  rcases hl.mark with hmark | ⟨hmark, hformat⟩
  · rw [hmark, List.nil_append] at hrest
    obtain rfl : l.quote = b := by simpa [hrest] using hb
    have hs : s = { s with rest := l.quote :: tail } := by rw [← hrest]
    have htoken : ∀ ahead, tokenAt l.quote ahead = (·.string false) := by
      have hquote := hl.quote
      simp only [isQuote, Bool.or_eq_true, beq_iff_eq] at hquote
      rcases hquote with hquote | hquote <;> rw [hquote] <;> exact fun _ => rfl
    rw [htoken, ← hs]
  · have hletters : ∀ b ∈ l.mark, "rbuf".toList.any (byte · == lower b) = true := by
      simp only [isStringMark, Bool.and_eq_true, List.all_eq_true] at hmark
      exact hmark.2
    have hbegin : b ∈ l.mark := by
      cases hcase : l.mark with
      | nil => simp [hcase, isStringMark] at hmark
      | cons c mark =>
          rw [hrest, hcase] at hb
          obtain rfl : c = b := by simpa using hb
          exact List.mem_cons_self
    have hword : ∀ b ∈ l.mark, isWordByte b = true := fun b hb => (letter_of_mark (hletters b hb)).1
    have hquote : isWordByte l.quote = false := by
      have hquote := hl.quote
      simp only [isQuote, Bool.or_eq_true, beq_iff_eq] at hquote
      rcases hquote with hquote | hquote <;> rw [hquote] <;> decide
    have htake : s.rest.takeWhile isWordByte = l.mark := by
      rw [hrest, List.takeWhile_append_of_pos hword, List.takeWhile_cons_of_neg (by simp [hquote]),
        List.append_nil]
    have hdrop : s.rest.dropWhile isWordByte = l.quote :: tail := by
      rw [hrest, List.dropWhile_append_of_pos hword, List.dropWhile_cons_of_neg (by simp [hquote])]
    have hplain : (l.mark.any fun b => lower b == byte 'f') = false := by
      simpa using hformat
    rw [(letter_of_mark (hletters b hbegin)).2, State.word, htake, hdrop, hplain]
    exact if_pos (by simp [hl.quote, hmark])

/-! ### Bodies -/

/-- A body without a backslash, a quote of its kind or a line feed too many is scanned to its end,
and counts its lines. -/
theorem scanString_body {q : Quoting} {body rest : List UInt8} {depth : Nat}
    (hformatted : q.formatted = false) (hslash : byte '\\' ∉ body) (hquote : q.quote ∉ body)
    (hfeed : q.triple = false → lineFeed ∉ body) : ∀ line,
    scanString q depth line (body ++ rest) =
      scanString q depth (line + body.count lineFeed) rest := by
  induction body with
  | nil => intro line; rfl
  | cons b body ih =>
      intro line
      simp only [List.mem_cons, not_or] at hslash hquote
      have ih := ih hslash.2 hquote.2 fun htriple hmem =>
        hfeed htriple (List.mem_cons_of_mem b hmem)
      rw [List.cons_append, scanString_cons, if_neg (by simpa using Ne.symm hslash.1)]
      by_cases hb : b = lineFeed
      · have htriple : q.triple = true := by
          by_contra hsingle
          exact hfeed (Bool.not_eq_true _ |>.mp hsingle) (hb ▸ List.mem_cons_self)
        rw [if_pos (by simp [hb]), if_pos htriple, ih, hb, List.count_cons_self]
        congr 1
        omega
      · rw [if_neg (by simpa using hb), if_neg (by simpa using Ne.symm hquote.1), hformatted,
          Bool.false_and, Bool.false_and, if_neg Bool.false_ne_true, if_neg Bool.false_ne_true, ih,
          List.count_cons_of_ne hb]

variable {body : List UInt8}

/-- A literal has one quote in front, or three. -/
theorem quotes_eq (l : Literal) :
    l.quotes = if l.triple then [l.quote, l.quote, l.quote] else [l.quote] := by
  rw [quotes]
  cases l.triple <;> rfl

/-- A literal ends where it can end. -/
theorem EndsAt.scanString (h : l.EndsAt after) (hquote : isQuote l.quote = true) (line : Nat) :
    scanString ⟨l.quote, l.triple, false⟩ 0 line (l.closing ++ after) = .ok (after, line) := by
  have hslash : ¬ (l.quote == byte '\\') = true := by
    intro heq
    rw [beq_iff_eq.mp heq] at hquote
    exact absurd hquote (by decide)
  have hfeed : ¬ (l.quote == lineFeed) = true := by
    simpa using isQuote_ne_lineFeed hquote
  cases hclosed : l.closed with
  | true =>
      rw [closing, hclosed, if_pos rfl, quotes_eq]
      cases htriple : l.triple with
      | true =>
          have hclose : twoQuotes l.quote (l.quote :: l.quote :: after) = true := by
            simp [twoQuotes]
          simp only [if_true, List.cons_append, List.nil_append]
          rw [scanString_cons, if_neg hslash, if_neg hfeed, if_pos (by simp), if_neg (by simp)]
          exact if_pos hclose
      | false =>
          simp only [Bool.false_eq_true, if_false, List.cons_append, List.nil_append]
          rw [scanString_cons, if_neg hslash, if_neg hfeed, if_pos (by simp)]
          rfl
  | false =>
      rw [closing, hclosed, if_neg Bool.false_ne_true, List.nil_append]
      rcases h with h | rfl | ⟨hsingle, hend⟩
      · rw [hclosed] at h
        cases h
      · rfl
      · obtain ⟨after, rfl⟩ := List.head?_eq_some_iff.mp hend
        rw [scanString_cons, hsingle]
        rfl

/-- **The string of a literal with another body** ends where the literal does, with the lines of
that body. -/
theorem Admits.string (h : l.Admits body) (hquote : isQuote l.quote = true)
    (hends : l.EndsAt after) (s : State) :
    ({ s with rest := l.quotes ++ (body ++ (l.closing ++ after)) } : State).string false =
      .ok { s with rest := after, line := s.line + body.count lineFeed } := by
  have hscan : scanString ⟨l.quote, l.triple, false⟩ 0 s.line (body ++ (l.closing ++ after)) =
      .ok (after, s.line + body.count lineFeed) := by
    rw [scanString_body rfl h.backslash h.quote h.line]
    exact hends.scanString hquote _
  rw [quotes_eq]
  cases htriple : l.triple with
  | true =>
      have hthree : twoQuotes l.quote
          (l.quote :: l.quote :: (body ++ (l.closing ++ after))) = true := by
        simp [twoQuotes]
      rw [htriple] at hscan
      simp only [if_true, List.cons_append, List.nil_append]
      rw [string_quote, hthree]
      simp only [if_true, List.drop_succ_cons, List.drop_zero, hscan]
  | false =>
      have hone : twoQuotes l.quote (body ++ (l.closing ++ after)) = false := by
        obtain ⟨b, more, rfl⟩ := List.exists_cons_of_ne_nil h.ne_nil
        have hb : b ≠ l.quote := fun heq => h.quote (heq ▸ List.mem_cons_self)
        rw [List.cons_append]
        cases more ++ (l.closing ++ after) <;> simp [twoQuotes, hb]
      rw [htriple] at hscan
      simp only [Bool.false_eq_true, if_false, List.cons_append, List.nil_append]
      rw [string_quote, hone]
      simp only [Bool.false_eq_true, if_false, hscan]

/-- A literal is its mark, its quotes, its body and its closing quotes. -/
theorem bytes_append (l : Literal) (after : List UInt8) :
    l.bytes ++ after = l.mark ++ (l.quotes ++ (l.body ++ (l.closing ++ after))) := by
  simp only [bytes, List.append_assoc]

/-- A literal begins with its quote. -/
theorem exists_quotes (l : Literal) : ∃ more, l.quotes = l.quote :: more := by
  rw [quotes_eq]
  cases l.triple with
  | true => exact ⟨[l.quote, l.quote], rfl⟩
  | false => exact ⟨[], rfl⟩

/-- No line ends in the quotes of a literal. -/
theorem IsPlain.count_quotes (hl : l.IsPlain) :
    l.quotes.count lineFeed = 0 ∧ l.closing.count lineFeed = 0 := by
  have hopening : l.quotes.count lineFeed = 0 := by
    rw [List.count_eq_zero]
    intro hmem
    exact isQuote_ne_lineFeed hl.quote (List.eq_of_mem_replicate hmem).symm
  refine ⟨hopening, ?_⟩
  rw [closing]
  split
  · exact hopening
  · rfl

/-- The step at a literal scans the string behind its letters. -/
theorem IsPlain.step_bytes (hl : l.IsPlain) (hrest : s.rest = l.bytes ++ after)
    (hstart : s.lineStart = false) (hb : s.rest.head? = some b) :
    s.step b = ({ s with
      rest := l.quotes ++ (l.body ++ (l.closing ++ after)) } : State).string false := by
  obtain ⟨more, hmore⟩ := l.exists_quotes
  rw [bytes_append, hmore] at hrest
  rw [hmore]
  exact hl.step hrest hstart hb

/-- **The step over a literal counts the lines of its body** and changes nothing else. -/
theorem Entered.behind_eq (h : l.Entered before after s s') (hl : l.IsPlain) :
    s' = { s with rest := after, line := s.line + l.body.count lineFeed } := by
  obtain ⟨b, hb, hstep⟩ := h.step
  rw [hl.step_bytes h.ahead h.lineStart hb] at hstep
  obtain ⟨more, hmore⟩ := l.exists_quotes
  have hhead : ((l.quotes ++ (l.body ++ (l.closing ++ after))).head?).any isQuote = true := by
    rw [hmore]
    exact hl.quote
  obtain ⟨read, hread⟩ := string_reads hhead hstep
  have htext : read = l.quotes ++ (l.body ++ l.closing) := by
    have htext := hread.text
    rw [h.behind] at htext
    exact (List.append_cancel_right (by simpa only [List.append_assoc] using htext)).symm
  have hlines : s'.line = s.line + l.body.count lineFeed := by
    rw [hread.lines, htext, List.count_append, List.count_append, hl.count_quotes.1,
      hl.count_quotes.2, Nat.zero_add, Nat.add_zero]
  obtain ⟨rest, line, rfl, -⟩ := string_ok hstep
  rw [← hlines, ← h.behind]

/-- **A literal with another body gets the same verdict.** -/
theorem Entered.check_eq (h : l.Entered before after s s') (hl : l.IsPlain)
    (hends : l.EndsAt after) {body : List UInt8} (hbody : l.Admits body) :
    Nesting.check (before ++ (({ l with body } : Literal).bytes ++ after)) =
      Nesting.check (before ++ (l.bytes ++ after)) := by
  have hsame : ∀ tail, (l.mark ++ (l.quotes ++ tail)).head? = (l.mark ++ l.quotes).head? := by
    obtain ⟨more, hmore⟩ := l.exists_quotes
    intro tail
    rw [hmore]
    cases l.mark <;> rfl
  have hbegin : (({ l with body } : Literal).bytes ++ after).head? = (l.bytes ++ after).head? := by
    rw [bytes_append, bytes_append, hsame]
    exact hsame _
  obtain ⟨b, hb, hstep⟩ := h.step
  have hnew : ({ s with rest := ({ l with body } : Literal).bytes ++ after } : State).step b =
      .ok s' := by
    have hplain : ({ l with body } : Literal).IsPlain := ⟨hl.quote, hl.mark⟩
    have hahead : (({ l with body } : Literal).bytes ++ after).head? = some b := by
      rw [hbegin, ← h.ahead, hb]
    rw [hplain.step_bytes (s := { s with rest := ({ l with body } : Literal).bytes ++ after }) rfl
      h.lineStart hahead, h.behind_eq hl, ← hbody.lines]
    exact hbody.string hl.quote hends s
  refine h.reached.check_eq_of_verdict h.ahead hbegin ?_
  obtain ⟨old, hold⟩ := List.head?_eq_some_iff.mp hb
  obtain ⟨new, hnewRest⟩ := List.head?_eq_some_iff.mp (hbegin.trans (h.ahead ▸ hb))
  rw [verdict_step (s := { s with rest := ({ l with body } : Literal).bytes ++ after })
    hnewRest hnew, verdict_step hold hstep]

end Literal

/-! ## Verdicts -/

/-- **Comments and the bodies of plain literals do not matter to the nesting scan**: where it comes
to a comment or enters a literal without replacement fields, any other comment and any other body
of as many lines gets the same verdict, and the same line in it.  Nothing is asked of what stands
in front and behind. -/
theorem comments_and_bodies_passed_over :
    (∀ (before comment comment' after : List UInt8) (s : State),
      Reached (before ++ byte '#' :: (comment ++ after)) s →
      s.rest = byte '#' :: (comment ++ after) →
      lineFeed ∉ comment → lineFeed ∉ comment' → IsLineEnd after →
        Nesting.check (before ++ byte '#' :: (comment' ++ after)) =
          Nesting.check (before ++ byte '#' :: (comment ++ after))) ∧
    ∀ (l : Literal) (before after body : List UInt8) (s s' : State),
      l.IsPlain → l.EndsAt after → l.Entered before after s s' → l.Admits body →
        Nesting.check (before ++ (({ l with body } : Literal).bytes ++ after)) =
          Nesting.check (before ++ (l.bytes ++ after)) := by
  constructor
  · intro before comment comment' after s hs hrest hcomment hcomment' hafter
    refine hs.check_eq_of_verdict hrest rfl ?_
    rw [verdict_comment hrest hcomment hafter,
      verdict_comment (s := { s with rest := byte '#' :: (comment' ++ after) }) rfl hcomment'
        hafter]
  · intro l before after body s s' hl hends hentered hbody
    exact hentered.check_eq hl hends hbody

/-- A literal with brackets, an escaped quote and a line feed in it. -/
def bracketLiteral : Literal := ⟨bytesOf "bR", byte '"', true, bytesOf "((\n\\\"\"[", true⟩

/-- A comment, and below it a line that nests too deep. -/
def signsBelow (comment : List UInt8) : List UInt8 :=
  byte '#' :: (comment ++ lineFeed :: List.replicate 401 (byte '-'))

/-- The brackets in a comment and in a literal are passed over, and those outside are counted. -/
theorem brackets_passed_over :
    ∃ s s' : State,
      Reached (bytesOf "x=" ++ (bracketLiteral.bytes ++ signsBelow (bytesOf "[["))) s ∧
      s'.rest = signsBelow (bytesOf "[[") ∧ lineFeed ∉ bytesOf "[[" ∧ lineFeed ∉ bytesOf "\x7b(" ∧
      IsLineEnd (lineFeed :: List.replicate 401 (byte '-')) ∧ bracketLiteral.IsPlain ∧
      bracketLiteral.EndsAt (signsBelow (bytesOf "[[")) ∧
      bracketLiteral.Entered (bytesOf "x=") (signsBelow (bytesOf "[[")) s s' ∧
      bracketLiteral.Admits (bytesOf ")\n'\x7b") ∧
      Nesting.check (bytesOf "x=" ++ bracketLiteral.bytes ++ signsBelow (bytesOf "\x7b(")) =
        some ⟨.depth, 3⟩ ∧
      Nesting.check (bytesOf "x=" ++ (({ bracketLiteral with
        body := bytesOf ")\n'\x7b" } : Literal).bytes ++ signsBelow (bytesOf "[["))) =
        some ⟨.depth, 3⟩ := by
  let s : State := ⟨bracketLiteral.bytes ++ signsBelow (bytesOf "[["), 1, [], 0, 0, [0], false⟩
  let s' : State := ⟨signsBelow (bytesOf "[["), 2, [], 0, 0, [0], false⟩
  have htext : Nesting.check (bytesOf "x=" ++ (bracketLiteral.bytes ++ signsBelow (bytesOf "[["))) =
      some ⟨.depth, 3⟩ := by decide +kernel
  have hs : Reached (bytesOf "x=" ++ (bracketLiteral.bytes ++ signsBelow (bytesOf "[["))) s :=
    Reached.start.run (n := 3) (by decide +kernel)
  have hs' : Reached (bytesOf "x=" ++ (bracketLiteral.bytes ++ signsBelow (bytesOf "[["))) s' :=
    hs.run (n := 1) (by decide +kernel)
  have hplain : bracketLiteral.IsPlain := ⟨by decide, Or.inr (by decide +kernel)⟩
  have hends : bracketLiteral.EndsAt (signsBelow (bytesOf "[[")) := Or.inl rfl
  have hentered : bracketLiteral.Entered (bytesOf "x=") (signsBelow (bytesOf "[[")) s s' :=
    ⟨hs, rfl, rfl, ⟨byte 'b', by decide, by decide +kernel⟩, rfl⟩
  have hadmits : bracketLiteral.Admits (bytesOf ")\n'\x7b") :=
    ⟨by decide, by decide, by decide, by decide, nofun⟩
  have hafter : IsLineEnd (lineFeed :: List.replicate 401 (byte '-')) :=
    fun b hb => (Option.some.inj hb).symm
  refine ⟨s, s', hs, rfl, by decide, by decide, hafter, hplain, hends, hentered, hadmits, ?_, ?_⟩
  · rw [← htext, ← List.append_assoc]
    rw [← List.append_assoc] at hs'
    exact comments_and_bodies_passed_over.1 _ _ _ _ _ hs' rfl (by decide) (by decide) hafter
  · rw [← htext]
    exact comments_and_bodies_passed_over.2 _ _ _ _ _ _ hplain hends hentered hadmits

end SceneRender.Script.Nesting
