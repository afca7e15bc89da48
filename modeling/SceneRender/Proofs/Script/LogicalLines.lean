import SceneRender.Proofs.Script.PassedOver

/-!
# Statements are scanned one by one

Where a logical line begins, the scan has nothing to remember but the line and the open blocks.
The line only moves a violation down (`verdict_below`), and the blocks are all closed by a
statement that is not indented, because the outermost of them has width zero
(`Reached.areBlocks`).  So a text behind a finished statement is scanned as if it stood alone, and
statements in a row never add up.
-/

namespace SceneRender.Script.Nesting

variable {s s' : State} {b : UInt8} {bytes rest : List UInt8} {n : Nat}

/-! ## Lines further down -/

/-- A violation in a text that stands below some lines. -/
def Violation.below (v : Violation) (n : Nat) : Violation := { v with line := v.line + n }

/-- The state of a scan, if its text stands below some lines. -/
def State.below (s : State) (n : Nat) : State := { s with line := s.line + n }

/-- What a step comes to, if its text stands below some lines. -/
def outcomeBelow (n : Nat) : Except Violation State → Except Violation State
  | .ok s => .ok (s.below n)
  | .error v => .error (v.below n)

/-- A choice between states is moved down with both of them. -/
theorem below_ite (c : Prop) [Decidable c] (s s' : State) :
    (if c then s else s').below n = if c then s.below n else s'.below n :=
  apply_ite (State.below · n) c s s'

/-- A choice between outcomes is moved down with both of them. -/
theorem outcomeBelow_ite (c : Prop) [Decidable c] (x y : Except Violation State) :
    outcomeBelow n (if c then x else y) = if c then outcomeBelow n x else outcomeBelow n y :=
  apply_ite (outcomeBelow n) c x y

/-- A string is scanned in the same way further down. -/
theorem scanString_below (q : Quoting) (n : Nat) (depth line : Nat) (bytes : List UInt8) :
    scanString q depth (line + n) bytes =
      match scanString q depth line bytes with
      | .ok (rest, line) => .ok (rest, line + n)
      | .error v => .error (v.below n) := by
  induction hlength : bytes.length using Nat.strong_induction_on generalizing bytes depth line with
  | _ length ih =>
  cases bytes with
  | nil => rfl
  | cons b bytes =>
      have ih : ∀ rest depth line, rest <:+ bytes → _ := fun rest depth line hrest =>
        ih rest.length (hlength ▸ Nat.lt_succ_of_le hrest.length_le) depth line rest rfl
      have hnext : line + n + 1 = line + 1 + n := Nat.add_right_comm ..
      rw [scanString_cons, scanString_cons]
      by_cases hslash : (b == byte '\\') = true
      · rw [if_pos hslash, if_pos hslash, ← ih _ _ _ (List.drop_suffix 1 bytes)]
        congr 1
        split_ifs
        · exact hnext
        · rfl
      rw [if_neg hslash, if_neg hslash]
      by_cases hfeed : (b == lineFeed) = true
      · rw [if_pos hfeed, if_pos hfeed]
        cases q.triple with
        | true => rw [if_pos rfl, if_pos rfl, hnext, ih _ _ _ (List.suffix_refl bytes)]
        | false => rfl
      rw [if_neg hfeed, if_neg hfeed]
      by_cases hquote : (b == q.quote) = true
      · rw [if_pos hquote, if_pos hquote]
        cases q.triple with
        | true =>
            cases htwo : twoQuotes q.quote bytes with
            | true => rfl
            | false => exact ih _ _ _ (List.suffix_refl bytes)
        | false => rfl
      rw [if_neg hquote, if_neg hquote]
      by_cases hopen : (q.formatted && isOpener b) = true
      · rw [if_pos hopen, if_pos hopen]
        by_cases hdeep : depth + 1 > maxBrackets
        · rw [if_pos hdeep, if_pos hdeep]
          rfl
        · rw [if_neg hdeep, if_neg hdeep, ih _ _ _ (List.suffix_refl bytes)]
      rw [if_neg hopen, if_neg hopen]
      by_cases hclose : (q.formatted && isCloser b) = true
      · rw [if_pos hclose, if_pos hclose, ih _ _ _ (List.suffix_refl bytes)]
      · rw [if_neg hclose, if_neg hclose, ih _ _ _ (List.suffix_refl bytes)]

/-- A string literal is passed in the same way further down. -/
theorem string_below (s : State) (formatted : Bool) :
    (s.below n).string formatted = outcomeBelow n (s.string formatted) := by
  cases hrest : s.rest with
  | nil => simp only [State.string, State.below, hrest, outcomeBelow]
  | cons quote tail =>
      have hs : s = { s with rest := quote :: tail } := by rw [← hrest]
      rw [hs, string_quote]
      have hbelow := string_quote quote formatted (s.below n) tail
      refine hbelow.trans ?_
      have hline : (s.below n).line = s.line + n := rfl
      rw [hline, scanString_below]
      cases scanString ⟨quote, twoQuotes quote tail, formatted⟩ 0 s.line
        (if twoQuotes quote tail then tail.drop 2 else tail) <;> rfl

/-- A chain is extended in the same way further down. -/
theorem extend_below (s : State) (levels : Nat) :
    (s.below n).extend levels = outcomeBelow n (s.extend levels) := by
  simp only [State.extend, outcomeBelow_ite]
  rfl

/-- A bracket is opened in the same way further down. -/
theorem openBracket_below (s : State) :
    (s.below n).openBracket = outcomeBelow n s.openBracket := by
  simp only [State.openBracket, outcomeBelow_ite]
  have hextend := extend_below (n := n) { s with rest := s.rest.drop 1 } 1
  have hbelow : ({ s.below n with rest := (s.below n).rest.drop 1 } : State) =
    ({ s with rest := s.rest.drop 1 } : State).below n := rfl
  rw [hbelow, hextend]
  cases ({ s with rest := s.rest.drop 1 } : State).extend 1 <;> rfl

/-- A token comes to the same further down. -/
theorem TokenAt.below {token : State → Except Violation State} (htoken : TokenAt b token)
    (s : State) (n : Nat) : token (s.below n) = outcomeBelow n (token s) := by
  have hnext : s.line + n + 1 = s.line + 1 + n := Nat.add_right_comm ..
  cases htoken with
  | lineEnd =>
      simp only [State.lineEnd, outcomeBelow, below_ite]
      simp only [State.below, hnext]
  | continuation =>
      simp only [State.continuation, outcomeBelow, below_ite]
      simp only [State.below, hnext]
      rfl
  | comment => rfl
  | string => exact string_below s false
  | number => rfl
  | openBracket => exact openBracket_below s
  | closeBracket =>
      simp only [State.closeBracket, State.below, outcomeBelow]
      cases s.enclosing <;> rfl
  | separator => rfl
  | colon =>
      simp only [State.colon, outcomeBelow_ite, ← extend_below]
      rfl
  | word =>
      simp only [State.word, outcomeBelow_ite, ← extend_below, ← string_below]
      rfl
  | operator =>
      simp only [State.operator, outcomeBelow_ite, ← extend_below]
      rfl
  | other => rfl

/-- At a line start the indentation is measured, whatever byte is ahead. -/
theorem step_lineStart (hstart : s.lineStart = true) (b : UInt8) : s.step b = s.indentation :=
  if_pos hstart

/-- **A step comes to the same further down.** -/
theorem step_below (s : State) (b : UInt8) (n : Nat) :
    (s.below n).step b = outcomeBelow n (s.step b) := by
  cases hstart : s.lineStart with
  | true =>
      rw [step_lineStart hstart, step_lineStart (show (s.below n).lineStart = true from hstart),
        indentation_eq, indentation_eq, outcomeBelow_ite, outcomeBelow_ite]
      rfl
  | false =>
      rw [step_eq_token hstart, step_eq_token (show (s.below n).lineStart = false from hstart)]
      exact (tokenAt_cases b _).below s n

/-- **A scan comes to the same further down**, but for the line of a violation. -/
theorem verdict_below (s : State) (n : Nat) :
    (s.below n).verdict = s.verdict.map (·.below n) := by
  induction hleft : s.left using Nat.strong_induction_on generalizing s with
  | _ left ih =>
      cases hrest : s.rest with
      | nil =>
          rw [verdict_done hrest, verdict_done (show (s.below n).rest = [] from hrest)]
          rfl
      | cons b bytes =>
          have hbelow : (s.below n).rest = b :: bytes := hrest
          have houtcome := step_below s b n
          cases hstep : s.step b with
          | error v =>
              rw [hstep] at houtcome
              rw [verdict_violation hrest hstep, verdict_violation hbelow houtcome]
              rfl
          | ok s' =>
              have hless := (step_moves hrest hstep).left_lt
              rw [hstep] at houtcome
              rw [verdict_step hrest hstep, verdict_step hbelow houtcome]
              exact ih s'.left (hleft ▸ hless) s' rfl

/-! ## Open blocks -/

/-- The widths of open blocks: **only the outermost block is not indented**. -/
def AreBlocks (indents : List Nat) : Prop :=
  ∃ inner, indents = inner ++ [0] ∧ ∀ width ∈ inner, 0 < width

/-- At the beginning there is the outermost block only. -/
theorem areBlocks_outermost : AreBlocks [0] := ⟨[], rfl, nofun⟩

/-- The blocks that stay open when some are closed are blocks. -/
theorem AreBlocks.dropWhile {indents : List Nat} (h : AreBlocks indents) (width : Nat) :
    AreBlocks (indents.dropWhile (· > width)) := by
  obtain ⟨inner, rfl, hinner⟩ := h
  refine ⟨inner.dropWhile (· > width), ?_, fun w hw => ?_⟩
  · rw [List.dropWhile_append]
    split_ifs with hempty
    · rw [List.isEmpty_iff.mp hempty]
      rfl
    · rfl
  · exact hinner w ((List.dropWhile_suffix _).mem hw)

/-- The blocks after a line was measured are blocks. -/
theorem AreBlocks.measured {indents : List Nat} (h : AreBlocks indents) (width : Nat) :
    AreBlocks (measured width indents) := by
  obtain ⟨inner, hinner, hpos⟩ := h.dropWhile width
  rw [Nesting.measured, hinner]
  split_ifs with hless
  · have hwidth : 0 < width := by
      cases inner with
      | nil => simpa using hless
      | cons w inner =>
          have hless : w < width := by simpa using hless
          omega
    refine ⟨width :: inner, rfl, fun w hw => ?_⟩
    rcases List.mem_cons.mp hw with rfl | hw
    · exact hwidth
    · exact hpos w hw
  · exact ⟨inner, rfl, hpos⟩

/-- A line that is not indented closes all blocks but the outermost. -/
theorem AreBlocks.measured_zero {indents : List Nat} (h : AreBlocks indents) :
    Nesting.measured 0 indents = [0] := by
  obtain ⟨inner, rfl, hpos⟩ := h
  have hdrop : (inner ++ [0]).dropWhile (· > 0) = [0] :=
    List.dropWhile_append_of_pos fun w hw => by simpa using hpos w hw
  rw [Nesting.measured, hdrop]
  rfl

/-- A step leaves the open blocks, or measures a width. -/
theorem step_indents (hrest : s.rest = b :: bytes) (hstep : s.step b = .ok s') :
    s'.indents = s.indents ∨ ∃ width, s'.indents = measured width s.indents := by
  cases step_moves hrest hstep with
  | indentation _ h =>
      rw [indentation_eq] at h
      split_ifs at h with hempty hdeep
      · cases h
        exact Or.inl rfl
      · cases h
        exact Or.inr ⟨_, rfl⟩
  | lineEnd _ _ =>
      simp only [State.lineEnd]
      split_ifs <;> exact Or.inl rfl
  | skip _ => exact Or.inl rfl
  | reset _ => exact Or.inl rfl
  | extend _ h =>
      obtain ⟨rfl, -⟩ := extend_ok h
      exact Or.inl rfl
  | openBracket _ h =>
      obtain ⟨rfl, -⟩ := openBracket_ok h
      exact Or.inl rfl
  | closeBracket _ =>
      simp only [State.closeBracket]
      cases s.enclosing <;> exact Or.inl rfl

/-- The blocks of a reached state are blocks. -/
theorem Reached.areBlocks (hs : Reached bytes s) : AreBlocks s.indents := by
  induction hs with
  | start => exact areBlocks_outermost
  | step _ hrest hstep ih =>
      obtain h | ⟨width, h⟩ := step_indents hrest hstep <;> rw [h]
      · exact ih
      · exact ih.measured width

/-! ## Line starts -/

/-- **The state at the start of a logical line**: outside of brackets, and with no chain. -/
def State.freshLine (bytes : List UInt8) (line : Nat) (indents : List Nat) : State :=
  ⟨bytes, line, [], 0, 0, indents, true⟩

/-- Only a line feed outside of brackets begins a logical line. -/
theorem lineFeed_of_lineStart (hrest : s.rest = b :: bytes) (hstep : s.step b = .ok s')
    (hstart : s'.lineStart = true) :
    b = lineFeed ∧ s.lineStart = false ∧ s.enclosing = [] ∧ s'.rest = bytes := by
  have hwithin : s.lineStart = false := by
    by_contra h
    rw [Bool.not_eq_false] at h
    rw [step_lineStart h] at hstep
    obtain ⟨rest, indents, rfl, -⟩ := indentation_ok hstep
    cases hstart
  have hfalse : s'.lineStart ≠ s.lineStart := by simp [hstart, hwithin]
  have hread := step_reads hrest hstep
  cases step_moves hrest hstep with
  | indentation h _ => simp [h] at hwithin
  | lineEnd _ _ =>
      obtain ⟨read, htext, hlines, -⟩ := hread
      have hrest' : s.lineEnd.rest = bytes := by
        simp only [State.lineEnd, hrest]
        split_ifs <;> rfl
      have hline : s.lineEnd.line = s.line + 1 := by
        simp only [State.lineEnd]
        split_ifs <;> rfl
      obtain rfl : read = [b] := by
        rw [hrest, hrest'] at htext
        exact (List.append_cancel_right (htext : [b] ++ bytes = read ++ bytes)).symm
      refine ⟨?_, hwithin, ?_, hrest'⟩
      · by_contra hb
        rw [hline, List.count_singleton, if_neg (by simpa using hb)] at hlines
        omega
      · by_contra hopen
        refine hfalse ?_
        simp only [State.lineEnd]
        rw [if_neg (by simpa using hopen)]
  | skip _ => exact absurd rfl hfalse
  | reset _ => exact absurd rfl hfalse
  | extend _ h =>
      obtain ⟨rfl, -⟩ := extend_ok h
      exact absurd rfl hfalse
  | openBracket _ h =>
      obtain ⟨rfl, -⟩ := openBracket_ok h
      exact absurd rfl hfalse
  | closeBracket _ =>
      refine absurd ?_ hfalse
      simp only [State.closeBracket]
      cases s.enclosing <;> rfl

/-- **The text ends with a statement**: the scan accepts it and comes to its end at the start of a
logical line, so outside of strings and brackets and behind a line feed. -/
def EndsStatement (text : List UInt8) : Prop :=
  ∃ s, Reached text s ∧ s.rest = [] ∧ s.lineStart = true

variable {text other : List UInt8}

/-- A text that ends with a statement ends with a line feed. -/
theorem EndsStatement.lineFeed_last (h : EndsStatement text) :
    text = [] ∨ ∃ front, text = front ++ [lineFeed] := by
  obtain ⟨s, hs, hend, hstart⟩ := h
  cases hs with
  | start => exact Or.inl hend
  | @step s₀ _ b rest hs₀ hrest hstep =>
      obtain ⟨rfl, -, -, rfl⟩ := lineFeed_of_lineStart hrest hstep hstart
      obtain ⟨read, htext, -⟩ := hs₀.exists_read
      exact Or.inr ⟨read, by rw [htext, hrest, hend]⟩

/-- **Behind a statement the scan stands at the start of a logical line**, whatever follows. -/
theorem EndsStatement.reached (h : EndsStatement text) (other : List UInt8) :
    ∃ indents, AreBlocks indents ∧
      Reached (text ++ other) (.freshLine other (1 + text.count lineFeed) indents) := by
  obtain ⟨s, hs, hend, hstart⟩ := h
  cases hs with
  | start =>
      have htext : text = [] := hend
      subst htext
      exact ⟨[0], areBlocks_outermost, .start⟩
  | @step s₀ _ b rest hs₀ hrest hstep =>
      obtain ⟨rfl, hwithin, henclosing, rfl⟩ := lineFeed_of_lineStart hrest hstep hstart
      rw [hend] at hrest
      obtain ⟨read, htext, hline, hagain⟩ := hs₀.exists_read
      have hsum : s₀.enclosingSum = 0 := by rw [hs₀.withinLimits.sum, henclosing]; rfl
      have hcount : 1 + text.count lineFeed = s₀.line + 1 := by
        rw [htext, hline, hrest, List.count_append, ← Nat.add_assoc]
        rfl
      have hnext := hagain (lineFeed :: other) (by rw [hrest]; rfl)
      have hempty : s₀.enclosing.isEmpty = true := by rw [henclosing]; rfl
      have hstep : ({ s₀ with rest := lineFeed :: other } : State).step lineFeed =
          .ok (.freshLine other (1 + text.count lineFeed) s₀.indents) := by
        rw [step_eq_token (s := { s₀ with rest := lineFeed :: other }) hwithin]
        refine congrArg Except.ok ((if_pos hempty).trans ?_)
        simp only [State.freshLine, hcount, henclosing, hsum, List.drop_succ_cons, List.drop_zero]
      have hafter : text ++ other = read ++ lineFeed :: other := by
        rw [htext, hrest, List.append_assoc]
        rfl
      exact ⟨s₀.indents, hs₀.areBlocks, hafter ▸ hnext.step rfl hstep⟩

/-! ## Lines that are blank -/

/-- Can the byte stand in a blank line? -/
def isBlankByte (b : UInt8) : Bool := isIndent b || b == byte '\r'

/-- Is there nothing in the line, or only a comment? -/
def isBlankLine (line : List UInt8) : Bool :=
  ((line.dropWhile isBlankByte).head?).all (· == byte '#')

/-- **The first line that is not blank is not indented**, if there is one. -/
def IsFlush (text : List UInt8) : Prop :=
  ∀ line ∈ (text.splitOn lineFeed).find? (!isBlankLine ·), ∀ b ∈ line.head?,
    isBlankByte b = false

instance : DecidablePred IsFlush := fun text =>
  inferInstanceAs (Decidable (∀ line ∈ (text.splitOn lineFeed).find? (!isBlankLine ·),
    ∀ b ∈ line.head?, isBlankByte b = false))

/-- A blank line goes on blank or with a comment. -/
theorem isBlankLine_cons {line : List UInt8} (h : isBlankLine (b :: line) = true) :
    isBlankByte b = true ∧ isBlankLine line = true ∨ b = byte '#' := by
  rw [isBlankLine, List.dropWhile_cons] at h
  cases hb : isBlankByte b with
  | true =>
      rw [hb, if_pos rfl] at h
      exact Or.inl ⟨rfl, h⟩
  | false =>
      rw [hb, if_neg Bool.false_ne_true] at h
      exact Or.inr (by simpa using h)

/-- A blank byte within a line is skipped. -/
theorem tokenAt_blank (hb : isBlankByte b = true) (ahead : Option UInt8) :
    tokenAt b ahead = fun s => .ok { s with rest := s.rest.drop 1 } := by
  simp only [isBlankByte, isIndent, Bool.or_eq_true, beq_iff_eq] at hb
  rcases hb with ((rfl | rfl) | rfl) | rfl <;> rfl

/-- What is left of a blank line is skipped. -/
theorem verdict_blank {line : List UInt8} (hline : lineFeed ∉ line)
    (hblank : isBlankLine line = true) (hend : IsLineEnd rest) :
    ∀ s : State, s.rest = line ++ rest → s.lineStart = false →
      s.verdict = ({ s with rest } : State).verdict := by
  induction line with
  | nil =>
      intro s hrest hstart
      rw [← show s.rest = rest from hrest]
  | cons b line ih =>
      intro s hrest hstart
      simp only [List.mem_cons, not_or] at hline
      rcases isBlankLine_cons hblank with ⟨hb, hblank⟩ | rfl
      · have hstep : s.step b = .ok { s with rest := line ++ rest } := by
          simp only [step_eq_token hstart, tokenAt_blank hb, hrest, List.cons_append,
            List.drop_succ_cons, List.drop_zero]
        rw [verdict_step hrest hstep]
        exact ih hline.2 hblank _ rfl hstart
      · rw [verdict_comment hrest hline.2 hend, hstart]

/-- A blank line is blank without its indentation. -/
theorem isBlankLine_dropWhile {line : List UInt8} (h : isBlankLine line = true) :
    isBlankLine (line.dropWhile isIndent) = true := by
  induction line with
  | nil => rfl
  | cons b line ih =>
      rw [List.dropWhile_cons]
      split_ifs with hindent
      · rcases isBlankLine_cons h with ⟨-, h⟩ | rfl
        · exact ih h
        · exact absurd hindent (by decide)
      · exact h

/-- The indentation of a blank line is skipped, and nothing is measured behind it. -/
theorem indentation_blank {line : List UInt8} (hblank : isBlankLine line = true)
    (hend : IsLineEnd rest) (hrest : s.rest = line ++ rest) :
    s.indentation =
      .ok { s with rest := line.dropWhile isIndent ++ rest, lineStart := false } := by
  have hdrop : s.rest.dropWhile isIndent = line.dropWhile isIndent ++ rest := by
    have hstop : rest.dropWhile isIndent = rest := by
      cases rest with
      | nil => rfl
      | cons b rest => rw [hend b rfl, List.dropWhile_cons_of_neg (by decide)]
    rw [hrest, List.dropWhile_append]
    split_ifs with hempty
    · rw [List.isEmpty_iff.mp hempty, hstop, List.nil_append]
    · rfl
  have hnothing : ((line.dropWhile isIndent ++ rest).head?).all isLineRest = true := by
    have hbehind := isBlankLine_dropWhile hblank
    have hstop := List.head?_dropWhile_not isIndent line
    cases hcase : line.dropWhile isIndent with
    | nil =>
        cases rest with
        | nil => rfl
        | cons b rest => rw [hend b rfl]; rfl
    | cons b behind =>
        rw [hcase] at hstop hbehind
        have hindent : isIndent b = false := by simpa using hstop
        rcases isBlankLine_cons hbehind with ⟨hb, -⟩ | rfl
        · have hreturn : (b == byte '\r') = true := by simpa [isBlankByte, hindent] using hb
          simp [isLineRest, hreturn]
        · rfl
  rw [indentation_eq, hdrop, if_pos hnothing]

/-- **A blank line is skipped** up to its end, and opens and closes no block. -/
theorem verdict_blankLine {line : List UInt8} (hline : lineFeed ∉ line)
    (hblank : isBlankLine line = true) (hend : IsLineEnd rest) (s : State)
    (hrest : s.rest = line ++ rest) (hstart : s.lineStart = true) :
    s.verdict = ({ s with rest, lineStart := false } : State).verdict := by
  cases hcase : s.rest with
  | nil =>
      have hnil : rest = [] := (List.append_eq_nil_iff.mp (hrest.symm.trans hcase)).2
      rw [verdict_done hcase, verdict_done (by exact hnil)]
  | cons b bytes =>
      have hstep : s.step b =
          .ok { s with rest := line.dropWhile isIndent ++ rest, lineStart := false } := by
        rw [step_lineStart hstart, indentation_blank hblank hend hrest]
      have hwithin : lineFeed ∉ line.dropWhile isIndent := fun hmem =>
        hline ((List.dropWhile_suffix _).mem hmem)
      rw [verdict_step hcase hstep]
      exact verdict_blank hwithin (isBlankLine_dropWhile hblank) hend _ rfl rfl

/-- **A line that is not indented is scanned alike** whatever blocks are open. -/
theorem verdict_notIndented {indents : List Nat} (hblocks : AreBlocks indents) (line : Nat)
    (hb : isIndent b = false) (hrest : isLineRest b = false) :
    (State.freshLine (b :: bytes) line indents).verdict =
      (State.freshLine (b :: bytes) line [0]).verdict := by
  have hstep : ∀ {indents : List Nat}, AreBlocks indents →
      (State.freshLine (b :: bytes) line indents).step b =
        .ok ⟨b :: bytes, line, [], 0, 0, [0], false⟩ := by
    intro indents hblocks
    have hwidth : (b :: bytes).takeWhile isIndent = [] := List.takeWhile_cons_of_neg (by simp [hb])
    have hbehind : (b :: bytes).dropWhile isIndent = b :: bytes :=
      List.dropWhile_cons_of_neg (by simp [hb])
    rw [step_lineStart rfl, indentation_eq]
    simp only [State.freshLine, hwidth, hbehind, List.head?_cons, Option.all_some, hrest,
      List.length_nil, hblocks.measured_zero]
    rfl
  rw [verdict_step rfl (hstep hblocks), verdict_step rfl (hstep areBlocks_outermost)]

/-- A text that is not indented begins with its first line that is not blank, unless a blank line
comes first. -/
theorem IsFlush.not_indented {line : List UInt8} (h : IsFlush (line ++ rest))
    (hline : lineFeed ∉ line) (hend : IsLineEnd rest) (hblank : isBlankLine line = false) :
    ∃ b bytes, line = b :: bytes ∧ isIndent b = false ∧ isLineRest b = false := by
  have hsplit : ∃ lines, (line ++ rest).splitOn lineFeed = line :: lines := by
    cases rest with
    | nil => exact ⟨[], by rw [List.append_nil, List.splitOn_eq_singleton hline]⟩
    | cons b rest =>
        rw [hend b rfl]
        exact ⟨_, List.splitOn_append_cons_self_of_not_mem hline rest⟩
  obtain ⟨lines, hsplit⟩ := hsplit
  have hfirst := h line (by rw [hsplit, List.find?_cons_of_pos (by simp [hblank]), Option.mem_def])
  cases line with
  | nil => cases hblank
  | cons b bytes =>
      have hb : isBlankByte b = false := hfirst b rfl
      have hcomment : (b == byte '#') = false := by
        rw [isBlankLine, List.dropWhile_cons_of_neg (by simp [hb])] at hblank
        simpa using hblank
      have hfeed : (b == lineFeed) = false := by
        simp only [List.mem_cons, not_or] at hline
        simpa using Ne.symm hline.1
      simp only [isBlankByte, Bool.or_eq_false_iff] at hb
      exact ⟨b, bytes, rfl, hb.1, by simp [isLineRest, hb.2, hcomment, hfeed]⟩

/-- **Blocks that are open do not matter to a text that is not indented.** -/
theorem verdict_flush {indents : List Nat} (hblocks : AreBlocks indents) (hflush : IsFlush text) :
    ∀ line, (State.freshLine text line indents).verdict =
      (State.freshLine text line [0]).verdict := by
  induction hlength : text.length using Nat.strong_induction_on generalizing text with
  | _ length ih =>
  intro line
  obtain ⟨front, rest, rfl, hfront, hend⟩ :
      ∃ front rest, text = front ++ rest ∧ lineFeed ∉ front ∧ IsLineEnd rest := by
    refine ⟨text.takeWhile (· != lineFeed), text.dropWhile (· != lineFeed),
      (List.takeWhile_append_dropWhile ..).symm, fun hmem => ?_, fun b hb => ?_⟩
    · exact absurd (List.mem_takeWhile_imp hmem) (by simp)
    · have hstop := List.head?_dropWhile_not (· != lineFeed) text
      rw [hb] at hstop
      simpa using hstop
  cases hblank : isBlankLine front with
  | false =>
      obtain ⟨b, bytes, rfl, hb, hrest⟩ := hflush.not_indented hfront hend hblank
      exact verdict_notIndented hblocks line hb hrest
  | true =>
      have hskip : ∀ indents, (State.freshLine (front ++ rest) line indents).verdict =
          (⟨rest, line, [], 0, 0, indents, false⟩ : State).verdict := fun indents =>
        verdict_blankLine hfront hblank hend (.freshLine (front ++ rest) line indents) rfl rfl
      rw [hskip, hskip]
      cases rest with
      | nil => rw [verdict_done rfl, verdict_done rfl]
      | cons b rest =>
          obtain rfl : b = lineFeed := hend b rfl
          have hstep : ∀ indents,
              (⟨lineFeed :: rest, line, [], 0, 0, indents, false⟩ : State).step lineFeed =
                .ok (.freshLine rest (line + 1) indents) := fun _ => rfl
          have hbelow : IsFlush rest := by
            intro first hfirst
            refine hflush first ?_
            rw [List.splitOn_append_cons_self_of_not_mem hfront,
              List.find?_cons_of_neg (by simp [hblank])]
            exact hfirst
          rw [verdict_step rfl (hstep indents), verdict_step rfl (hstep [0])]
          refine ih rest.length ?_ hbelow rfl (line + 1)
          rw [← hlength, List.length_append, List.length_cons]
          omega

/-- **A text behind a finished statement is scanned as if it stood alone.** -/
theorem EndsStatement.check_append (h : EndsStatement text) (hflush : IsFlush other) :
    Nesting.check (text ++ other) = (Nesting.check other).map (·.below (text.count lineFeed)) := by
  obtain ⟨indents, hblocks, hreached⟩ := h.reached other
  have hbelow : State.freshLine other (1 + text.count lineFeed) [0] =
      (State.start other).below (text.count lineFeed) := rfl
  rw [hreached.check_eq_verdict, verdict_flush hblocks hflush, hbelow, verdict_below,
    Reached.start.check_eq_verdict]

/-- A flush text may follow a statement that has ended. -/
theorem IsFlush.append (hends : EndsStatement text) (htext : IsFlush text)
    (hother : IsFlush other) : IsFlush (text ++ other) := by
  obtain rfl | ⟨front, rfl⟩ := hends.lineFeed_last
  · exact hother
  · intro line hline
    have hsplit : (front ++ [lineFeed] ++ other).splitOn lineFeed =
        front.splitOn lineFeed ++ other.splitOn lineFeed := by
      rw [List.append_assoc]
      exact List.splitOn_append_cons_self front other
    rw [hsplit, List.find?_append, Option.mem_def, Option.or_eq_some_iff] at hline
    rcases hline with hline | ⟨-, hline⟩
    · refine htext line ?_
      rw [List.splitOn_append_cons_self, List.find?_append, hline]
      exact rfl
    · exact hother line hline

/-- Statements in a row that are not indented are a text that is not indented, and pass. -/
theorem flatten_passes {texts : List (List UInt8)}
    (htexts : ∀ text ∈ texts, EndsStatement text ∧ IsFlush text) :
    IsFlush texts.flatten ∧ Nesting.check texts.flatten = none := by
  induction texts with
  | nil => exact ⟨by decide, rfl⟩
  | cons text texts ih =>
      obtain ⟨hends, hflush⟩ := htexts text List.mem_cons_self
      obtain ⟨hrest, hpasses⟩ := ih fun text htext => htexts text (List.mem_cons_of_mem _ htext)
      refine ⟨hflush.append hends hrest, ?_⟩
      rw [List.flatten_cons, hends.check_append hrest, hpasses]
      rfl

/-- **The scan goes statement by statement.**  Behind a text that ends with a statement, one that is
not indented gets the verdict that it gets alone, with its line counted on.  So statements in a
row pass, if each of them passes and none but the first is indented: siblings never add up. -/
theorem statements_scanned_alone :
    (∀ text other, EndsStatement text → IsFlush other →
      Nesting.check (text ++ other) =
        (Nesting.check other).map (·.below (text.count lineFeed))) ∧
    ∀ texts : List (List UInt8), (∀ text ∈ texts, EndsStatement text) →
      (∀ text ∈ texts.tail, IsFlush text) → Nesting.check texts.flatten = none := by
  refine ⟨fun text other hends hflush => hends.check_append hflush, ?_⟩
  intro texts hends hflush
  cases texts with
  | nil => rfl
  | cons text texts =>
      obtain ⟨hrest, hpasses⟩ := flatten_passes fun text htext =>
        ⟨hends text (List.mem_cons_of_mem _ htext), hflush text htext⟩
      rw [List.flatten_cons, (hends text List.mem_cons_self).check_append hrest, hpasses]
      rfl

/-- A statement with a block of its own. -/
def blockStatement : List UInt8 := bytesOf "if x:\n\tf(\n1)\n"

/-- A blank line, a comment, and below them a line that nests too deep. -/
def signsFurtherDown : List UInt8 :=
  bytesOf " \r\n\t# (\n" ++ List.replicate 401 (byte '-')

/-- Further down the same signs are refused, with the line counted on. -/
theorem signs_counted_on :
    EndsStatement blockStatement ∧ IsFlush signsFurtherDown ∧ IsFlush blockStatement ∧
      EndsStatement (bytesOf " y\n") ∧
      Nesting.check (blockStatement ++ signsFurtherDown) = some ⟨.depth, 6⟩ ∧
      Nesting.check [bytesOf " y\n", blockStatement, blockStatement].flatten = none := by
  have hblock : EndsStatement blockStatement :=
    ⟨⟨[], 4, [], 0, 0, [1, 0], true⟩, Reached.start.run (n := 14) (by decide +kernel), rfl, rfl⟩
  have hindented : EndsStatement (bytesOf " y\n") :=
    ⟨⟨[], 2, [], 0, 0, [1, 0], true⟩, Reached.start.run (n := 4) (by decide +kernel), rfl, rfl⟩
  have hsigns : IsFlush signsFurtherDown := by decide +kernel
  have hflush : IsFlush blockStatement := by decide +kernel
  refine ⟨hblock, hsigns, hflush, hindented, ?_, ?_⟩
  · rw [statements_scanned_alone.1 _ _ hblock hsigns]
    decide +kernel
  · refine statements_scanned_alone.2 _ ?_ ?_
    · simp only [List.forall_mem_cons]
      exact ⟨hindented, hblock, hblock, nofun⟩
    · simp only [List.tail_cons, List.forall_mem_cons]
      exact ⟨hflush, hflush, nofun⟩

end SceneRender.Script.Nesting
