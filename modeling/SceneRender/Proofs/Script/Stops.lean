import SceneRender.Proofs.Script.Positions

/-!
# Where the scan stops

A scan by position passes through states that are sound and within the limits, with blocks that
lie in each other (`Scanner.Reached.kept`), and each step leaves less of the text.  So it comes to
the end of the text or to a violation (`Scanner.exists_stop`), and to no other break on the way.

The violation names the line of the position at which the scan stops.  The index of the text gives
that position the same line: one more than the line feeds in front of it.
-/

namespace SceneRender.Script.Nesting

/-- Measuring a width keeps each open block within the blocks around it. -/
theorem measured_pairwise {indents : List Nat} (h : indents.Pairwise (· > ·)) (width : Nat) :
    (measured width indents).Pairwise (· > ·) := by
  have houter : (indents.dropWhile (· > width)).Pairwise (· > ·) :=
    h.sublist (List.dropWhile_suffix _).sublist
  rw [measured]
  split_ifs with hless
  · refine List.pairwise_cons.mpr ⟨fun w hw => ?_, houter⟩
    generalize indents.dropWhile (· > width) = outer at *
    cases outer with
    | nil => cases hw
    | cons top outer =>
        have htop : top < width := by simpa using hless
        rcases List.mem_cons.mp hw with rfl | hw
        · exact htop
        · exact Nat.lt_trans ((List.pairwise_cons.mp houter).1 w hw) htop
  · exact houter

namespace Scanner

variable {bytes : List UInt8} {b : UInt8} {v : Violation} {pos : Nat} {c c' : Scanner}

/-! ## Steps in step -/

namespace Agrees

variable {r : Except Break Scanner} {r' : Except Violation State} {s : State}

/-- A success of the scanner is one of the scan, with the same state. -/
theorem of_ok (h : Agrees bytes r r') (hr : r = .ok c) : c.Sound bytes ∧ r' = .ok c.state := by
  cases h with
  | ok hc =>
      cases hr
      exact ⟨hc, rfl⟩
  | refused hline => cases hr

/-- A violation of the scanner is one of the scan, with the line of its place. -/
theorem of_violation (h : Agrees bytes r r') (hr : r = .error (.violation v pos)) :
    r' = .error v ∧ v.line = lineAt bytes pos := by
  cases h with
  | ok hc => cases hr
  | refused hline =>
      cases hr
      exact ⟨rfl, hline⟩

/-- Where both agree there is no trap. -/
theorem ne_trap (h : Agrees bytes r r') (t : Trap) : r ≠ .error (.trap t) := by
  rintro rfl
  cases h

/-- A success of the scan is one of the scanner. -/
theorem exists_ok (h : Agrees bytes r r') (hr : r' = .ok s) : ∃ c, r = .ok c ∧ c.state = s := by
  cases h with
  | ok hc =>
      cases hr
      exact ⟨_, rfl, rfl⟩
  | refused hline => cases hr

/-- A violation of the scan is one of the scanner. -/
theorem exists_violation (h : Agrees bytes r r') (hr : r' = .error v) :
    ∃ pos, r = .error (.violation v pos) := by
  cases h with
  | ok hc => cases hr
  | refused hline =>
      cases hr
      exact ⟨_, rfl⟩

end Agrees

/-- The states that a scan by position passes through. -/
inductive Reached (bytes : List UInt8) : Scanner → Prop
  | start : Reached bytes (.start bytes)
  | step {c c' : Scanner} {b : UInt8} (hc : Reached bytes c) (hb : c.peek 0 = some b)
      (hstep : c.step b = .ok c') : Reached bytes c'

/-- The scan stops at a position with a violation. -/
def StopsAt (bytes : List UInt8) (v : Violation) (pos : Nat) : Prop :=
  ∃ c b, Reached bytes c ∧ c.peek 0 = some b ∧ c.step b = .error (.violation v pos)

/-- Every state it passes through is sound, and the scan of the bytes ahead passes through it. -/
theorem Reached.sound (hc : Reached bytes c) :
    c.Sound bytes ∧ Nesting.Reached bytes c.state := by
  induction hc with
  | start => exact ⟨⟨rfl, rfl, Nat.zero_le _⟩, .start⟩
  | step _ hb hstep ih =>
      -- the limits are known of the scan of the bytes ahead, which has come just as far
      obtain ⟨hsound, hreached⟩ := ih
      have hagrees := step_agrees hsound hreached.withinLimits.sum hb
      obtain ⟨hsound', hstep'⟩ := hagrees.of_ok hstep
      exact ⟨hsound', hreached.step (rest_eq_cons hb) hstep'⟩

/-- A step from a reached scanner agrees with that of the scan. -/
theorem Reached.step_agrees (hc : Reached bytes c) (hb : c.peek 0 = some b) :
    Agrees bytes (c.step b) (c.state.step b) :=
  Scanner.step_agrees hc.sound.1 hc.sound.2.withinLimits.sum hb

/-- **The two scans pass through the same states.** -/
theorem reached_iff {s : State} :
    Nesting.Reached bytes s ↔ ∃ c, Reached bytes c ∧ c.state = s := by
  constructor
  · intro hs
    induction hs with
    | start => exact ⟨.start bytes, .start, rfl⟩
    | @step s s' b rest _ hrest hstep ih =>
        obtain ⟨c, hc, rfl⟩ := ih
        have hb := peek_of_rest hrest
        obtain ⟨c', hstep', hstate⟩ := (hc.step_agrees hb).exists_ok hstep
        exact ⟨c', hc.step hb hstep', hstate⟩
  · rintro ⟨c, hc, rfl⟩
    exact hc.sound.2

/-- What one step by position refuses, the scan refuses. -/
theorem StopsAt.check_eq_some (h : StopsAt bytes v pos) : Nesting.check bytes = some v := by
  obtain ⟨c, b, hc, hb, hstep⟩ := h
  have hrefused := ((hc.step_agrees hb).of_violation hstep).1
  exact hc.sound.2.check_eq_some (rest_eq_cons hb) hrefused

/-- **The scan comes to the end of the text, or stops with a violation.** -/
theorem exists_stop (bytes : List UInt8) :
    (∃ c, Reached bytes c ∧ c.peek 0 = none ∧ Nesting.check bytes = none) ∨
      ∃ v pos, StopsAt bytes v pos ∧ Nesting.check bytes = some v := by
  have hstart : Nesting.Reached bytes (.start bytes) := .start
  obtain ⟨s, hs, hstop⟩ := hstart.exists_stop
  obtain ⟨c, hc, rfl⟩ := reached_iff.mp hs
  rcases hstop with hend | ⟨b, rest, v, hrest, hstep⟩
  · refine Or.inl ⟨c, hc, ?_, check_eq_none_iff.mpr ⟨c.state, hs, hend⟩⟩
    rw [← head?_rest, hend]
    rfl
  · have hb := peek_of_rest hrest
    obtain ⟨pos, hstep'⟩ := (hc.step_agrees hb).exists_violation hstep
    have hstops : StopsAt bytes v pos := ⟨c, b, hc, hb, hstep'⟩
    exact Or.inr ⟨v, pos, hstops, hstops.check_eq_some⟩

/-! ## What every state keeps to -/

/-- What is left to scan: each byte twice, and a line start. -/
def left (c : Scanner) : Nat := 2 * (c.bytes.length - c.pos) + if c.lineStart then 1 else 0

/-- Scanner and scan have the same left to do. -/
theorem left_state (c : Scanner) : c.state.left = c.left := by
  rw [State.left, state_rest, List.length_drop]
  rfl

/-- **What a state of the scan keeps to.**  The widths of the open blocks stand innermost first. -/
structure Kept (bytes : List UInt8) (c : Scanner) : Prop extends Sound bytes c where
  within : c.state.WithinLimits
  outermost : c.indents.getLast? = some 0
  widths : c.indents.Pairwise (· > ·)

/-- The widths of open blocks grow from each block to the blocks in it. -/
theorem reached_widths {s : State} (hs : Nesting.Reached bytes s) :
    s.indents.Pairwise (· > ·) := by
  induction hs with
  | start => exact List.pairwise_singleton _ _
  | step _ hrest hstep ih =>
      obtain h | ⟨width, h⟩ := step_indents hrest hstep <;> rw [h]
      · exact ih
      · exact measured_pairwise ih width

/-- A reached scanner has kept everything. -/
theorem Reached.kept (hc : Reached bytes c) : c.Kept bytes := by
  obtain ⟨hsound, hreached⟩ := hc.sound
  obtain ⟨inner, hinner, -⟩ := hreached.areBlocks
  have houtermost : c.indents.getLast? = some 0 := by
    rw [show c.indents = inner ++ [0] from hinner, List.getLast?_concat]
  exact ⟨hsound, hreached.withinLimits, houtermost, reached_widths hreached⟩

/-- A bracket that closes none is gone on over. -/
theorem step_unbalanced (hb : isCloser b = true) (hline : c.lineStart = false)
    (hnone : c.enclosing = []) : c.step b = .ok (c.advance 1) := by
  have hclose : c.closeBracket = .ok (c.advance 1) := by
    simp only [closeBracket, advance, hnone]
  rw [step, hline, ← hclose]
  simp only [isCloser, Bool.or_eq_true, beq_iff_eq] at hb
  rcases hb with (rfl | rfl) | rfl <;> rfl

/-- **A scan by position runs to its stop.**  It passes through the states of the scan, and each
of them keeps to what it should.  No step is trapped, each leaves less of the text, and a closing
bracket without an open one changes nothing.  At last it comes to the end of a text that passes,
or to the violation that the scan reports. -/
theorem runs_untrapped_to_stop (bytes : List UInt8) :
    (∀ s, Nesting.Reached bytes s ↔ ∃ c, Reached bytes c ∧ c.state = s) ∧
    (∀ c, Reached bytes c → c.Kept bytes ∧ ∀ b, c.peek 0 = some b →
      (∀ t, c.step b ≠ .error (.trap t)) ∧
      (∀ c', c.step b = .ok c' → c'.left < c.left) ∧
      (isCloser b = true → c.lineStart = false → c.enclosing = [] →
        c.step b = .ok (c.advance 1))) ∧
    ((∃ c, Reached bytes c ∧ c.peek 0 = none ∧ Nesting.check bytes = none) ∨
      ∃ v pos, StopsAt bytes v pos ∧ Nesting.check bytes = some v) := by
  refine ⟨fun s => reached_iff, fun c hc => ⟨hc.kept, fun b hb => ?_⟩, exists_stop bytes⟩
  have hagrees := hc.step_agrees hb
  refine ⟨hagrees.ne_trap, fun c' hstep => ?_, step_unbalanced⟩
  have hless := (step_moves (rest_eq_cons hb) (hagrees.of_ok hstep).2).left_lt
  rwa [left_state, left_state] at hless

/-! ## The line of a violation -/

/-- **A violation is on the line at which the scan stops**, and that is the line the index of the
text has for the position.  Both count the line feeds in front of it. -/
theorem stops_on_line_of_index :
    (∀ bytes v, Nesting.check bytes = some v ↔ ∃ pos, StopsAt bytes v pos) ∧
    (∀ bytes v pos, StopsAt bytes v pos → v.line = 1 + (bytes.take pos).count lineFeed) ∧
    ∀ bytes offset,
      (LineIndex.ofBytes bytes).lineOf offset = 1 + (bytes.take offset).count lineFeed := by
  refine ⟨fun bytes v => ⟨fun hcheck => ?_, fun ⟨pos, hstops⟩ => hstops.check_eq_some⟩, ?_,
    LineIndex.lineOf_eq⟩
  · obtain ⟨c, -, -, hpasses⟩ | ⟨v', pos, hstops, hrefused⟩ := exists_stop bytes
    · cases hcheck.symm.trans hpasses
    · cases hcheck.symm.trans hrefused
      exact ⟨pos, hstops⟩
  · rintro bytes v pos ⟨c, b, hc, hb, hstep⟩
    exact ((hc.step_agrees hb).of_violation hstep).2

end Scanner

end SceneRender.Script.Nesting
