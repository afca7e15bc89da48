import Mathlib.Algebra.GroupWithZero.Nat
import Mathlib.Data.List.TakeWhile
import SceneRender.Script.Nesting

/-!
# What the nesting scan bounds

A step of the scan skips bytes, and besides that it does one of a few things to the
counts: it lengthens the chain, starts it anew, opens or closes a bracket, measures an
indentation or ends a line.  Two facts follow from that list.  Every step leaves less to
scan, so the fuel of the scan suffices and a script passes exactly when the scan reaches
its end.  And no state of any scan has more brackets, a higher estimate or more open
blocks than the limits allow.
-/

namespace SceneRender.Script.Nesting

variable {s s' : State} {b : UInt8} {bytes rest : List UInt8} {v : Violation}

/-- **What a step does**, apart from the bytes it skips. -/
inductive State.Moves (s : State) : State → Prop
  | indentation {s' : State} (hstart : s.lineStart = true) (h : s.indentation = .ok s') :
      Moves s s'
  | lineEnd (hrest : s.rest ≠ []) (hstart : s.lineStart = false) : Moves s s.lineEnd
  | skip {rest : List UInt8} {line : Nat} (hrest : rest.length < s.rest.length) :
      Moves s { s with rest, line }
  | reset {rest : List UInt8} (hrest : rest.length < s.rest.length) :
      Moves s { s with rest, chain := 0 }
  | extend {s' : State} {rest : List UInt8} {levels : Nat} (hrest : rest.length < s.rest.length)
      (h : { s with rest }.extend levels = .ok s') : Moves s s'
  | openBracket {s' : State} (hrest : s.rest ≠ []) (h : s.openBracket = .ok s') : Moves s s'
  | closeBracket (hrest : s.rest ≠ []) : Moves s s.closeBracket

/-! ## Bytes skipped -/

/-- A run that has begun takes a byte. -/
theorem length_dropWhile_lt {p : UInt8 → Bool} (h : p b = true) :
    ((b :: bytes).dropWhile p).length < (b :: bytes).length := by
  rw [List.dropWhile_cons_of_pos h, List.length_cons]
  exact Nat.lt_succ_of_le (List.dropWhile_suffix p).length_le

/-- Skipping a number leaves no more than before. -/
theorem length_skipNumber_le (bytes : List UInt8) :
    ∀ afterExponent, (skipNumber afterExponent bytes).length ≤ bytes.length := by
  induction bytes with
  | nil => intro; exact Nat.le_refl _
  | cons b bytes ih =>
      intro afterExponent
      rw [skipNumber]
      split_ifs
      · exact Nat.le_succ_of_le (ih _)
      · exact Nat.le_succ_of_le (ih _)
      · exact Nat.le_refl _

/-- Skipping a number that has begun takes a byte. -/
theorem length_skipNumber_lt (h : isDigit b = true ∨ b = byte '.') :
    (skipNumber false (b :: bytes)).length < (b :: bytes).length := by
  rw [skipNumber, if_pos (by rcases h with h | rfl <;> simp [*])]
  exact Nat.lt_succ_of_le (length_skipNumber_le bytes _)

/-- A string ends within the bytes it was scanned from. -/
theorem scanString_suffix {q : Quoting} {depth line line' : Nat}
    (h : scanString q depth line bytes = .ok (rest, line')) : rest <:+ bytes := by
  fun_induction scanString q depth line bytes with
  | case1 => cases h; exact List.suffix_refl _
  | case2 => cases h; exact List.nil_suffix
  | case3 _ _ _ _ _ _ ih => exact (ih h).trans ⟨[_, _], rfl⟩
  | case5 => cases h; exact List.suffix_refl _
  | case6 => cases h; exact List.suffix_cons _ _
  | case7 => cases h; exact ⟨[_, _, _], rfl⟩
  | case10 => cases h
  | _ => rename_i ih; exact (ih h).trans (List.suffix_cons _ _)

/-- A string moves the scan behind its opening quote, and nothing else. -/
theorem string_ok {formatted : Bool} (h : s.string formatted = .ok s') :
    ∃ rest line, s' = { s with rest, line } ∧ rest <:+ s.rest.drop 1 := by
  rw [State.string] at h
  cases hrest : s.rest with
  | nil =>
      simp only [hrest] at h
      cases h
      exact ⟨s.rest, s.line, rfl, by rw [hrest]; exact List.nil_suffix⟩
  | cons quote bytes =>
      simp only [hrest] at h
      split at h
      · rename_i rest line hscan
        cases h
        refine ⟨rest, line, rfl, (scanString_suffix hscan).trans ?_⟩
        split_ifs
        · exact List.drop_suffix 2 bytes
        · exact List.suffix_refl bytes
      · cases h

/-! ## The steps in turn -/

/-- A string literal is a move. -/
theorem string_moves {formatted : Bool} (hrest : s.rest = b :: bytes)
    (h : s.string formatted = .ok s') : s.Moves s' := by
  obtain ⟨rest, line, rfl, hsuffix⟩ := string_ok h
  refine .skip ?_
  rw [hrest] at hsuffix ⊢
  exact Nat.lt_succ_of_le hsuffix.length_le

/-- A word is a move. -/
theorem word_moves (hrest : s.rest = b :: bytes) (hb : isWordStart b = true)
    (h : s.word = .ok s') : s.Moves s' := by
  have hless : (s.rest.dropWhile isWordByte).length < s.rest.length := by
    rw [hrest]
    exact length_dropWhile_lt (by simp [isWordByte, hb])
  simp only [State.word] at h
  split_ifs at h with hquote hword
  · obtain ⟨rest, line, rfl, hsuffix⟩ := string_ok h
    refine .skip (Nat.lt_of_le_of_lt ?_ hless)
    exact (hsuffix.trans (List.drop_suffix 1 _)).length_le
  · exact .extend hless h
  · cases h
    exact .skip hless

/-- A run of operators is a move. -/
theorem operator_moves (hrest : s.rest = b :: bytes) (hb : isOperatorByte b = true)
    (h : s.operator = .ok s') : s.Moves s' := by
  have hless : (s.rest.dropWhile isOperatorByte).length < s.rest.length := by
    rw [hrest]
    exact length_dropWhile_lt hb
  simp only [State.operator] at h
  split_ifs at h
  · cases h
    exact .reset hless
  · exact .extend hless h

/-- A colon is a move. -/
theorem colon_moves (hrest : s.rest = b :: bytes) (h : s.colon = .ok s') : s.Moves s' := by
  have hless {n : Nat} : (s.rest.drop (n + 1)).length < s.rest.length := by
    simp only [hrest, List.drop_succ_cons, List.length_drop, List.length_cons]
    omega
  simp only [State.colon] at h
  split_ifs at h
  · rw [List.drop_drop] at h
    exact .extend hless h
  · cases h
    exact .skip hless

/-- A backslash is skipped, with the line end behind it. -/
theorem continuation_moves (hrest : s.rest = b :: bytes) : s.Moves s.continuation := by
  have hsuffix : (if bytes.head? == some (byte '\r') then bytes.drop 1 else bytes) <:+ bytes := by
    split_ifs
    · exact List.drop_suffix 1 bytes
    · exact List.suffix_refl bytes
  simp only [State.continuation, hrest, List.drop_succ_cons, List.drop_zero]
  generalize (if bytes.head? == some (byte '\r') then bytes.drop 1 else bytes) = rest at hsuffix ⊢
  have hless : rest.length < s.rest.length := by
    rw [hrest]
    exact Nat.lt_succ_of_le hsuffix.length_le
  split_ifs
  · exact .skip (Nat.lt_of_le_of_lt (List.drop_suffix 1 rest).length_le hless)
  · exact .skip hless

/-- **Every step is one of the moves.** -/
theorem step_moves (hrest : s.rest = b :: bytes) (h : s.step b = .ok s') : s.Moves s' := by
  have hne : s.rest ≠ [] := by simp [hrest]
  have hless : (s.rest.drop 1).length < s.rest.length := by simp [hrest]
  rw [State.step] at h
  by_cases hstart : s.lineStart = true
  · rw [if_pos hstart] at h
    exact .indentation hstart h
  rw [if_neg hstart] at h
  by_cases hfeed : (b == lineFeed) = true
  · rw [if_pos hfeed] at h
    cases h
    exact .lineEnd hne (Bool.eq_false_iff.mpr hstart)
  rw [if_neg hfeed] at h
  by_cases hslash : (b == byte '\\') = true
  · rw [if_pos hslash] at h
    cases h
    exact continuation_moves hrest
  rw [if_neg hslash] at h
  by_cases hcomment : (b == byte '#') = true
  · rw [if_pos hcomment] at h
    cases h
    refine .skip ?_
    rw [hrest, beq_iff_eq.mp hcomment]
    exact length_dropWhile_lt (by decide)
  rw [if_neg hcomment] at h
  by_cases hquote : isQuote b = true
  · rw [if_pos hquote] at h
    exact string_moves hrest h
  rw [if_neg hquote] at h
  by_cases hnumber : (isDigit b || (b == byte '.' && ((s.rest.drop 1).head?).any isDigit)) = true
  · rw [if_pos hnumber] at h
    cases h
    refine .skip ?_
    rw [hrest]
    rw [Bool.or_eq_true, Bool.and_eq_true, beq_iff_eq] at hnumber
    exact length_skipNumber_lt (hnumber.imp_right And.left)
  rw [if_neg hnumber] at h
  by_cases hopen : isOpener b = true
  · rw [if_pos hopen] at h
    exact .openBracket hne h
  rw [if_neg hopen] at h
  by_cases hclose : isCloser b = true
  · rw [if_pos hclose] at h
    cases h
    exact .closeBracket hne
  rw [if_neg hclose] at h
  by_cases hcomma : (b == byte ',' || b == byte ';') = true
  · rw [if_pos hcomma] at h
    cases h
    exact .reset hless
  rw [if_neg hcomma] at h
  by_cases hcolon : (b == byte ':') = true
  · rw [if_pos hcolon] at h
    exact colon_moves hrest h
  rw [if_neg hcolon] at h
  by_cases hword : isWordStart b = true
  · rw [if_pos hword] at h
    exact word_moves hrest hword h
  rw [if_neg hword] at h
  by_cases hoperator : isOperatorByte b = true
  · rw [if_pos hoperator] at h
    exact operator_moves hrest hoperator h
  · rw [if_neg hoperator] at h
    cases h
    exact .skip hless

/-! ## Enough fuel -/

/-- What is left to scan: each byte twice, and a line start. -/
def State.left (s : State) : Nat := 2 * s.rest.length + if s.lineStart then 1 else 0

/-- What passes a limit is within it. -/
theorem ok_of_guard {c : Prop} [Decidable c] (h : (if c then .error v else .ok s) = Except.ok s') :
    ¬ c ∧ s = s' := by
  split_ifs at h with hc
  cases h
  exact ⟨hc, rfl⟩

/-- Measuring an indentation changes the text ahead and the open blocks only. -/
theorem indentation_ok (h : s.indentation = .ok s') :
    ∃ rest indents, s' = { s with rest, indents, lineStart := false } ∧ rest <:+ s.rest ∧
      (indents = s.indents ∨ indents.length ≤ maxIndents + 1) := by
  have hsuffix (p : UInt8 → Bool) : s.rest.dropWhile p <:+ s.rest := List.dropWhile_suffix p
  simp only [State.indentation] at h
  split at h
  · cases h
    exact ⟨_, s.indents, rfl, hsuffix _, Or.inl rfl⟩
  · split at h
    · cases h
      exact ⟨_, s.indents, rfl, hsuffix _, Or.inl rfl⟩
    · obtain ⟨hindents, rfl⟩ := ok_of_guard h
      exact ⟨_, _, rfl, hsuffix _, Or.inr (by omega)⟩

/-- A chain that was extended is within its limit. -/
theorem extend_ok {levels : Nat} (h : s.extend levels = .ok s') :
    s' = { s with chain := s.chain + levels } ∧
      s.enclosing.length + s.enclosingSum + (s.chain + levels) ≤ maxDepth := by
  simp only [State.extend] at h
  obtain ⟨hdepth, rfl⟩ := ok_of_guard h
  exact ⟨rfl, by omega⟩

/-- A bracket that was opened is within its limit. -/
theorem openBracket_ok (h : s.openBracket = .ok s') :
    s' = { s with
      rest := s.rest.drop 1
      enclosing := (s.chain + 1) :: s.enclosing
      enclosingSum := s.enclosingSum + (s.chain + 1)
      chain := 0 } ∧
    s.enclosing.length < maxBrackets ∧
    s.enclosing.length + s.enclosingSum + (s.chain + 1) ≤ maxDepth := by
  simp only [State.openBracket] at h
  split at h
  · cases h
  · rename_i hbrackets
    split at h
    · cases h
    · rename_i hextend
      obtain ⟨rfl, hdepth⟩ := extend_ok hextend
      cases h
      exact ⟨rfl, by simpa using hbrackets, hdepth⟩

/-- **Every step leaves less to scan.** -/
theorem State.Moves.left_lt (h : s.Moves s') : s'.left < s.left := by
  have hdrop (hrest : s.rest ≠ []) : (s.rest.drop 1).length + 1 = s.rest.length := by
    rw [List.length_drop]
    have := List.length_pos_iff.mpr hrest
    omega
  cases h with
  | indentation hstart h =>
      obtain ⟨rest, indents, rfl, hsuffix, -⟩ := indentation_ok h
      have := hsuffix.length_le
      simp only [State.left, hstart]
      simp
      omega
  | lineEnd hrest hstart =>
      have := hdrop hrest
      simp only [State.left, State.lineEnd, hstart]
      split_ifs <;> simp_all <;> omega
  | skip hrest => simp only [State.left]; omega
  | reset hrest => simp only [State.left]; omega
  | extend hrest h =>
      obtain ⟨rfl, -⟩ := extend_ok h
      simp only [State.left]; omega
  | openBracket hrest h =>
      obtain ⟨rfl, -⟩ := openBracket_ok h
      have := hdrop hrest
      simp only [State.left]; omega
  | closeBracket hrest =>
      have := hdrop hrest
      cases henclosing : s.enclosing <;>
        simp only [State.left, State.closeBracket, henclosing] <;> omega

/-- The states that a scan of a text passes through. -/
inductive Reached (bytes : List UInt8) : State → Prop
  | start : Reached bytes (.start bytes)
  | step {s s' : State} {b : UInt8} {rest : List UInt8} (hs : Reached bytes s)
      (hrest : s.rest = b :: rest) (hstep : s.step b = .ok s') : Reached bytes s'

/-- At the end a run is over. -/
theorem run_done {n : Nat} (hrest : s.rest = []) : s.run n = .ok s := by
  cases n with
  | zero => rfl
  | succ n => simp only [State.run, hrest]

/-- A run takes its first step. -/
theorem run_step {n : Nat} (hrest : s.rest = b :: bytes) (hstep : s.step b = .ok s') :
    s.run (n + 1) = s'.run n := by
  simp only [State.run, hrest, hstep]

/-- A run ends at a violation. -/
theorem run_violation {n : Nat} (hrest : s.rest = b :: bytes) (hstep : s.step b = .error v) :
    s.run (n + 1) = .error v := by
  simp only [State.run, hrest, hstep]

/-- Where a number of steps leads, the scan passes through. -/
theorem Reached.run {n : Nat} (hs : Reached bytes s) (hrun : s.run n = .ok s') :
    Reached bytes s' := by
  induction n generalizing s with
  | zero =>
      cases hrun
      exact hs
  | succ n ih =>
      cases hrest : s.rest with
      | nil =>
          rw [run_done hrest] at hrun
          cases hrun
          exact hs
      | cons b rest =>
          cases hstep : s.step b with
          | error v =>
              rw [run_violation hrest hstep] at hrun
              cases hrun
          | ok s₁ => exact ih (hs.step hrest hstep) (run_step hrest hstep ▸ hrun)

/-- A scan goes on from every state it passes through, with fuel for what is left. -/
theorem Reached.run_eq (hs : Reached bytes s) :
    ∃ n, s.left ≤ n ∧ (State.start bytes).run (2 * bytes.length + 1) = s.run n := by
  induction hs with
  | start => exact ⟨2 * bytes.length + 1, Nat.le_refl _, rfl⟩
  | step _ hrest hstep ih =>
      obtain ⟨n, hn, hrun⟩ := ih
      have hless := (step_moves hrest hstep).left_lt
      obtain ⟨n, rfl⟩ : ∃ m, n = m + 1 := ⟨n - 1, by omega⟩
      exact ⟨n, by omega, hrun.trans (run_step hrest hstep)⟩

/-- **The fuel suffices**: a scan comes to the end of the text, or to a step that refuses. -/
theorem Reached.exists_stop (hs : Reached bytes s) :
    ∃ s', Reached bytes s' ∧
      (s'.rest = [] ∨ ∃ b rest v, s'.rest = b :: rest ∧ s'.step b = .error v) := by
  induction hleft : s.left using Nat.strong_induction_on generalizing s with
  | _ left ih =>
      cases hrest : s.rest with
      | nil => exact ⟨s, hs, Or.inl hrest⟩
      | cons b rest =>
          cases hstep : s.step b with
          | error v => exact ⟨s, hs, Or.inr ⟨b, rest, v, hrest, hstep⟩⟩
          | ok s' =>
              have hless := (step_moves hrest hstep).left_lt
              exact ih s'.left (hleft ▸ hless) (hs.step hrest hstep) rfl

/-- What one step refuses, the scan refuses. -/
theorem Reached.check_eq_some (hs : Reached bytes s) (hrest : s.rest = b :: rest)
    (hstep : s.step b = .error v) : Nesting.check bytes = some v := by
  obtain ⟨n, hn, hrun⟩ := hs.run_eq
  obtain ⟨n, rfl⟩ : ∃ m, n = m + 1 := by
    refine ⟨n - 1, ?_⟩
    simp only [State.left, hrest, List.length_cons] at hn
    omega
  rw [Nesting.check, hrun, run_violation hrest hstep]

/-- **A text passes exactly when the scan comes to its end.** -/
theorem check_eq_none_iff : Nesting.check bytes = none ↔ ∃ s, Reached bytes s ∧ s.rest = [] := by
  constructor
  · intro hcheck
    have hstart : Reached bytes (.start bytes) := .start
    obtain ⟨s, hs, hend | ⟨b, rest, v, hrest, hstep⟩⟩ := hstart.exists_stop
    · exact ⟨s, hs, hend⟩
    · rw [hs.check_eq_some hrest hstep] at hcheck
      cases hcheck
  · rintro ⟨s, hs, hend⟩
    obtain ⟨n, -, hrun⟩ := hs.run_eq
    rw [Nesting.check, hrun, run_done hend]

/-! ## Limits kept -/

/-- **What every state of a scan keeps to.**  An open bracket counts as one level more than
the estimate that was checked when it opened. -/
structure State.WithinLimits (s : State) : Prop where
  brackets : s.enclosing.length ≤ maxBrackets
  sum : s.enclosingSum = s.enclosing.sum
  estimate : s.enclosing.length + s.enclosingSum + s.chain ≤ maxDepth + 1
  indents : s.indents.length ≤ maxIndents + 1

/-- At the beginning all limits are kept. -/
theorem State.withinLimits_start : (State.start bytes).WithinLimits :=
  ⟨Nat.zero_le _, rfl, Nat.zero_le _, Nat.le_add_left 1 maxIndents⟩

/-- **No step leaves the limits.** -/
theorem State.WithinLimits.moves (hs : s.WithinLimits) (h : s.Moves s') : s'.WithinLimits := by
  obtain ⟨hbrackets, hsum, hestimate, hindents⟩ := hs
  cases h with
  | indentation _ h =>
      obtain ⟨rest, indents, rfl, -, rfl | hlimit⟩ := indentation_ok h
      · exact ⟨hbrackets, hsum, hestimate, hindents⟩
      · exact ⟨hbrackets, hsum, hestimate, hlimit⟩
  | lineEnd _ _ =>
      simp only [State.lineEnd]
      split_ifs
      · exact ⟨hbrackets, hsum, Nat.le_of_add_right_le hestimate, hindents⟩
      · exact ⟨hbrackets, hsum, hestimate, hindents⟩
  | skip _ => exact ⟨hbrackets, hsum, hestimate, hindents⟩
  | reset _ => exact ⟨hbrackets, hsum, Nat.le_of_add_right_le hestimate, hindents⟩
  | extend _ h =>
      obtain ⟨rfl, hdepth⟩ := extend_ok h
      exact ⟨hbrackets, hsum, Nat.le_succ_of_le hdepth, hindents⟩
  | openBracket _ h =>
      obtain ⟨rfl, hroom, hdepth⟩ := openBracket_ok h
      refine ⟨hroom, ?_, ?_, hindents⟩ <;>
        simp only [List.length_cons, List.sum_cons] <;> omega
  | closeBracket _ =>
      cases henclosing : s.enclosing with
      | nil =>
          rw [henclosing] at hbrackets hsum hestimate
          simp only [State.closeBracket, henclosing]
          exact ⟨hbrackets, hsum, hestimate, hindents⟩
      | cons outer enclosing =>
          rw [henclosing] at hbrackets hsum hestimate
          simp only [List.length_cons, List.sum_cons] at hbrackets hsum hestimate
          simp only [State.closeBracket, henclosing]
          exact ⟨by dsimp only; omega, by dsimp only; omega, by dsimp only; omega, hindents⟩

/-- A reached state keeps all limits. -/
theorem Reached.withinLimits (hs : Reached bytes s) : s.WithinLimits := by
  induction hs with
  | start => exact State.withinLimits_start
  | step _ hrest hstep ih => exact ih.moves (step_moves hrest hstep)

end SceneRender.Script.Nesting
