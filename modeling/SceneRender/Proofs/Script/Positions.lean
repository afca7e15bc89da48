import SceneRender.Proofs.Script.Lines
import SceneRender.Proofs.Script.LogicalLines

/-!
# The scan by position

The scan takes the bytes ahead off a list.  A scan of a text in memory keeps a position in it
instead: it looks a number of bytes ahead, takes a part of the text by its two ends, and
subtracts positions and sums.  A `Scanner` does the same steps in this way, and whatever could go
wrong with an index is a `Trap`.

`Scanner.step_agrees` compares the two.  From a sound state the scanner is never trapped, does
what the scan does with the bytes from its position on, and is sound again.  Soundness counts the
lines: there is one more than line feeds in front of the position.  It leaves room for a position
one beyond the end, where a backslash at the end of a string leads.
-/

namespace SceneRender.Script.Nesting

variable {bytes : List UInt8} {b : UInt8} {v : Violation}

/-! ## Strings in a state -/

/-- The scan of the body of a string, from the state in front of it. -/
def State.stringBody (q : Quoting) (depth : Nat) (s : State) : Except Violation State :=
  match scanString q depth s.line s.rest with
  | .ok (rest, line) => .ok { s with rest, line }
  | .error v => .error v

/-- At the end a string has ended. -/
theorem State.stringBody_nil {q : Quoting} {depth : Nat} {s : State} (hrest : s.rest = []) :
    s.stringBody q depth = .ok s := by
  obtain ⟨rest, line, enclosing, enclosingSum, chain, indents, lineStart⟩ := s
  cases hrest
  rfl

/-- The body of a string is scanned byte by byte. -/
theorem State.stringBody_cons {q : Quoting} {depth : Nat} {s : State} {rest : List UInt8}
    (hrest : s.rest = b :: rest) :
    s.stringBody q depth =
      if b == byte '\\' then
        ({ s with
          rest := rest.drop 1
          line := if rest.head? == some lineFeed then s.line + 1 else s.line } : State).stringBody
            q depth
      else if b == lineFeed then
        if q.triple then ({ s with rest, line := s.line + 1 } : State).stringBody q depth else .ok s
      else if b == q.quote then
        if !q.triple then .ok { s with rest }
        else if twoQuotes q.quote rest then .ok { s with rest := rest.drop 2 }
        else ({ s with rest } : State).stringBody q depth
      else if q.formatted && isOpener b then
        if depth + 1 > maxBrackets then .error ⟨.brackets, s.line⟩
        else ({ s with rest } : State).stringBody q (depth + 1)
      else if q.formatted && isCloser b then ({ s with rest } : State).stringBody q (depth - 1)
      else ({ s with rest } : State).stringBody q depth := by
  obtain ⟨rest', line, enclosing, enclosingSum, chain, indents, lineStart⟩ := s
  cases hrest
  simp only [State.stringBody, scanString_cons]
  split_ifs <;> rfl

/-- A string is its body behind the opening quotes. -/
theorem State.string_cons {s : State} {quote : UInt8} {rest : List UInt8}
    (hrest : s.rest = quote :: rest) (formatted : Bool) :
    s.string formatted =
      ({ s with rest := if twoQuotes quote rest then rest.drop 2 else rest } : State).stringBody
        ⟨quote, twoQuotes quote rest, formatted⟩ 0 := by
  obtain ⟨rest', line, enclosing, enclosingSum, chain, indents, lineStart⟩ := s
  cases hrest
  exact string_quote quote formatted ⟨[], line, enclosing, enclosingSum, chain, indents, lineStart⟩
    rest

/-! ## Steps by position -/

/-- What goes wrong with an index: a difference below zero, or a part that is not in the text. -/
inductive Trap where
  | underflow | outOfRange

/-- How a scan by position breaks off: trapped, or with a violation at a position. -/
inductive Break where
  | trap (t : Trap)
  | violation (v : Violation) (pos : Nat)

/-- The state of a scan by position: the whole text and the position, and otherwise what the scan
keeps. -/
structure Scanner where
  bytes : List UInt8
  pos : Nat
  line : Nat
  enclosing : List Nat
  enclosingSum : Nat
  chain : Nat
  indents : List Nat
  lineStart : Bool

/-- A difference that is trapped below zero. -/
def difference (a b : Nat) : Except Break Nat :=
  if b ≤ a then .ok (a - b) else .error (.trap .underflow)

namespace Scanner

/-- The state before the first byte. -/
def start (bytes : List UInt8) : Scanner := ⟨bytes, 0, 1, [], 0, 0, [0], true⟩

/-- The byte a number of places ahead, if there is one. -/
def peek (c : Scanner) (ahead : Nat) : Option UInt8 := c.bytes[c.pos + ahead]?

/-- Goes a number of bytes on. -/
def advance (c : Scanner) (width : Nat) : Scanner := { c with pos := c.pos + width }

/-- The bytes from a position up to here; trapped if they are not a part of the text. -/
def slice (c : Scanner) (start : Nat) : Except Break (List UInt8) :=
  if start ≤ c.pos ∧ c.pos ≤ c.bytes.length then .ok ((c.bytes.drop start).take (c.pos - start))
  else .error (.trap .outOfRange)

/-- Refuses the text here. -/
def refuse (c : Scanner) (limit : Limit) : Except Break Scanner :=
  .error (.violation ⟨limit, c.line⟩ c.pos)

/-- There is a byte ahead only within the text. -/
theorem pos_lt {c : Scanner} (h : c.peek 0 = some b) : c.pos < c.bytes.length :=
  (List.getElem?_eq_some_iff.mp h).1

/-- Going on over a byte leaves less of the text. -/
theorem left_advance {c : Scanner} (h : c.peek 0 = some b) (width : Nat) :
    c.bytes.length - (c.advance (width + 1)).pos < c.bytes.length - c.pos := by
  have := pos_lt h
  simp only [advance]
  omega

/-- Goes on over bytes of a kind. -/
def skip (p : UInt8 → Bool) (c : Scanner) : Scanner :=
  match _h : c.peek 0 with
  | none => c
  | some b => if p b then skip p (c.advance 1) else c
termination_by c.bytes.length - c.pos
decreasing_by exact left_advance _h _

/-- Goes on over a number: letters, digits, points and underscores, and a sign right after the
letter of an exponent. -/
def number (c : Scanner) : Scanner :=
  match _h : c.peek 0 with
  | none => c
  | some b =>
    if (b == byte 'e' || b == byte 'E') && (c.peek 1).any (fun s => s == byte '+' || s == byte '-')
    then number (c.advance 2)
    else if isLetter b || isDigit b || b == byte '_' || b == byte '.' then number (c.advance 1)
    else c
termination_by c.bytes.length - c.pos
decreasing_by all_goals exact left_advance _h _

/-- Goes on over the body of a string.  A backslash goes on over the byte behind it, too, be it
there or not. -/
def stringBody (q : Quoting) (depth : Nat) (c : Scanner) : Except Break Scanner :=
  match h : c.peek 0 with
  | none => .ok c
  | some b =>
    if b == byte '\\' then
      stringBody q depth
        { c.advance 2 with line := if c.peek 1 == some lineFeed then c.line + 1 else c.line }
    else if b == lineFeed then
      if q.triple then stringBody q depth { c.advance 1 with line := c.line + 1 } else .ok c
    else if b == q.quote then
      if !q.triple then .ok (c.advance 1)
      else if c.peek 1 == some q.quote && c.peek 2 == some q.quote then .ok (c.advance 3)
      else stringBody q depth (c.advance 1)
    else if q.formatted && isOpener b then
      if depth + 1 > maxBrackets then c.refuse .brackets
      else stringBody q (depth + 1) (c.advance 1)
    else if q.formatted && isCloser b then stringBody q (depth - 1) (c.advance 1)
    else stringBody q depth (c.advance 1)
termination_by c.bytes.length - c.pos
decreasing_by all_goals exact left_advance h _

/-- Goes on over a string from its opening quotes on. -/
def string (formatted : Bool) (c : Scanner) : Except Break Scanner :=
  match c.peek 0 with
  | none => .ok c
  | some quote =>
    let triple := c.peek 1 == some quote && c.peek 2 == some quote
    (c.advance (if triple then 3 else 1)).stringBody ⟨quote, triple, formatted⟩ 0

/-- Lengthens the chain, unless the expression would nest too deep. -/
def extend (c : Scanner) (levels : Nat) : Except Break Scanner :=
  let c := { c with chain := c.chain + levels }
  if c.enclosing.length + c.enclosingSum + c.chain > maxDepth then c.refuse .depth else .ok c

/-- The state within a logical line. -/
def withinLine (c : Scanner) : Scanner := { c with lineStart := false }

/-- Measures the indentation of a logical line. -/
def indentation (c : Scanner) : Except Break Scanner := do
  let start := c.pos
  let c := (c.skip isIndent).withinLine
  if (c.peek 0).all isLineRest then .ok c
  else
    let width ← difference c.pos start
    let indents := measured width c.indents
    let levels ← difference indents.length 1
    if levels > maxIndents then c.refuse .indents else .ok { c with indents }

/-- Goes on over a backslash and the line end after it. -/
def continuation (c : Scanner) : Scanner :=
  let c := c.advance 1
  let c := if c.peek 0 == some (byte '\r') then c.advance 1 else c
  if c.peek 0 == some lineFeed then { c.advance 1 with line := c.line + 1 } else c

/-- Goes on over a word, and the string that it announces. -/
def word (c : Scanner) : Except Break Scanner := do
  let start := c.pos
  let c := c.skip isWordByte
  let word ← c.slice start
  if (c.peek 0).any isQuote && isStringMark word then
    c.string (word.any fun b => lower b == byte 'f')
  else if nestingWords.contains word then c.extend 1
  else .ok c

/-- Opens a bracket. -/
def openBracket (c : Scanner) : Except Break Scanner := do
  let c := c.advance 1
  if c.enclosing.length ≥ maxBrackets then c.refuse .brackets
  else
    let c ← c.extend 1
    .ok { c with
      enclosing := c.chain :: c.enclosing
      enclosingSum := c.enclosingSum + c.chain
      chain := 0 }

/-- Closes a bracket, if one is open. -/
def closeBracket (c : Scanner) : Except Break Scanner := do
  let c := c.advance 1
  match c.enclosing with
  | [] => .ok c
  | chain :: enclosing =>
    let enclosingSum ← difference c.enclosingSum chain
    .ok { c with enclosing, enclosingSum, chain }

/-- Goes on over a run of operator bytes. -/
def operator (c : Scanner) : Except Break Scanner := do
  let start := c.pos
  let c := c.skip isOperatorByte
  let run ← c.slice start
  if run == [byte '='] then .ok { c with chain := 0 } else c.extend run.length

/-- Goes on over a line end. -/
def lineEnd (c : Scanner) : Scanner :=
  let c := { c.advance 1 with line := c.line + 1 }
  if c.enclosing.isEmpty then { c with chain := 0, lineStart := true } else c

/-- Goes on over a colon, or the sign that binds a name on the way. -/
def colon (c : Scanner) : Except Break Scanner :=
  let c := c.advance 1
  if c.peek 0 == some (byte '=') then (c.advance 1).extend 1 else .ok c

/-- One step; `b` is the byte ahead. -/
def step (c : Scanner) (b : UInt8) : Except Break Scanner :=
  if c.lineStart then c.indentation
  else if b == lineFeed then .ok c.lineEnd
  else if b == byte '\\' then .ok c.continuation
  else if b == byte '#' then .ok (c.skip (· != lineFeed))
  else if isQuote b then c.string false
  else if isDigit b || (b == byte '.' && (c.peek 1).any isDigit) then .ok c.number
  else if isOpener b then c.openBracket
  else if isCloser b then c.closeBracket
  else if b == byte ',' || b == byte ';' then .ok { c.advance 1 with chain := 0 }
  else if b == byte ':' then c.colon
  else if isWordStart b then c.word
  else if isOperatorByte b then c.operator
  else .ok (c.advance 1)

/-! ## Sound states -/

/-- The same state with the bytes ahead. -/
def state (c : Scanner) : State :=
  ⟨c.bytes.drop c.pos, c.line, c.enclosing, c.enclosingSum, c.chain, c.indents, c.lineStart⟩

/-- **A sound state**: of the text, on the line of its position, and at most one beyond the
end. -/
structure Sound (bytes : List UInt8) (c : Scanner) : Prop where
  text : c.bytes = bytes
  line : c.line = lineAt bytes c.pos
  pos : c.pos ≤ bytes.length + 1

/-- **What a scan by position comes to, compared with the scan of the bytes ahead**: a sound state
that is the same, or the same violation on the line of the position. -/
inductive Agrees (bytes : List UInt8) : Except Break Scanner → Except Violation State → Prop
  | ok {c : Scanner} (hc : c.Sound bytes) : Agrees bytes (.ok c) (.ok c.state)
  | refused {v : Violation} {pos : Nat} (hline : v.line = lineAt bytes pos) :
      Agrees bytes (.error (.violation v pos)) (.error v)

variable {c : Scanner}

/-- What is left of a scanner is what lies behind its place. -/
theorem state_rest (c : Scanner) : c.state.rest = c.bytes.drop c.pos := rfl

/-- A scanner peeks into what is left. -/
theorem peek_eq (c : Scanner) (ahead : Nat) : c.peek ahead = (c.state.rest.drop ahead).head? := by
  rw [peek, state_rest, List.drop_drop, List.head?_drop]

/-- Going on drops as much of what is left. -/
theorem state_advance (c : Scanner) (width : Nat) :
    (c.advance width).state = { c.state with rest := c.state.rest.drop width } := by
  rw [state_rest, List.drop_drop]
  rfl

/-- The bytes ahead begin with the byte ahead. -/
theorem rest_eq_cons (h : c.peek 0 = some b) : c.state.rest = b :: (c.advance 1).state.rest := by
  obtain ⟨hlt, rfl⟩ := List.getElem?_eq_some_iff.mp h
  exact List.drop_eq_getElem_cons hlt

/-- Where nothing is ahead, nothing is left. -/
theorem rest_eq_nil (h : c.peek 0 = none) : c.state.rest = [] :=
  List.drop_eq_nil_of_le (List.getElem?_eq_none_iff.mp h)

/-- The line of the next byte is the same unless a line feed is passed. -/
theorem lineAt_succ (bytes : List UInt8) (pos : Nat) :
    lineAt bytes (pos + 1) = lineAt bytes pos + bytes[pos]?.toList.count lineFeed := by
  rw [lineAt, lineAt, List.take_add_one, List.count_append, Nat.add_assoc]

namespace Sound

/-- A state that differs in its counts only is sound, too. -/
theorem congr {c' : Scanner} (h : c.Sound bytes) (htext : c'.bytes = c.bytes)
    (hline : c'.line = c.line) (hpos : c'.pos = c.pos) : c'.Sound bytes :=
  ⟨htext.trans h.text, by rw [hline, hpos, h.line], hpos ▸ h.pos⟩

/-- A sound scanner peeks at the bytes of the text. -/
theorem byte_eq (h : c.Sound bytes) (ahead : Nat) : bytes[c.pos + ahead]? = c.peek ahead := by
  rw [peek, h.text]

/-- Going on over a byte counts it if it is a line feed. -/
theorem pass (h : c.Sound bytes) (hb : c.peek 0 = some b) :
    Sound bytes { c.advance 1 with line := c.line + [b].count lineFeed } where
  text := h.text
  line := by
    have hbyte : bytes[c.pos]? = some b := (h.byte_eq 0).trans hb
    rw [advance, lineAt_succ, hbyte, ← h.line]
    rfl
  pos := by
    have hlt := pos_lt hb
    rw [h.text] at hlt
    exact Nat.succ_le_succ (Nat.le_of_lt hlt)

/-- A scanner stays sound past a byte that is no line feed. -/
theorem pass_other (h : c.Sound bytes) (hb : c.peek 0 = some b) (hne : b ≠ lineFeed) :
    (c.advance 1).Sound bytes := by
  have hpass := h.pass hb
  rwa [List.count_eq_zero.mpr (by simpa using hne.symm), Nat.add_zero] at hpass

/-- A scanner stays sound past a line feed that it counts. -/
theorem pass_lineFeed (h : c.Sound bytes) (hb : c.peek 0 = some lineFeed) :
    Sound bytes { c.advance 1 with line := c.line + 1 } := h.pass hb

end Sound

/-! ## Runs of bytes -/

/-- Skipping stops where the byte ahead is not to be skipped. -/
theorem skip_done {p : UInt8 → Bool} (h : (c.peek 0).any p = false) : c.skip p = c := by
  rw [skip]
  cases hb : c.peek 0 with
  | none => rfl
  | some b =>
      rw [hb, Option.any_some] at h
      simp only [h, Bool.false_eq_true, if_false]

/-- Skipping goes on past a byte that is to be skipped. -/
theorem skip_step {p : UInt8 → Bool} (hb : c.peek 0 = some b) (h : p b = true) :
    c.skip p = (c.advance 1).skip p := by
  rw [skip]
  split
  · next hnone => rw [hb] at hnone; cases hnone
  · next b' hb' =>
    cases hb.symm.trans hb'
    rw [if_pos h]

/-- Going on over bytes of a kind takes them off the bytes ahead. -/
theorem skip_eq (p : UInt8 → Bool) (c : Scanner) :
    c.skip p = c.advance (c.state.rest.takeWhile p).length := by
  induction hn : c.bytes.length - c.pos using Nat.strongRecOn generalizing c with
  | ind n ih =>
      cases hb : c.peek 0 with
      | none =>
          rw [skip_done (by rw [hb]; rfl), rest_eq_nil hb]
          rfl
      | some b =>
          rw [rest_eq_cons hb]
          cases hp : p b with
          | true =>
              rw [skip_step hb hp, ih _ (hn ▸ left_advance hb 0) _ rfl, List.takeWhile_cons_of_pos hp,
                List.length_cons, Nat.add_comm]
              exact congrArg (fun pos => { c with pos }) (Nat.add_assoc _ _ _)
          | false =>
              rw [skip_done (by rw [hb]; exact hp),
                List.takeWhile_cons_of_neg (by simp [hp])]
              rfl

/-- Skipping drops the run in front. -/
theorem state_skip (p : UInt8 → Bool) (c : Scanner) :
    (c.skip p).state = { c.state with rest := c.state.rest.dropWhile p } := by
  have hdrop : (c.state.rest.takeWhile p ++ c.state.rest.dropWhile p).drop
      (c.state.rest.takeWhile p).length = c.state.rest.dropWhile p := List.drop_left
  rw [List.takeWhile_append_dropWhile] at hdrop
  rw [skip_eq, state_advance, hdrop]

/-- Bytes among which there is no line feed are all on one line. -/
theorem Sound.skip {p : UInt8 → Bool} (h : c.Sound bytes) (hp : p lineFeed = false) :
    (c.skip p).Sound bytes := by
  induction hn : c.bytes.length - c.pos using Nat.strongRecOn generalizing c with
  | ind n ih =>
      cases hb : c.peek 0 with
      | none =>
          rw [skip_done (by rw [hb]; rfl)]
          exact h
      | some b =>
          cases hkind : p b with
          | true =>
              have hne : b ≠ lineFeed := by
                rintro rfl
                rw [hp] at hkind
                cases hkind
              rw [skip_step hb hkind]
              exact ih _ (hn ▸ left_advance hb 0) (h.pass_other hb hne) rfl
          | false =>
              rw [skip_done (by rw [hb]; exact hkind)]
              exact h

/-- The bytes that were gone on over are a part of the text. -/
theorem slice_skip {p : UInt8 → Bool} (hpos : c.pos ≤ c.bytes.length) :
    (c.skip p).slice c.pos = .ok (c.state.rest.takeWhile p) := by
  have hprefix : c.state.rest.takeWhile p <+: c.bytes.drop c.pos := List.takeWhile_prefix p
  have hlength := hprefix.length_le
  rw [List.length_drop] at hlength
  have hwithin : c.pos ≤ (c.skip p).pos ∧ (c.skip p).pos ≤ (c.skip p).bytes.length := by
    rw [skip_eq]
    dsimp only [advance]
    omega
  rw [slice, if_pos hwithin, skip_eq]
  dsimp only [advance]
  rw [Nat.add_sub_cancel_left, ← List.prefix_iff_eq_take.mp hprefix]

/-- Without the sign of an exponent ahead it is all the same what was read. -/
theorem skipNumber_true {rest : List UInt8}
    (h : (rest.head?).any (fun s => s == byte '+' || s == byte '-') = false) :
    skipNumber true rest = skipNumber false rest := by
  cases rest with
  | nil => rfl
  | cons b rest =>
      rw [List.head?_cons, Option.any_some] at h
      rw [skipNumber, skipNumber, h, Bool.and_false, Bool.and_false]

/-- A number goes on past the sign of its exponent. -/
theorem skipNumber_exponent {b sign : UInt8} {rest : List UInt8}
    (hb : (b == byte 'e' || b == byte 'E') = true)
    (hsign : (sign == byte '+' || sign == byte '-') = true) :
    skipNumber false (b :: sign :: rest) = skipNumber false rest := by
  have hletter : (isLetter b || isDigit b || b == byte '_' || b == byte '.') = true := by
    rcases Bool.or_eq_true _ _ |>.mp hb with h | h <;> rw [beq_iff_eq.mp h] <;> decide
  have hother : (isLetter sign || isDigit sign || sign == byte '_' || sign == byte '.') = false := by
    rcases Bool.or_eq_true _ _ |>.mp hsign with h | h <;> rw [beq_iff_eq.mp h] <;> decide
  rw [skipNumber, if_pos hletter, hb, skipNumber, hother, hsign]
  rfl

/-! ## The tokens -/

/-- A sound scanner agrees with its own state. -/
theorem Agrees.of_eq {s : State} (hc : c.Sound bytes) (hs : c.state = s) :
    Agrees bytes (.ok c) (.ok s) := hs ▸ .ok hc

/-- Going on and peeking is peeking further ahead. -/
theorem peek_advance (c : Scanner) (width ahead : Nat) :
    (c.advance width).peek ahead = c.peek (width + ahead) := by
  simp only [peek, advance, Nat.add_assoc]

/-- The byte ahead is the first one that is left. -/
theorem head?_rest (c : Scanner) : c.state.rest.head? = c.peek 0 := (peek_eq c 0).symm

/-- The first byte that is left is the one ahead. -/
theorem peek_of_rest {rest : List UInt8} (hrest : c.state.rest = b :: rest) :
    c.peek 0 = some b := by
  rw [← head?_rest, hrest, List.head?_cons]

/-- A number is gone on over. -/
theorem number_agrees (h : c.Sound bytes) :
    Agrees bytes (.ok c.number) (.ok { c.state with rest := skipNumber false c.state.rest }) := by
  induction hn : c.bytes.length - c.pos using Nat.strongRecOn generalizing c with
  | ind n ih =>
      rw [number]
      split
      · next hb =>
        have hsame : skipNumber false c.state.rest = c.state.rest := by
          rw [rest_eq_nil hb]
          rfl
        exact .of_eq h (by rw [hsame])
      · next b hb =>
        have hrest := rest_eq_cons hb
        have hfeed {b : UInt8} (hb : (isLetter b || isDigit b || b == byte '_' || b == byte '.' ||
            (b == byte '+' || b == byte '-')) = true) : b ≠ lineFeed := by
          rintro rfl
          exact absurd hb (by decide)
        split_ifs with hexponent hpart
        · -- the sign behind the letter of an exponent is gone on over with it
          obtain ⟨hletter, hsign⟩ := Bool.and_eq_true _ _ |>.mp hexponent
          obtain ⟨sign, hs, hsign⟩ := Option.any_eq_true _ _ |>.mp hsign
          have hs' : (c.advance 1).peek 0 = some sign := (peek_advance c 1 0).trans hs
          have hskip : skipNumber false c.state.rest =
              skipNumber false (c.advance 2).state.rest := by
            rw [hrest, rest_eq_cons hs', skipNumber_exponent hletter hsign]
            rfl
          have hb' : b ≠ lineFeed := by
            rintro rfl
            exact absurd hletter (by decide)
          have hsound := (h.pass_other hb hb').pass_other hs' (hfeed (by rw [hsign]; simp))
          rw [hskip]
          exact ih _ (hn ▸ left_advance hb 1) hsound rfl
        · have hskip : skipNumber false c.state.rest =
              skipNumber false (c.advance 1).state.rest := by
            rw [hrest, skipNumber, if_pos hpart]
            cases hletter : (b == byte 'e' || b == byte 'E') with
            | false => rfl
            | true =>
                rw [hletter, Bool.true_and, Bool.not_eq_true] at hexponent
                refine skipNumber_true ?_
                rw [head?_rest, peek_advance]
                exact hexponent
          rw [hskip]
          exact ih _ (hn ▸ left_advance hb 0) (h.pass_other hb (hfeed (by rw [hpart]; rfl))) rfl
        · have hsame : skipNumber false c.state.rest = c.state.rest := by
            rw [hrest, skipNumber, if_neg hpart, Bool.false_and]
            rfl
          exact .of_eq h (by rw [hsame])

/-- Bytes of a kind are gone on over. -/
theorem skip_agrees {p : UInt8 → Bool} (h : c.Sound bytes) (hp : p lineFeed = false) :
    Agrees bytes (.ok (c.skip p)) (.ok { c.state with rest := c.state.rest.dropWhile p }) :=
  .of_eq (h.skip hp) (state_skip p c)

/-- A byte that is no line feed is gone on over. -/
theorem advance_agrees (h : c.Sound bytes) (hb : c.peek 0 = some b) (hne : b ≠ lineFeed) :
    Agrees bytes (.ok (c.advance 1)) (.ok { c.state with rest := c.state.rest.drop 1 }) :=
  .of_eq (h.pass_other hb hne) (state_advance c 1)

/-- Chains are extended alike. -/
theorem extend_agrees (h : c.Sound bytes) (levels : Nat) :
    Agrees bytes (c.extend levels) (c.state.extend levels) := by
  simp only [extend, State.extend]
  by_cases hdeep : c.enclosing.length + c.enclosingSum + (c.chain + levels) > maxDepth
  · rw [if_pos hdeep]
    exact if_pos hdeep ▸ .refused h.line
  · rw [if_neg hdeep]
    exact if_neg hdeep ▸ .of_eq (h.congr rfl rfl rfl) rfl

/-! ## Strings -/

/-- Two quotes are ahead if the next two bytes are quotes. -/
theorem twoQuotes_eq (quote : UInt8) (rest : List UInt8) :
    twoQuotes quote rest = (rest.head? == some quote && (rest.drop 1).head? == some quote) := by
  match rest with
  | [] => rfl
  | [b] => simp [twoQuotes]
  | b₁ :: b₂ :: _ => simp [twoQuotes]

/-- The scanner sees the same two quotes. -/
theorem twoQuotes_ahead (c : Scanner) (quote : UInt8) :
    twoQuotes quote (c.advance 1).state.rest =
      (c.peek 1 == some quote && c.peek 2 == some quote) := by
  rw [twoQuotes_eq, ← peek_eq, head?_rest, peek_advance, peek_advance]

/-- Dropping twice is dropping more. -/
theorem drop_rest (c : Scanner) (width width' : Nat) :
    (c.advance width).state.rest.drop width' = (c.advance (width + width')).state.rest := by
  simp only [state_rest, advance, List.drop_drop, Nat.add_assoc]

/-- Three quotes are gone on over. -/
theorem Sound.pass_quotes {quote : UInt8} (h : c.Sound bytes) (hb : c.peek 0 = some quote)
    (hne : quote ≠ lineFeed) (hthree : (c.peek 1 == some quote && c.peek 2 == some quote) = true) :
    (c.advance 3).Sound bytes := by
  obtain ⟨h₁, h₂⟩ := Bool.and_eq_true _ _ |>.mp hthree
  have hb₁ : (c.advance 1).peek 0 = some quote := (peek_advance c 1 0).trans (beq_iff_eq.mp h₁)
  have hb₂ : (c.advance 2).peek 0 = some quote := (peek_advance c 2 0).trans (beq_iff_eq.mp h₂)
  exact ((h.pass_other hb hne).pass_other hb₁ hne).pass_other hb₂ hne

/-- A backslash in a string counts the line feed behind it, and goes one beyond the end if there
is nothing behind it. -/
theorem Sound.pass_escaped (h : c.Sound bytes) (hb : c.peek 0 = some b) (hne : b ≠ lineFeed) :
    Sound bytes { c.advance 2 with
      line := if c.peek 1 == some lineFeed then c.line + 1 else c.line } := by
  have hpass := h.pass_other hb hne
  have hahead : (c.advance 1).peek 0 = c.peek 1 := peek_advance c 1 0
  cases he : c.peek 1 with
  | none =>
      refine ⟨h.text, ?_, Nat.succ_le_succ (h.text ▸ pos_lt hb)⟩
      have hbyte : bytes[c.pos + 1]? = none := (h.byte_eq 1).trans he
      have hline : c.line = lineAt bytes (c.pos + 1) := hpass.line
      have hnext : lineAt bytes (c.pos + 2) = lineAt bytes (c.pos + 1) := by
        rw [lineAt_succ bytes (c.pos + 1), hbyte]
        rfl
      exact hline.trans hnext.symm
  | some e =>
      have hpass' := hpass.pass (hahead.trans he)
      by_cases hfeed : e = lineFeed
      · subst hfeed
        exact hpass'
      · have hcount : [e].count lineFeed = 0 := List.count_eq_zero.mpr (by simpa using Ne.symm hfeed)
        rw [hcount] at hpass'
        have hno : ¬ (some e == some lineFeed) = true := by simpa using hfeed
        rw [if_neg hno]
        exact hpass'

/-- **The body of a string is gone on over.** -/
theorem stringBody_agrees {q : Quoting} (hquote : q.quote ≠ lineFeed) {depth : Nat}
    (h : c.Sound bytes) : Agrees bytes (c.stringBody q depth) (c.state.stringBody q depth) := by
  induction hn : c.bytes.length - c.pos using Nat.strongRecOn generalizing c depth with
  | ind n ih =>
      rw [stringBody]
      split
      · next hb =>
        rw [State.stringBody_nil (rest_eq_nil hb)]
        exact .ok h
      · next b hb =>
        have hless (width : Nat) := hn ▸ left_advance hb width
        rw [State.stringBody_cons (rest_eq_cons hb), twoQuotes_ahead]
        by_cases hslash : (b == byte '\\') = true
        · have hne : b ≠ lineFeed := by
            rw [beq_iff_eq.mp hslash]
            decide
          rw [if_pos hslash, if_pos hslash, head?_rest, peek_advance, drop_rest]
          exact ih _ (hless 1) (h.pass_escaped hb hne) rfl
        rw [if_neg hslash, if_neg hslash]
        by_cases hfeed : (b == lineFeed) = true
        · rw [if_pos hfeed, if_pos hfeed]
          obtain rfl := beq_iff_eq.mp hfeed
          by_cases htriple : q.triple = true
          · rw [if_pos htriple, if_pos htriple]
            exact ih _ (hless 0) (h.pass_lineFeed hb) rfl
          · rw [if_neg htriple, if_neg htriple]
            exact .ok h
        have hpass : (c.advance 1).Sound bytes := h.pass_other hb (by simpa using hfeed)
        rw [if_neg hfeed, if_neg hfeed]
        by_cases hend : (b == q.quote) = true
        · rw [if_pos hend, if_pos hend]
          by_cases hsingle : (!q.triple) = true
          · rw [if_pos hsingle, if_pos hsingle]
            exact .ok hpass
          rw [if_neg hsingle, if_neg hsingle]
          by_cases hthree : (c.peek 1 == some q.quote && c.peek 2 == some q.quote) = true
          · rw [if_pos hthree, if_pos hthree, drop_rest]
            have hb' : c.peek 0 = some q.quote := beq_iff_eq.mp hend ▸ hb
            exact .ok (h.pass_quotes hb' hquote hthree)
          · rw [if_neg hthree, if_neg hthree]
            exact ih _ (hless 0) hpass rfl
        rw [if_neg hend, if_neg hend]
        by_cases hopen : (q.formatted && isOpener b) = true
        · rw [if_pos hopen, if_pos hopen]
          by_cases hdeep : depth + 1 > maxBrackets
          · rw [if_pos hdeep, if_pos hdeep]
            exact .refused h.line
          · rw [if_neg hdeep, if_neg hdeep]
            exact ih _ (hless 0) hpass rfl
        rw [if_neg hopen, if_neg hopen]
        by_cases hclose : (q.formatted && isCloser b) = true
        · rw [if_pos hclose, if_pos hclose]
          exact ih _ (hless 0) hpass rfl
        · rw [if_neg hclose, if_neg hclose]
          exact ih _ (hless 0) hpass rfl

/-- **A string is gone on over.** -/
theorem string_agrees (h : c.Sound bytes) (hquote : (c.peek 0).any isQuote = true)
    (formatted : Bool) : Agrees bytes (c.string formatted) (c.state.string formatted) := by
  obtain ⟨quote, hb, hisQuote⟩ := Option.any_eq_true _ _ |>.mp hquote
  have hne : quote ≠ lineFeed := isQuote_ne_lineFeed hisQuote
  rw [State.string_cons (rest_eq_cons hb), string, hb, twoQuotes_ahead]
  by_cases hthree : (c.peek 1 == some quote && c.peek 2 == some quote) = true
  · have hsound := h.pass_quotes hb hne hthree
    simp only [hthree, if_true, drop_rest]
    exact stringBody_agrees (q := ⟨quote, true, formatted⟩) hne hsound
  · have hsound := h.pass_other hb hne
    rw [Bool.not_eq_true] at hthree
    simp only [hthree, Bool.false_eq_true, if_false]
    exact stringBody_agrees (q := ⟨quote, false, formatted⟩) hne hsound

/-! ## Steps -/

/-- A difference that is not below zero is not trapped. -/
theorem difference_of_le {a b : Nat} (h : b ≤ a) : difference a b = .ok (a - b) := if_pos h

/-- A success goes on with its value. -/
theorem ok_bind {α β : Type} (a : α) (f : α → Except Break β) : (Except.ok a >>= f) = f a := rfl

/-- **The blocks are never all closed**, so one can be subtracted from their number. -/
theorem measured_ne_nil (width : Nat) (indents : List Nat) : measured width indents ≠ [] := by
  rw [measured]
  split_ifs with hless
  · exact List.cons_ne_nil _ _
  · intro hnone
    rw [hnone] at hless
    exact hless rfl

/-- Behind a run the first other byte is ahead. -/
theorem peek_skip (p : UInt8 → Bool) (c : Scanner) :
    (c.skip p).peek 0 = (c.state.rest.dropWhile p).head? := by
  rw [← head?_rest, state_skip]

/-- **Measuring an indentation** subtracts two positions, and one from the number of blocks. -/
theorem indentation_agrees (h : c.Sound bytes) :
    Agrees bytes c.indentation c.state.indentation := by
  have hskip : (c.skip isIndent).withinLine.Sound bytes :=
    (h.skip (p := isIndent) (by decide)).congr rfl rfl rfl
  have hpeek : (c.skip isIndent).withinLine.peek 0 = (c.state.rest.dropWhile isIndent).head? :=
    peek_skip isIndent c
  have hstate : (c.skip isIndent).withinLine.state =
      { c.state with rest := c.state.rest.dropWhile isIndent, lineStart := false } :=
    congrArg (fun s => { s with lineStart := false }) (state_skip isIndent c)
  have hwidth : difference (c.skip isIndent).withinLine.pos c.pos =
      .ok (c.state.rest.takeWhile isIndent).length := by
    rw [withinLine, skip_eq]
    exact (difference_of_le (Nat.le_add_right _ _)).trans
      (congrArg Except.ok (Nat.add_sub_cancel_left _ _))
  have hindents : (c.skip isIndent).withinLine.indents = c.state.indents :=
    congrArg State.indents hstate
  rw [indentation_eq, indentation]
  dsimp only
  generalize (c.skip isIndent).withinLine = d at *
  rw [hpeek]
  by_cases hempty : ((c.state.rest.dropWhile isIndent).head?).all isLineRest = true
  · rw [if_pos hempty, if_pos hempty]
    exact .of_eq hskip hstate
  have hlevels := difference_of_le
    (List.length_pos_iff.mpr (measured_ne_nil (c.state.rest.takeWhile isIndent).length d.indents))
  rw [if_neg hempty, if_neg hempty, hwidth, ok_bind, hlevels, ok_bind, hindents]
  by_cases hdeep :
      (measured (c.state.rest.takeWhile isIndent).length c.state.indents).length - 1 > maxIndents
  · rw [if_pos hdeep]
    have hline : d.line = c.state.line := congrArg State.line hstate
    exact if_pos hdeep ▸ hline ▸ .refused hskip.line
  · rw [if_neg hdeep]
    refine if_neg hdeep ▸ .of_eq (hskip.congr rfl rfl rfl) ?_
    exact congrArg (fun s : State => { s with
      indents := measured (c.state.rest.takeWhile isIndent).length c.state.indents }) hstate

/-- **A word** is the part of the text that was gone on over. -/
theorem word_agrees (h : c.Sound bytes) (hb : c.peek 0 = some b) :
    Agrees bytes c.word c.state.word := by
  have hskip : (c.skip isWordByte).Sound bytes := h.skip isWordByte_lineFeed
  have hslice := slice_skip (c := c) (p := isWordByte) (Nat.le_of_lt (pos_lt hb))
  have hpeek := peek_skip isWordByte c
  have hstate := state_skip isWordByte c
  rw [word]
  simp only [State.word]
  rw [hslice, ok_bind, hpeek]
  split_ifs with hmark hnests <;> rw [← hstate]
  · exact string_agrees hskip (hpeek ▸ (Bool.and_eq_true _ _ |>.mp hmark).1) _
  · exact extend_agrees hskip 1
  · exact .ok hskip

/-- **A run of operator bytes** is the part of the text that was gone on over. -/
theorem operator_agrees (h : c.Sound bytes) (hb : c.peek 0 = some b) :
    Agrees bytes c.operator c.state.operator := by
  have hskip : (c.skip isOperatorByte).Sound bytes := h.skip isOperatorByte_lineFeed
  have hslice := slice_skip (c := c) (p := isOperatorByte) (Nat.le_of_lt (pos_lt hb))
  have hstate := state_skip isOperatorByte c
  rw [operator]
  simp only [State.operator]
  rw [hslice, ok_bind]
  split_ifs with hequals
  · refine .of_eq (hskip.congr rfl rfl rfl) ?_
    exact congrArg (fun s : State => { s with chain := 0 }) hstate
  · rw [← hstate]
    exact extend_agrees hskip _

/-- Brackets are opened alike. -/
theorem openBracket_agrees (h : c.Sound bytes) (hb : c.peek 0 = some b) (hne : b ≠ lineFeed) :
    Agrees bytes c.openBracket c.state.openBracket := by
  have hpass := h.pass_other hb hne
  have hstate := state_advance c 1
  simp only [openBracket, State.openBracket, ← hstate]
  by_cases hfull : c.enclosing.length ≥ maxBrackets
  · rw [if_pos (show (c.advance 1).enclosing.length ≥ maxBrackets from hfull),
      if_pos (show c.state.enclosing.length ≥ maxBrackets from hfull)]
    exact .refused hpass.line
  rw [if_neg (show ¬ (c.advance 1).enclosing.length ≥ maxBrackets from hfull),
    if_neg (show ¬ c.state.enclosing.length ≥ maxBrackets from hfull)]
  have hextend := extend_agrees hpass 1
  generalize (c.advance 1).extend 1 = result at *
  generalize (c.advance 1).state.extend 1 = result' at *
  cases hextend with
  | ok hd => exact .of_eq (hd.congr rfl rfl rfl) rfl
  | refused hline => exact .refused hline

/-- **The chain of an open bracket is a part of the sum**, so it can be subtracted. -/
theorem closeBracket_agrees (h : c.Sound bytes) (hb : c.peek 0 = some b) (hne : b ≠ lineFeed)
    (hsum : c.enclosingSum = c.enclosing.sum) :
    Agrees bytes c.closeBracket (.ok c.state.closeBracket) := by
  have hpass := h.pass_other hb hne
  have hstate := state_advance c 1
  obtain ⟨text, pos, line, enclosing, enclosingSum, chain, indents, lineStart⟩ := c
  cases enclosing with
  | nil => exact .of_eq hpass hstate
  | cons outer enclosing =>
      have hle : outer ≤ enclosingSum := by
        rw [show enclosingSum = outer + enclosing.sum from hsum]
        exact Nat.le_add_right _ _
      have hdifference := difference_of_le hle
      simp only [closeBracket, advance, hdifference, ok_bind]
      refine .of_eq (hpass.congr rfl rfl rfl) ?_
      exact congrArg (fun s : State => { s with
        enclosing, enclosingSum := enclosingSum - outer, chain := outer }) hstate

/-- A line feed ahead is gone on over. -/
theorem lineFeed_agrees (h : c.Sound bytes) :
    Agrees bytes
      (.ok (if c.peek 0 == some lineFeed then { c.advance 1 with line := c.line + 1 } else c))
      (.ok (if c.state.rest.head? == some lineFeed then
        { c.state with rest := c.state.rest.drop 1, line := c.state.line + 1 } else c.state)) := by
  have hstate := state_advance c 1
  rw [head?_rest]
  by_cases hfeed : (c.peek 0 == some lineFeed) = true
  · rw [if_pos hfeed, if_pos hfeed]
    refine .of_eq (h.pass_lineFeed (beq_iff_eq.mp hfeed)) ?_
    exact congrArg (fun s : State => { s with line := c.line + 1 }) hstate
  · rw [if_neg hfeed, if_neg hfeed]
    exact .ok h

/-- A backslash is passed alike. -/
theorem continuation_agrees (h : c.Sound bytes) (hb : c.peek 0 = some b) (hne : b ≠ lineFeed) :
    Agrees bytes (.ok c.continuation) (.ok c.state.continuation) := by
  have hpass := h.pass_other hb hne
  have hstate := state_advance c 1
  have hahead : (c.state.rest.drop 1).head? = (c.advance 1).peek 0 := by
    rw [← head?_rest, state_advance]
  simp only [continuation, State.continuation, hahead]
  by_cases hreturn : ((c.advance 1).peek 0 == some (byte '\r')) = true
  · have hpass' := hpass.pass_other (beq_iff_eq.mp hreturn) (by decide)
    have hagrees := lineFeed_agrees hpass'
    rw [state_advance (c.advance 1), hstate] at hagrees
    rw [if_pos hreturn, if_pos hreturn]
    exact hagrees
  · have hagrees := lineFeed_agrees hpass
    rw [hstate] at hagrees
    rw [if_neg hreturn, if_neg hreturn]
    exact hagrees

/-- A line is ended alike. -/
theorem lineEnd_agrees (h : c.Sound bytes) (hb : c.peek 0 = some lineFeed) :
    Agrees bytes (.ok c.lineEnd) (.ok c.state.lineEnd) := by
  have hpass := h.pass_lineFeed hb
  have hstate := state_advance c 1
  obtain ⟨text, pos, line, enclosing, enclosingSum, chain, indents, lineStart⟩ := c
  cases enclosing with
  | nil =>
      refine .of_eq (hpass.congr rfl rfl rfl) ?_
      exact congrArg (fun s : State => { s with line := line + 1, chain := 0, lineStart := true })
        hstate
  | cons outer enclosing =>
      exact .of_eq hpass (congrArg (fun s : State => { s with line := line + 1 }) hstate)

/-- A colon is passed alike. -/
theorem colon_agrees (h : c.Sound bytes) (hb : c.peek 0 = some b) (hne : b ≠ lineFeed) :
    Agrees bytes c.colon c.state.colon := by
  have hpass := h.pass_other hb hne
  have hstate := state_advance c 1
  have hahead : (c.state.rest.drop 1).head? = (c.advance 1).peek 0 := by
    rw [← head?_rest, state_advance]
  simp only [colon, State.colon, hahead]
  by_cases hequals : ((c.advance 1).peek 0 == some (byte '=')) = true
  · have hpass' := hpass.pass_other (beq_iff_eq.mp hequals) (by decide)
    have hagrees := extend_agrees hpass' 1
    rw [state_advance (c.advance 1), hstate] at hagrees
    rw [if_pos hequals, if_pos hequals]
    exact hagrees
  · rw [if_neg hequals, if_neg hequals]
    exact .of_eq hpass hstate

/-- **A step by position is a step of the scan**, and it is not trapped. -/
theorem step_agrees (h : c.Sound bytes) (hsum : c.enclosingSum = c.enclosing.sum)
    (hb : c.peek 0 = some b) : Agrees bytes (c.step b) (c.state.step b) := by
  rw [step, State.step, ← peek_eq]
  by_cases hstart : c.lineStart = true
  · rw [if_pos hstart, if_pos (show c.state.lineStart = true from hstart)]
    exact indentation_agrees h
  rw [if_neg hstart, if_neg (show ¬ c.state.lineStart = true from hstart)]
  by_cases hfeed : (b == lineFeed) = true
  · rw [if_pos hfeed, if_pos hfeed]
    exact lineEnd_agrees h (beq_iff_eq.mp hfeed ▸ hb)
  have hne : b ≠ lineFeed := by simpa using hfeed
  rw [if_neg hfeed, if_neg hfeed]
  by_cases hslash : (b == byte '\\') = true
  · rw [if_pos hslash, if_pos hslash]
    exact continuation_agrees h hb hne
  rw [if_neg hslash, if_neg hslash]
  by_cases hcomment : (b == byte '#') = true
  · rw [if_pos hcomment, if_pos hcomment]
    exact skip_agrees h (by decide)
  rw [if_neg hcomment, if_neg hcomment]
  by_cases hquote : isQuote b = true
  · rw [if_pos hquote, if_pos hquote]
    exact string_agrees h (by rw [hb]; exact hquote) false
  rw [if_neg hquote, if_neg hquote]
  by_cases hnumber : (isDigit b || (b == byte '.' && (c.peek 1).any isDigit)) = true
  · rw [if_pos hnumber, if_pos hnumber]
    exact number_agrees h
  rw [if_neg hnumber, if_neg hnumber]
  by_cases hopen : isOpener b = true
  · rw [if_pos hopen, if_pos hopen]
    exact openBracket_agrees h hb hne
  rw [if_neg hopen, if_neg hopen]
  by_cases hclose : isCloser b = true
  · rw [if_pos hclose, if_pos hclose]
    exact closeBracket_agrees h hb hne hsum
  rw [if_neg hclose, if_neg hclose]
  by_cases hcomma : (b == byte ',' || b == byte ';') = true
  · rw [if_pos hcomma, if_pos hcomma]
    refine .of_eq ((h.pass_other hb hne).congr rfl rfl rfl) ?_
    exact congrArg (fun s : State => { s with chain := 0 }) (state_advance c 1)
  rw [if_neg hcomma, if_neg hcomma]
  by_cases hcolon : (b == byte ':') = true
  · rw [if_pos hcolon, if_pos hcolon]
    exact colon_agrees h hb hne
  rw [if_neg hcolon, if_neg hcolon]
  by_cases hword : isWordStart b = true
  · rw [if_pos hword, if_pos hword]
    exact word_agrees h hb
  rw [if_neg hword, if_neg hword]
  by_cases hoperator : isOperatorByte b = true
  · rw [if_pos hoperator, if_pos hoperator]
    exact operator_agrees h hb
  · rw [if_neg hoperator, if_neg hoperator]
    exact advance_agrees h hb hne

end Scanner

end SceneRender.Script.Nesting
