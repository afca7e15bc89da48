import SceneRender.Proofs.Script.Scan

/-!
# How far a step of the scan looks

A step reads some bytes and looks at no more than one byte behind them.  `State.Reads` says so
of a step that was taken: the bytes that it read come to the same result in front of any other
bytes that begin alike.  It also counts the lines: every line feed is read exactly once.

The one thing that looks two bytes ahead is the test for three quotes.  It does no harm, because
a string that reads nothing behind its quotes has come to the end of its line
(`scanString_reads`), and a line feed is no quote.

By induction over a scan, what it has read can stand in front of other bytes
(`Reached.exists_read`).  What it makes of the rest depends on its state alone
(`Reached.check_eq_verdict`).
-/

namespace SceneRender.Script.Nesting

variable {s s' : State} {b quote : UInt8} {bytes rest : List UInt8} {v : Violation}

/-- **What a step reads.**  The bytes read are followed by the bytes left, each of their line feeds
is a line, and they are read alike in front of anything that begins like the bytes left. -/
structure State.Reads (step : State → Except Violation State) (s s' : State)
    (read : List UInt8) : Prop where
  text : s.rest = read ++ s'.rest
  lines : s'.line = s.line + read.count lineFeed
  again : ∀ rest, rest.head? = s'.rest.head? →
    step { s with rest := read ++ rest } = .ok { s' with rest }

/-! ## Runs of bytes -/

/-- What is ahead of a text matters by its first byte only. -/
theorem head?_append_of_head? {read rest other : List UInt8} (h : other.head? = rest.head?) :
    (read ++ other).head? = (read ++ rest).head? := by
  rw [List.head?_append, List.head?_append, h]

/-- The second byte is the same, too, if the first one was read. -/
theorem head?_drop_one_append {read rest other : List UInt8} (hread : read ≠ [])
    (h : other.head? = rest.head?) :
    ((read ++ other).drop 1).head? = ((read ++ rest).drop 1).head? := by
  cases read with
  | nil => exact absurd rfl hread
  | cons b read => exact head?_append_of_head? h

/-- A run of bytes of a kind ends at the same place in front of bytes that begin alike. -/
theorem takeWhile_append_again {p : UInt8 → Bool} {other : List UInt8}
    (h : other.head? = (bytes.dropWhile p).head?) :
    (bytes.takeWhile p ++ other).takeWhile p = bytes.takeWhile p ∧
      (bytes.takeWhile p ++ other).dropWhile p = other := by
  have hkind : ∀ b ∈ bytes.takeWhile p, p b = true := fun b hb => List.mem_takeWhile_imp hb
  have hend : other.takeWhile p = [] ∧ other.dropWhile p = other := by
    have hhead := List.head?_dropWhile_not p bytes
    rw [← h] at hhead
    cases other with
    | nil => exact ⟨rfl, rfl⟩
    | cons b other =>
        have hb : p b = false := by simpa using hhead
        exact ⟨List.takeWhile_cons_of_neg (by simp [hb]), List.dropWhile_cons_of_neg (by simp [hb])⟩
  rw [List.takeWhile_append_of_pos hkind, List.dropWhile_append_of_pos hkind, hend.1, hend.2,
    List.append_nil]
  exact ⟨rfl, rfl⟩

/-- A run that stops at line feeds has none. -/
theorem count_takeWhile {p : UInt8 → Bool} (h : p lineFeed = false) :
    (bytes.takeWhile p).count lineFeed = 0 := by
  rw [List.count_eq_zero]
  intro hmem
  rw [List.mem_takeWhile_imp hmem] at h
  cases h

/-- A number ends at the same place in front of bytes that begin alike. -/
theorem skipNumber_reads (bytes : List UInt8) : ∀ afterExponent,
    ∃ read, bytes = read ++ skipNumber afterExponent bytes ∧ lineFeed ∉ read ∧
      ∀ other, other.head? = (skipNumber afterExponent bytes).head? →
        skipNumber afterExponent (read ++ other) = other := by
  induction bytes with
  | nil =>
      intro afterExponent
      refine ⟨[], rfl, by simp, fun other hother => ?_⟩
      cases other with
      | nil => rfl
      | cons b other => cases hother
  | cons b bytes ih =>
      intro afterExponent
      rw [skipNumber]
      split_ifs with hpart hsign
      · obtain ⟨read, htext, hfeed, hagain⟩ := ih (b == byte 'e' || b == byte 'E')
        refine ⟨b :: read, congrArg (b :: ·) htext, ?_, fun other hother => ?_⟩
        · rintro (_ | ⟨_, hmem⟩)
          · exact absurd hpart (by decide)
          · exact hfeed hmem
        · rw [List.cons_append, skipNumber, if_pos hpart]
          exact hagain other hother
      · obtain ⟨read, htext, hfeed, hagain⟩ := ih false
        refine ⟨b :: read, congrArg (b :: ·) htext, ?_, fun other hother => ?_⟩
        · rintro (_ | ⟨_, hmem⟩)
          · exact absurd (Bool.and_eq_true _ _ |>.mp hsign).2 (by decide)
          · exact hfeed hmem
        · rw [List.cons_append, skipNumber, if_neg hpart, if_pos hsign]
          exact hagain other hother
      · refine ⟨[], rfl, by simp, fun other hother => ?_⟩
        cases other with
        | nil => rfl
        | cons b' other =>
            obtain rfl : b' = b := by simpa using hother
            rw [List.nil_append, skipNumber, if_neg hpart, if_neg hsign]

/-! ## Strings -/

/-- Do two quotes stand ahead? -/
def twoQuotes (quote : UInt8) : List UInt8 → Bool
  | b₁ :: b₂ :: _ => b₁ == quote && b₂ == quote
  | _ => false

/-- Two quotes ahead are seen alike in front of bytes that begin alike, unless nothing is read
and a quote comes next. -/
theorem twoQuotes_append {read rest other : List UInt8}
    (hread : read = [] → rest.head? ≠ some quote) (h : other.head? = rest.head?) :
    twoQuotes quote (read ++ other) = twoQuotes quote (read ++ rest) := by
  have hnone : ∀ {bytes : List UInt8},
      bytes.head? ≠ some quote → twoQuotes quote bytes = false := by
    intro bytes hbytes
    match bytes with
    | [] | [_] => rfl
    | b₁ :: b₂ :: _ =>
        have hb : b₁ ≠ quote := fun heq => hbytes (by rw [heq]; rfl)
        simp [twoQuotes, hb]
  match read with
  | [] =>
      rw [List.nil_append, List.nil_append, hnone (h ▸ hread rfl), hnone (hread rfl)]
  | [b] =>
      cases rest <;> cases other <;> simp_all [twoQuotes]
  | b₁ :: b₂ :: read => rfl

/-- A string is scanned byte by byte. -/
theorem scanString_cons (q : Quoting) (depth line : Nat) (b : UInt8) (bytes : List UInt8) :
    scanString q depth line (b :: bytes) =
      if b == byte '\\' then
        scanString q depth (if bytes.head? == some lineFeed then line + 1 else line) (bytes.drop 1)
      else if b == lineFeed then
        if q.triple then scanString q depth (line + 1) bytes else .ok (b :: bytes, line)
      else if b == q.quote then
        if !q.triple then .ok (bytes, line)
        else if twoQuotes q.quote bytes then .ok (bytes.drop 2, line)
        else scanString q depth line bytes
      else if q.formatted && isOpener b then
        if depth + 1 > maxBrackets then .error ⟨.brackets, line⟩
        else scanString q (depth + 1) line bytes
      else if q.formatted && isCloser b then scanString q (depth - 1) line bytes
      else scanString q depth line bytes := by
  rw [scanString.eq_def]
  rcases bytes with _ | ⟨b₁, _ | ⟨b₂, bytes⟩⟩ <;> rfl

/-- What the scan of a string reads, as for a step.  A string that reads nothing has come to the
end of its line or of the text, and not to a quote. -/
structure Quoting.Reads (q : Quoting) (depth line : Nat) (bytes rest : List UInt8) (line' : Nat)
    (read : List UInt8) : Prop where
  text : bytes = read ++ rest
  lines : line' = line + read.count lineFeed
  quote : read = [] → rest.head? ≠ some q.quote
  again : ∀ other, other.head? = rest.head? →
    scanString q depth line (read ++ other) = .ok (other, line')

/-- A byte more is read in front, if the scan goes on behind it. -/
theorem Quoting.Reads.cons {q : Quoting} {depth depth' line line' line'' : Nat}
    {read : List UInt8} (h : q.Reads depth' line' bytes rest line'' read)
    (hline : line' = line + [b].count lineFeed)
    (hstep : ∀ tail, twoQuotes q.quote tail = twoQuotes q.quote bytes →
      scanString q depth line (b :: tail) = scanString q depth' line' tail) :
    q.Reads depth line (b :: bytes) rest line'' (b :: read) where
  text := congrArg (b :: ·) h.text
  lines := by
    have hcount : (b :: read).count lineFeed = [b].count lineFeed + read.count lineFeed :=
      @List.count_append _ _ _ [b] read
    rw [h.lines, hline, hcount, Nat.add_assoc]
  quote := nofun
  again other hother := by
    have hquotes : twoQuotes q.quote (read ++ other) = twoQuotes q.quote bytes := by
      rw [twoQuotes_append h.quote hother, ← h.text]
    rw [List.cons_append, hstep _ hquotes]
    exact h.again other hother

/-- **What the scan of a string reads.** -/
theorem scanString_reads {q : Quoting} {depth line line' : Nat} (hquote : q.quote ≠ lineFeed)
    (h : scanString q depth line bytes = .ok (rest, line')) :
    ∃ read, q.Reads depth line bytes rest line' read := by
  have hsame : ∀ {c : UInt8} {n : Nat}, (c == lineFeed) = false → n = n + [c].count lineFeed := by
    intro c n hc
    simp [List.count_singleton, hc]
  induction hlength : bytes.length using Nat.strong_induction_on generalizing bytes depth line with
  | _ length ih =>
  cases bytes with
  | nil =>
      cases h
      refine ⟨[], rfl, rfl, fun _ => nofun, fun other hother => ?_⟩
      cases other with
      | nil => rfl
      | cons b other => cases hother
  | cons b bytes =>
      have hshort : bytes.length < length := by rw [← hlength]; exact Nat.lt_succ_self _
      rw [scanString_cons] at h
      by_cases hslash : (b == byte '\\') = true
      · rw [if_pos hslash] at h
        have hb : (b == lineFeed) = false := by
          rw [beq_iff_eq.mp hslash]
          decide
        cases bytes with
        | nil =>
            cases h
            refine ⟨[b], rfl, hsame hb, nofun, fun other hother => ?_⟩
            cases other with
            | nil =>
                rw [List.append_nil, scanString_cons, if_pos hslash]
                rfl
            | cons e other => cases hother
        | cons e bytes =>
            -- the byte behind a backslash is read with it, whatever it is
            obtain ⟨read, hread⟩ := ih bytes.length (Nat.lt_of_succ_lt hshort) h rfl
            refine ⟨b :: e :: read, congrArg (b :: e :: ·) hread.text, ?_, nofun, ?_⟩
            · rw [hread.lines]
              by_cases he : e = lineFeed <;> simp_all
              omega
            · intro other hother
              rw [List.cons_append, scanString_cons, if_pos hslash]
              exact hread.again other hother
      rw [if_neg hslash] at h
      by_cases hfeed : (b == lineFeed) = true
      · rw [if_pos hfeed] at h
        by_cases htriple : q.triple = true
        · rw [if_pos htriple] at h
          obtain ⟨read, hread⟩ := ih bytes.length hshort h rfl
          refine ⟨b :: read, hread.cons ?_ fun tail _ => ?_⟩
          · simp [List.count_singleton, hfeed]
          · rw [scanString_cons, if_neg hslash, if_pos hfeed, if_pos htriple]
        · rw [if_neg htriple] at h
          cases h
          refine ⟨[], rfl, rfl, fun _ hhead => ?_, fun other hother => ?_⟩
          · exact hquote ((Option.some.inj hhead).symm.trans (beq_iff_eq.mp hfeed))
          · cases other with
            | nil => cases hother
            | cons c other =>
                obtain rfl : c = b := by simpa using hother
                rw [List.nil_append, scanString_cons, if_neg hslash, if_pos hfeed, if_neg htriple]
      rw [if_neg hfeed] at h
      have hline : ∀ n : Nat, n = n + [b].count lineFeed := fun n => hsame (by simpa using hfeed)
      by_cases hend : (b == q.quote) = true
      · rw [if_pos hend] at h
        by_cases hsingle : (!q.triple) = true
        · rw [if_pos hsingle] at h
          cases h
          refine ⟨[b], rfl, hline _, nofun, fun other _ => ?_⟩
          rw [List.singleton_append, scanString_cons, if_neg hslash, if_neg hfeed, if_pos hend,
            if_pos hsingle]
        rw [if_neg hsingle] at h
        by_cases hclose : twoQuotes q.quote bytes = true
        · rw [if_pos hclose] at h
          match bytes with
          | [] | [_] => cases hclose
          | b₁ :: b₂ :: bytes =>
              cases h
              have hquotes : b₁ = q.quote ∧ b₂ = q.quote := by simpa [twoQuotes] using hclose
              refine ⟨[b, b₁, b₂], rfl, ?_, nofun, fun other _ => ?_⟩
              · simp [hquotes.1, hquotes.2, List.count_cons, hquote, hfeed]
              · have hclose' : twoQuotes q.quote (b₁ :: b₂ :: other) = true := hclose
                rw [List.cons_append, scanString_cons, if_neg hslash, if_neg hfeed, if_pos hend,
                  if_neg hsingle]
                exact if_pos hclose'
        · rw [if_neg hclose] at h
          obtain ⟨read, hread⟩ := ih bytes.length hshort h rfl
          refine ⟨b :: read, hread.cons (hline _) fun tail htail => ?_⟩
          rw [scanString_cons, if_neg hslash, if_neg hfeed, if_pos hend, if_neg hsingle, htail,
            if_neg hclose]
      rw [if_neg hend] at h
      by_cases hopen : (q.formatted && isOpener b) = true
      · rw [if_pos hopen] at h
        by_cases hdeep : depth + 1 > maxBrackets
        · rw [if_pos hdeep] at h
          cases h
        · rw [if_neg hdeep] at h
          obtain ⟨read, hread⟩ := ih bytes.length hshort h rfl
          refine ⟨b :: read, hread.cons (hline _) fun tail _ => ?_⟩
          rw [scanString_cons, if_neg hslash, if_neg hfeed, if_neg hend, if_pos hopen,
            if_neg hdeep]
      rw [if_neg hopen] at h
      by_cases hclose : (q.formatted && isCloser b) = true
      · rw [if_pos hclose] at h
        obtain ⟨read, hread⟩ := ih bytes.length hshort h rfl
        refine ⟨b :: read, hread.cons (hline _) fun tail _ => ?_⟩
        rw [scanString_cons, if_neg hslash, if_neg hfeed, if_neg hend, if_neg hopen,
          if_pos hclose]
      · rw [if_neg hclose] at h
        obtain ⟨read, hread⟩ := ih bytes.length hshort h rfl
        refine ⟨b :: read, hread.cons (hline _) fun tail _ => ?_⟩
        rw [scanString_cons, if_neg hslash, if_neg hfeed, if_neg hend, if_neg hopen,
          if_neg hclose]

/-! ## The tokens -/

/-- A quote is no line feed. -/
theorem isQuote_ne_lineFeed (h : isQuote quote = true) : quote ≠ lineFeed := by
  rintro rfl
  exact absurd h (by decide)

/-- A string begins behind one quote, or behind three. -/
theorem string_quote (quote : UInt8) (formatted : Bool) (s : State) (tail : List UInt8) :
    ({ s with rest := quote :: tail } : State).string formatted =
      match scanString ⟨quote, twoQuotes quote tail, formatted⟩ 0 s.line
        (if twoQuotes quote tail then tail.drop 2 else tail) with
      | .ok (rest, line) => .ok { s with rest, line }
      | .error v => .error v := by
  match tail with
  | [] | [_] | b₁ :: b₂ :: tail => rfl

/-- A string reads what is between its quotes and the quotes. -/
theorem string_reads {formatted : Bool} (hhead : (s.rest.head?).any isQuote = true)
    (h : s.string formatted = .ok s') : ∃ read, State.Reads (·.string formatted) s s' read := by
  obtain ⟨quote, bytes, hrest⟩ : ∃ quote bytes, s.rest = quote :: bytes := by
    cases hrest : s.rest with
    | nil => simp [hrest] at hhead
    | cons quote bytes => exact ⟨quote, bytes, rfl⟩
  have hquote : quote ≠ lineFeed := isQuote_ne_lineFeed (by simpa [hrest] using hhead)
  have hstring := string_quote quote formatted s
  have hs : s = { s with rest := quote :: bytes } := by rw [← hrest]
  rw [hs, hstring] at h
  split at h
  · next rest line hscan =>
    cases h
    obtain ⟨read, hread⟩ := scanString_reads (q := ⟨quote, _, formatted⟩) hquote hscan
    by_cases htriple : twoQuotes quote bytes = true
    · match bytes with
      | [] | [_] => cases htriple
      | b₁ :: b₂ :: bytes =>
          have hquotes : b₁ = quote ∧ b₂ = quote := by simpa [twoQuotes] using htriple
          obtain ⟨rfl, rfl⟩ : quote = b₁ ∧ quote = b₂ := ⟨hquotes.1.symm, hquotes.2.symm⟩
          rw [htriple] at hread
          refine ⟨quote :: quote :: quote :: read, ?_, ?_, fun other hother => ?_⟩
          · rw [hrest]
            exact congrArg (quote :: quote :: quote :: ·) hread.text
          · rw [hread.lines]
            simp [hquote]
          · have htriple' : twoQuotes quote (quote :: quote :: (read ++ other)) = true := htriple
            have hagain := hread.again other hother
            rw [List.cons_append, List.cons_append, List.cons_append, hstring, htriple']
            simp only [if_true, List.drop_succ_cons, List.drop_zero, hagain]
    · rw [Bool.not_eq_true] at htriple
      rw [htriple] at hread
      refine ⟨quote :: read, ?_, ?_, fun other hother => ?_⟩
      · rw [hrest]
        exact congrArg (quote :: ·) hread.text
      · rw [hread.lines]
        simp [hquote]
      · have htriple' : twoQuotes quote (read ++ other) = false := by
          rw [twoQuotes_append hread.quote hother]
          exact hread.text ▸ htriple
        have hagain := hread.again other hother
        rw [List.cons_append, hstring, htriple']
        simp only [Bool.false_eq_true, if_false, hagain]
  · cases h

/-- Lengthening the chain reads nothing. -/
theorem extend_again {levels : Nat} (h : s.extend levels = .ok s') (rest : List UInt8) :
    ({ s with rest } : State).extend levels = .ok { s' with rest } := by
  obtain ⟨rfl, hdepth⟩ := extend_ok h
  have hwithin : ¬ s.enclosing.length + s.enclosingSum + (s.chain + levels) > maxDepth := by omega
  simp only [State.extend, if_neg hwithin]

/-- A line feed is no part of a word. -/
theorem isWordByte_lineFeed : isWordByte lineFeed = false := by decide

/-- A line feed is no part of an operator. -/
theorem isOperatorByte_lineFeed : isOperatorByte lineFeed = false := by decide

/-- A word reads its letters, and the string that it announces. -/
theorem word_reads (h : s.word = .ok s') : ∃ read, State.Reads State.word s s' read := by
  have hletters : (s.rest.takeWhile isWordByte).count lineFeed = 0 :=
    count_takeWhile isWordByte_lineFeed
  have hword : ∀ other, other.head? = (s.rest.dropWhile isWordByte).head? →
      ({ s with rest := s.rest.takeWhile isWordByte ++ other } : State).word =
        if (other.head?).any isQuote && isStringMark (s.rest.takeWhile isWordByte) then
          ({ s with rest := other } : State).string
            ((s.rest.takeWhile isWordByte).any fun b => lower b == byte 'f')
        else if nestingWords.contains (s.rest.takeWhile isWordByte) then
          ({ s with rest := other } : State).extend 1
        else .ok { s with rest := other } := by
    intro other hother
    obtain ⟨htake, hdrop⟩ := takeWhile_append_again hother
    simp only [State.word, htake, hdrop]
  have hself := hword _ rfl
  rw [List.takeWhile_append_dropWhile, h] at hself
  split_ifs at hself with hmark hnests
  · obtain ⟨read, hread⟩ := string_reads (by simpa using (Bool.and_eq_true _ _ |>.mp hmark).1)
      hself.symm
    refine ⟨s.rest.takeWhile isWordByte ++ read, ?_, ?_, fun other hother => ?_⟩
    · rw [List.append_assoc, ← hread.text, List.takeWhile_append_dropWhile]
    · rw [hread.lines, List.count_append, hletters, Nat.zero_add]
    · have hbegins : (read ++ other).head? = (s.rest.dropWhile isWordByte).head? := by
        rw [head?_append_of_head? hother, ← hread.text]
      rw [List.append_assoc, hword _ hbegins, hbegins, if_pos hmark]
      exact hread.again other hother
  · have hs' := (extend_ok hself.symm).1
    refine ⟨s.rest.takeWhile isWordByte, ?_, ?_, fun other hother => ?_⟩
    · rw [hs', List.takeWhile_append_dropWhile]
    · simp only [hs', hletters, Nat.add_zero]
    · have hbegins : other.head? = (s.rest.dropWhile isWordByte).head? := by rw [hother, hs']
      rw [hword other hbegins, hbegins, if_neg hmark, if_pos hnests]
      exact extend_again hself.symm other
  · cases hself
    refine ⟨s.rest.takeWhile isWordByte, ?_, ?_, fun other hother => ?_⟩
    · exact (List.takeWhile_append_dropWhile ..).symm
    · rw [hletters, Nat.add_zero]
    · rw [hword other hother, hother, if_neg hmark, if_neg hnests]

/-- A run of operators reads its bytes. -/
theorem operator_reads (h : s.operator = .ok s') :
    ∃ read, State.Reads State.operator s s' read := by
  have hcount : (s.rest.takeWhile isOperatorByte).count lineFeed = 0 :=
    count_takeWhile isOperatorByte_lineFeed
  have hrun : ∀ other, other.head? = (s.rest.dropWhile isOperatorByte).head? →
      ({ s with rest := s.rest.takeWhile isOperatorByte ++ other } : State).operator =
        if s.rest.takeWhile isOperatorByte == [byte '='] then
          .ok { s with rest := other, chain := 0 }
        else
          ({ s with rest := other } : State).extend (s.rest.takeWhile isOperatorByte).length := by
    intro other hother
    obtain ⟨htake, hdrop⟩ := takeWhile_append_again hother
    simp only [State.operator, htake, hdrop]
  have hself := hrun _ rfl
  rw [List.takeWhile_append_dropWhile, h] at hself
  split_ifs at hself with hequals
  · cases hself
    refine ⟨s.rest.takeWhile isOperatorByte, ?_, ?_, fun other hother => ?_⟩
    · exact (List.takeWhile_append_dropWhile ..).symm
    · rw [hcount, Nat.add_zero]
    · rw [hrun other hother, if_pos hequals]
  · have hs' := (extend_ok hself.symm).1
    refine ⟨s.rest.takeWhile isOperatorByte, ?_, ?_, fun other hother => ?_⟩
    · rw [hs', List.takeWhile_append_dropWhile]
    · simp only [hs', hcount, Nat.add_zero]
    · have hbegins : other.head? = (s.rest.dropWhile isOperatorByte).head? := by rw [hother, hs']
      rw [hrun other hbegins, if_neg hequals]
      exact extend_again hself.symm other

/-- A colon reads itself and perhaps an equals sign. -/
theorem colon_reads (hrest : s.rest = b :: bytes) (hb : b ≠ lineFeed) (h : s.colon = .ok s') :
    ∃ read, State.Reads State.colon s s' read := by
  simp only [State.colon, hrest, List.drop_succ_cons, List.drop_zero] at h
  split_ifs at h with hequals
  · obtain ⟨e, bytes, rfl⟩ : ∃ e tail, bytes = e :: tail := by
      cases bytes with
      | nil => simp at hequals
      | cons e bytes => exact ⟨e, bytes, rfl⟩
    have he : e = byte '=' := by simpa using hequals
    have hs' := (extend_ok h).1
    refine ⟨[b, e], by rw [hs']; exact hrest, ?_, fun other hother => ?_⟩
    · rw [hs', he]
      simp [List.count_cons, hb]
      decide
    · simp only [State.colon, List.cons_append, List.nil_append, List.drop_succ_cons,
        List.drop_zero, List.head?_cons, he, beq_self_eq_true, if_true]
      exact extend_again h other
  · cases h
    refine ⟨[b], hrest, ?_, fun other hother => ?_⟩
    · simp [hb]
    · simp only [State.colon, List.singleton_append, List.drop_succ_cons, List.drop_zero, hother,
        if_neg hequals]

/-- A backslash is skipped with a carriage return behind it. -/
theorem continuation_return {tail : List UInt8} (hfeed : tail.head? ≠ some lineFeed) :
    ({ s with rest := byte '\\' :: byte '\r' :: tail } : State).continuation =
      { s with rest := tail } :=
  if_neg (by simpa using hfeed)

/-- A backslash in front of anything but a line end is skipped alone. -/
theorem continuation_alone {tail : List UInt8} (hreturn : tail.head? ≠ some (byte '\r'))
    (hfeed : tail.head? ≠ some lineFeed) :
    ({ s with rest := byte '\\' :: tail } : State).continuation = { s with rest := tail } := by
  have htail : (if tail.head? == some (byte '\r') then tail.drop 1 else tail) = tail :=
    if_neg (by simpa using hreturn)
  simp only [State.continuation, List.drop_succ_cons, List.drop_zero, htail]
  exact if_neg (by simpa using hfeed)

/-- A backslash reads itself, and the line end behind it. -/
theorem continuation_reads (hrest : s.rest = byte '\\' :: bytes) :
    ∃ read, State.Reads (.ok ·.continuation) s s.continuation read := by
  have hs : s = { s with rest := byte '\\' :: bytes } := by rw [← hrest]
  have hreads : ∀ end' tail : List UInt8, bytes = end' ++ tail →
      (∀ other, other.head? = tail.head? →
        ({ s with rest := byte '\\' :: (end' ++ other) } : State).continuation =
          { s with rest := other, line := s.line + end'.count lineFeed }) →
      State.Reads (.ok ·.continuation) s s.continuation (byte '\\' :: end') := by
    rintro end' tail rfl hend
    have hself := hend tail rfl
    rw [← hs] at hself
    have hcount : (byte '\\' :: end').count lineFeed = end'.count lineFeed :=
      List.count_cons_of_ne (by decide)
    refine ⟨?_, ?_, fun other hother => ?_⟩
    · rw [hself, hrest]
      rfl
    · rw [hself, hcount]
    · rw [hself] at hother ⊢
      exact congrArg Except.ok (hend other hother)
  by_cases hreturn : bytes.head? = some (byte '\r')
  · obtain ⟨bytes, rfl⟩ := List.head?_eq_some_iff.mp hreturn
    by_cases hfeed : bytes.head? = some lineFeed
    · obtain ⟨bytes, rfl⟩ := List.head?_eq_some_iff.mp hfeed
      exact ⟨_, hreads [byte '\r', lineFeed] bytes rfl fun _ _ => rfl⟩
    · exact ⟨_, hreads [byte '\r'] bytes rfl fun other hother =>
        continuation_return (hother ▸ hfeed)⟩
  · by_cases hfeed : bytes.head? = some lineFeed
    · obtain ⟨bytes, rfl⟩ := List.head?_eq_some_iff.mp hfeed
      exact ⟨_, hreads [lineFeed] bytes rfl fun _ _ => rfl⟩
    · exact ⟨_, hreads [] bytes rfl fun other hother =>
        continuation_alone (hother ▸ hreturn) (hother ▸ hfeed)⟩

/-- Does the byte count as indentation? -/
def isIndent (b : UInt8) : Bool := b == byte ' ' || b == byte '\t' || b == 12

/-- Does nothing begin with the byte, so that a line with it opens and closes no block? -/
def isLineRest (b : UInt8) : Bool := b == lineFeed || b == byte '\r' || b == byte '#'

/-- The open blocks when a line is indented by a width. -/
def measured (width : Nat) (indents : List Nat) : List Nat :=
  if (indents.dropWhile (· > width)).head?.all (· < width) then
    width :: indents.dropWhile (· > width)
  else indents.dropWhile (· > width)

/-- The bytes of an indentation are skipped; whether they open or close blocks is up to the byte
behind them. -/
theorem indentation_eq (s : State) :
    s.indentation =
      if ((s.rest.dropWhile isIndent).head?).all isLineRest then
        .ok { s with rest := s.rest.dropWhile isIndent, lineStart := false }
      else if (measured (s.rest.takeWhile isIndent).length s.indents).length - 1 > maxIndents then
        .error ⟨.indents, s.line⟩
      else .ok { s with
        rest := s.rest.dropWhile isIndent
        lineStart := false
        indents := measured (s.rest.takeWhile isIndent).length s.indents } := by
  have hindent : (fun b => b == byte ' ' || b == byte '\t' || b == 12) = isIndent := rfl
  rw [State.indentation, hindent]
  cases s.rest.dropWhile isIndent <;> rfl

/-- Measuring an indentation reads its bytes. -/
theorem indentation_reads (h : s.indentation = .ok s') :
    ∃ read, State.Reads State.indentation s s' read := by
  have hcount : (s.rest.takeWhile isIndent).count lineFeed = 0 := count_takeWhile (by decide)
  have hmeasured : ∀ other, other.head? = (s.rest.dropWhile isIndent).head? →
      ({ s with rest := s.rest.takeWhile isIndent ++ other } : State).indentation =
        if (other.head?).all isLineRest then .ok { s with rest := other, lineStart := false }
        else if (measured (s.rest.takeWhile isIndent).length s.indents).length - 1 > maxIndents then
          .error ⟨.indents, s.line⟩
        else .ok { s with
          rest := other
          lineStart := false
          indents := measured (s.rest.takeWhile isIndent).length s.indents } := by
    intro other hother
    obtain ⟨htake, hdrop⟩ := takeWhile_append_again hother
    rw [indentation_eq, htake, hdrop]
  rw [indentation_eq] at h
  refine ⟨s.rest.takeWhile isIndent, ?_⟩
  split_ifs at h with hempty hdeep
  · cases h
    refine ⟨(List.takeWhile_append_dropWhile ..).symm, ?_, fun other hother => ?_⟩
    · rw [hcount, Nat.add_zero]
    · rw [hmeasured other hother, hother, if_pos hempty]
  · cases h
    refine ⟨(List.takeWhile_append_dropWhile ..).symm, ?_, fun other hother => ?_⟩
    · rw [hcount, Nat.add_zero]
    · rw [hmeasured other hother, hother, if_neg hempty, if_neg hdeep]

/-- What skips one byte reads it. -/
theorem reads_one {step : State → Except Violation State} (hrest : s.rest = b :: bytes)
    (hrest' : s'.rest = bytes) (hline : s'.line = s.line + [b].count lineFeed)
    (hstep : ∀ rest, step { s with rest := b :: rest } = .ok { s' with rest }) :
    State.Reads step s s' [b] where
  text := by rw [hrest, hrest']; rfl
  lines := hline
  again other _ := hstep other

/-! ## Steps -/

/-- **The tokens** that a byte within a line can begin. -/
inductive TokenAt (b : UInt8) : (State → Except Violation State) → Prop
  | lineEnd (hb : b = lineFeed) : TokenAt b (.ok ·.lineEnd)
  | continuation (hb : b = byte '\\') : TokenAt b (.ok ·.continuation)
  | comment (hb : b = byte '#') :
      TokenAt b fun s => .ok { s with rest := s.rest.dropWhile (· != lineFeed) }
  | string (hb : isQuote b = true) : TokenAt b (·.string false)
  | number (hb : b ≠ lineFeed) : TokenAt b fun s => .ok { s with rest := skipNumber false s.rest }
  | openBracket (hb : b ≠ lineFeed) : TokenAt b State.openBracket
  | closeBracket (hb : b ≠ lineFeed) : TokenAt b (.ok ·.closeBracket)
  | separator (hb : b ≠ lineFeed) :
      TokenAt b fun s => .ok { s with rest := s.rest.drop 1, chain := 0 }
  | colon (hb : b ≠ lineFeed) : TokenAt b State.colon
  | word (hb : isWordStart b = true) : TokenAt b State.word
  | operator (hb : b ≠ lineFeed) : TokenAt b State.operator
  | other (hb : b ≠ lineFeed) : TokenAt b fun s => .ok { s with rest := s.rest.drop 1 }

/-- The token that a byte within a line begins; a point begins a number in front of a digit. -/
def tokenAt (b : UInt8) (ahead : Option UInt8) : State → Except Violation State :=
  if b == lineFeed then (.ok ·.lineEnd)
  else if b == byte '\\' then (.ok ·.continuation)
  else if b == byte '#' then fun s => .ok { s with rest := s.rest.dropWhile (· != lineFeed) }
  else if isQuote b then (·.string false)
  else if isDigit b || (b == byte '.' && ahead.any isDigit) then
    fun s => .ok { s with rest := skipNumber false s.rest }
  else if isOpener b then State.openBracket
  else if isCloser b then (.ok ·.closeBracket)
  else if b == byte ',' || b == byte ';' then
    fun s => .ok { s with rest := s.rest.drop 1, chain := 0 }
  else if b == byte ':' then State.colon
  else if isWordStart b then State.word
  else if isOperatorByte b then State.operator
  else fun s => .ok { s with rest := s.rest.drop 1 }

/-- Within a line a step depends on two bytes only. -/
theorem step_eq_token (hstart : s.lineStart = false) (b : UInt8) :
    s.step b = tokenAt b (s.rest.drop 1).head? s := by
  simp only [State.step, tokenAt, hstart, Bool.false_eq_true, if_false, ite_apply]

/-- What a step does is decided by the byte in front and the one ahead. -/
theorem tokenAt_cases (b : UInt8) (ahead : Option UInt8) : TokenAt b (tokenAt b ahead) := by
  rw [tokenAt]
  by_cases hfeed : (b == lineFeed) = true
  · rw [if_pos hfeed]
    exact .lineEnd (beq_iff_eq.mp hfeed)
  have hne : b ≠ lineFeed := by simpa using hfeed
  rw [if_neg hfeed]
  by_cases hslash : (b == byte '\\') = true
  · rw [if_pos hslash]
    exact .continuation (beq_iff_eq.mp hslash)
  rw [if_neg hslash]
  by_cases hcomment : (b == byte '#') = true
  · rw [if_pos hcomment]
    exact .comment (beq_iff_eq.mp hcomment)
  rw [if_neg hcomment]
  by_cases hquote : isQuote b = true
  · rw [if_pos hquote]
    exact .string hquote
  rw [if_neg hquote]
  by_cases hnumber : (isDigit b || (b == byte '.' && ahead.any isDigit)) = true
  · rw [if_pos hnumber]
    exact .number hne
  rw [if_neg hnumber]
  by_cases hopen : isOpener b = true
  · rw [if_pos hopen]
    exact .openBracket hne
  rw [if_neg hopen]
  by_cases hclose : isCloser b = true
  · rw [if_pos hclose]
    exact .closeBracket hne
  rw [if_neg hclose]
  by_cases hcomma : (b == byte ',' || b == byte ';') = true
  · rw [if_pos hcomma]
    exact .separator hne
  rw [if_neg hcomma]
  by_cases hcolon : (b == byte ':') = true
  · rw [if_pos hcolon]
    exact .colon hne
  rw [if_neg hcolon]
  by_cases hword : isWordStart b = true
  · rw [if_pos hword]
    exact .word hword
  rw [if_neg hword]
  by_cases hoperator : isOperatorByte b = true
  · rw [if_pos hoperator]
    exact .operator hne
  · rw [if_neg hoperator]
    exact .other hne

/-- What a token reads. -/
theorem TokenAt.reads {token : State → Except Violation State} (htoken : TokenAt b token)
    (hrest : s.rest = b :: bytes) (h : token s = .ok s') :
    ∃ read, State.Reads token s s' read := by
  have hsame : b ≠ lineFeed → s.line = s.line + [b].count lineFeed := by
    intro hb
    simp [hb]
  cases htoken with
  | lineEnd hb =>
      cases h
      subst hb
      refine ⟨[lineFeed], reads_one hrest ?_ ?_ fun rest => ?_⟩
      all_goals simp only [State.lineEnd, hrest]
      all_goals split_ifs <;> rfl
  | continuation hb =>
      cases h
      subst hb
      exact continuation_reads hrest
  | comment hb =>
      cases h
      refine ⟨s.rest.takeWhile (· != lineFeed), ?_, ?_, fun other hother => ?_⟩
      · exact (List.takeWhile_append_dropWhile ..).symm
      · rw [count_takeWhile (by decide), Nat.add_zero]
      · rw [(takeWhile_append_again hother).2]
  | string hb => exact string_reads (by simp [hrest, hb]) h
  | number hb =>
      cases h
      obtain ⟨read, htext, hfeed, hagain⟩ := skipNumber_reads s.rest false
      refine ⟨read, htext, ?_, fun other hother => ?_⟩
      · rw [List.count_eq_zero.mpr hfeed, Nat.add_zero]
      · rw [hagain other hother]
  | openBracket hb =>
      obtain ⟨rfl, hroom, hdepth⟩ := openBracket_ok h
      refine ⟨[b], reads_one hrest (by simp [hrest]) (hsame hb) fun rest => ?_⟩
      have hbrackets : ¬ s.enclosing.length ≥ maxBrackets := by omega
      have hwithin : ¬ s.enclosing.length + s.enclosingSum + (s.chain + 1) > maxDepth := by omega
      simp only [State.openBracket, State.extend, if_neg hbrackets, if_neg hwithin,
        List.drop_succ_cons, List.drop_zero]
  | closeBracket hb =>
      cases h
      cases henclosing : s.enclosing with
      | nil =>
          refine ⟨[b], reads_one hrest ?_ ?_ fun rest => ?_⟩
          · simp [State.closeBracket, henclosing, hrest]
          · simp [State.closeBracket, henclosing, hb]
          · simp [State.closeBracket, henclosing]
      | cons outer enclosing =>
          refine ⟨[b], reads_one hrest ?_ ?_ fun rest => ?_⟩
          · simp [State.closeBracket, henclosing, hrest]
          · simp [State.closeBracket, henclosing, hb]
          · simp [State.closeBracket, henclosing]
  | separator hb =>
      cases h
      exact ⟨[b], reads_one hrest (by simp [hrest]) (hsame hb) fun _ => rfl⟩
  | colon hb => exact colon_reads hrest hb h
  | word hb => exact word_reads h
  | operator hb => exact operator_reads h
  | other hb =>
      cases h
      exact ⟨[b], reads_one hrest (by simp [hrest]) (hsame hb) fun _ => rfl⟩

/-- **A step reads some bytes and looks at no more than one byte behind them.** -/
theorem step_reads (hrest : s.rest = b :: bytes) (h : s.step b = .ok s') :
    ∃ read, State.Reads (·.step b) s s' read := by
  by_cases hstart : s.lineStart = true
  · rw [State.step, if_pos hstart] at h
    obtain ⟨read, hread⟩ := indentation_reads h
    refine ⟨read, hread.text, hread.lines, fun other hother => ?_⟩
    simp only [State.step, hstart, if_true]
    exact hread.again other hother
  · rw [Bool.not_eq_true] at hstart
    have hless := (step_moves hrest h).left_lt
    rw [step_eq_token hstart] at h
    obtain ⟨read, hread⟩ := (tokenAt_cases b _).reads hrest h
    refine ⟨read, hread.text, hread.lines, fun other hother => ?_⟩
    have hsome : read ≠ [] := by
      rintro rfl
      rw [State.left, State.left, hread.text, List.nil_append, hstart] at hless
      simp only [Bool.false_eq_true, if_false] at hless
      omega
    have hahead : ((read ++ other).drop 1).head? = (s.rest.drop 1).head? := by
      rw [head?_drop_one_append hsome hother, ← hread.text]
    rw [step_eq_token (s := { s with rest := read ++ other }) hstart, hahead]
    exact hread.again other hother

/-! ## Scans -/

/-- **What a scan has read can stand in front of other bytes** that begin like the rest, and it
comes to the same state; its line is one more than the line feeds read. -/
theorem Reached.exists_read (hs : Reached bytes s) :
    ∃ read, bytes = read ++ s.rest ∧ s.line = 1 + read.count lineFeed ∧
      ∀ other, other.head? = s.rest.head? → Reached (read ++ other) { s with rest := other } := by
  induction hs with
  | start => exact ⟨[], rfl, rfl, fun other _ => .start⟩
  | @step s s' b rest hs hrest hstep ih =>
      obtain ⟨front, htext, hline, hagain⟩ := ih
      obtain ⟨read, hread⟩ := step_reads hrest hstep
      refine ⟨front ++ read, ?_, ?_, fun other hother => ?_⟩
      · rw [htext, hread.text, List.append_assoc]
      · rw [hread.lines, hline, List.count_append, Nat.add_assoc]
      · have hbegins : (read ++ other).head? = s.rest.head? := by
          rw [head?_append_of_head? hother, ← hread.text]
        obtain ⟨tail, htail⟩ := List.head?_eq_some_iff.mp (hbegins.trans (by rw [hrest]; rfl))
        rw [List.append_assoc]
        exact (hagain (read ++ other) hbegins).step htail (hread.again other hother)

/-- What a scan makes of the bytes ahead, from a state on. -/
def State.verdict (s : State) : Option Violation :=
  match s.run s.left with
  | .ok _ => none
  | .error v => some v

/-- More fuel than what is left changes nothing. -/
theorem run_of_left_le {n : Nat} (h : s.left ≤ n) : s.run n = s.run s.left := by
  induction hleft : s.left using Nat.strong_induction_on generalizing s n with
  | _ left ih =>
      subst hleft
      cases hrest : s.rest with
      | nil => rw [run_done hrest, run_done hrest]
      | cons b bytes =>
          obtain ⟨m, hm⟩ : ∃ m, s.left = m + 1 := by
            refine ⟨s.left - 1, ?_⟩
            simp only [State.left, hrest, List.length_cons]
            omega
          obtain ⟨n, rfl⟩ : ∃ k, n = k + 1 := ⟨n - 1, by omega⟩
          rw [hm]
          cases hstep : s.step b with
          | error v => rw [run_violation hrest hstep, run_violation hrest hstep]
          | ok s' =>
              have hless := (step_moves hrest hstep).left_lt
              have hn : s'.run n = s'.run s'.left := ih s'.left hless (by omega) rfl
              have hm : s'.run m = s'.run s'.left := ih s'.left hless (by omega) rfl
              rw [run_step hrest hstep, run_step hrest hstep, hn, hm]

/-- At the end there is no violation. -/
theorem verdict_done (hrest : s.rest = []) : s.verdict = none := by
  rw [State.verdict, run_done hrest]

/-- A step that succeeds leaves the verdict to what follows. -/
theorem verdict_step (hrest : s.rest = b :: bytes) (hstep : s.step b = .ok s') :
    s.verdict = s'.verdict := by
  have hless := (step_moves hrest hstep).left_lt
  obtain ⟨m, hm⟩ : ∃ m, s.left = m + 1 := ⟨s.left - 1, by omega⟩
  rw [State.verdict, State.verdict, hm, run_step hrest hstep, run_of_left_le (by omega)]

/-- A step that fails is the verdict. -/
theorem verdict_violation (hrest : s.rest = b :: bytes) (hstep : s.step b = .error v) :
    s.verdict = some v := by
  obtain ⟨m, hm⟩ : ∃ m, s.left = m + 1 := by
    refine ⟨s.left - 1, ?_⟩
    simp only [State.left, hrest, List.length_cons]
    omega
  rw [State.verdict, hm, run_violation hrest hstep]

/-- **The scan of a text goes on from every state that it comes to.** -/
theorem Reached.check_eq_verdict (hs : Reached bytes s) : Nesting.check bytes = s.verdict := by
  obtain ⟨n, hn, hrun⟩ := hs.run_eq
  rw [Nesting.check, hrun, run_of_left_le hn]
  rfl

end SceneRender.Script.Nesting
