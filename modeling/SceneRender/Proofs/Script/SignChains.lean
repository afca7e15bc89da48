import Mathlib.Data.List.Basic
import SceneRender.Proofs.Script.Reading
import SceneRender.Proofs.Script.Scan
import SceneRender.Script.Validation

/-!
# Chains of signs

The shortest way to a deep expression is a number with signs before it: every sign is a
node around the rest.  The scan counts the signs, so it passes as many as expressions may
nest.  It does not count them behind a comment that a carriage return ends, because to the
scan a comment goes on to the next line feed.  The reader knows both line ends, and reads
the same expression either way.
-/

namespace SceneRender.Script

/-- A one with minus signs before it. -/
def signs (d : Nat) : List Char := List.replicate d '-' ++ ['1']

/-- The expression that it is. -/
def negated : Nat → Expr
  | 0 => .constant (.int 1)
  | d + 1 => .unary .minus (negated d)

/-! ## Bytes -/

/-- The bytes of a text are those of its characters. -/
theorem utf8_ofList (cs : List Char) :
    utf8 (String.ofList cs) = cs.flatMap String.utf8EncodeChar := by
  rw [utf8, String.toUTF8, String.toByteArray_ofList]
  simp [List.utf8Encode]

/-- A text of characters with one byte each is as many bytes. -/
theorem utf8_eq_map {cs : List Char} (h : cs.all (·.utf8Size == 1) = true) :
    utf8 (String.ofList cs) = cs.map Nesting.byte := by
  rw [utf8_ofList, List.map_eq_flatMap]
  refine List.flatMap_congr fun c hc => String.utf8EncodeChar_eq_singleton ?_
  exact eq_of_beq (List.all_eq_true.mp h c hc)

/-- The bytes beyond the first of a character are beyond ASCII, and so is the first of a
character that has more than one.  So an ASCII byte is its own character. -/
theorem eq_of_byte_mem_utf8EncodeChar {a c : Char} (ha : a.toNat < 128)
    (h : Nesting.byte a ∈ String.utf8EncodeChar c) : c = a := by
  have hbyte {n : Nat} (heq : Nesting.byte a = UInt8.ofNat n) : n % 256 = a.val.toNat := by
    have hval : (Nesting.byte a).toNat = n % 256 := by rw [heq, UInt8.toNat_ofNat']
    rw [← hval]
    exact Nat.mod_eq_of_lt (Nat.lt_trans ha (by decide))
  have hsmall : a.val.toNat < 128 := ha
  simp only [String.utf8EncodeChar] at h
  split_ifs at h with hascii <;> simp only [List.mem_cons, List.not_mem_nil, or_false] at h
  · have hval := hbyte h
    refine Char.toNat_inj.mp ?_
    show c.val.toNat = a.val.toNat
    omega
  · rcases h with h | h <;> have hval := hbyte h <;> omega
  · rcases h with h | h | h <;> have hval := hbyte h <;> omega
  · rcases h with h | h | h | h <;> have hval := hbyte h <;> omega

/-- Only a line feed is written with the byte of one. -/
theorem lineFeed_not_mem_utf8 {cs : List Char} (h : '\n' ∉ cs) :
    lineFeed ∉ utf8 (String.ofList cs) := by
  rw [utf8_ofList, List.mem_flatMap]
  rintro ⟨c, hc, hfeed⟩
  exact h (eq_of_byte_mem_utf8EncodeChar (a := '\n') (by decide) hfeed ▸ hc)

/-! ## The scan -/

namespace Nesting

variable {s s' : State} {bytes : List UInt8}

/-- The state behind the indentation of a first line that has none. -/
def State.begun (bytes : List UInt8) : State := ⟨bytes, 1, [], 0, 0, [0], false⟩

/-- **Behind a comment nothing is scanned** up to the next line feed. -/
theorem check_comment (h : lineFeed ∉ bytes) : Nesting.check (byte '#' :: bytes) = none := by
  have hbegun : Reached (byte '#' :: bytes) (.begun (byte '#' :: bytes)) :=
    Reached.start.step rfl rfl
  have hskip : (byte '#' :: bytes).dropWhile (· != lineFeed) = [] := by
    rw [List.dropWhile_eq_nil_iff]
    intro b hb
    rw [bne_iff_ne]
    rintro rfl
    rcases List.mem_cons.mp hb with hb | hb
    · exact absurd hb (by decide)
    · exact h hb
  have hend : Reached (byte '#' :: bytes) _ := hbegun.step rfl rfl
  exact check_eq_none_iff.mpr ⟨_, hend, hskip⟩

/-- The bytes of a one with signs before it. -/
def signBytes (d : Nat) : List UInt8 := List.replicate d (byte '-') ++ [byte '1']

/-- The signs are one run of operators, which lengthens the chain by as many levels. -/
theorem operator_signs (d : Nat) :
    (State.begun (signBytes (d + 1))).operator = (State.begun [byte '1']).extend (d + 1) := by
  have hsign : ∀ b ∈ List.replicate (d + 1) (byte '-'), isOperatorByte b = true := by
    intro b hb
    rw [List.eq_of_mem_replicate hb]
    decide
  have hrun : (signBytes (d + 1)).takeWhile isOperatorByte = List.replicate (d + 1) (byte '-') := by
    rw [signBytes, List.takeWhile_append_of_pos hsign]
    simp [show isOperatorByte (byte '1') = false by decide]
  have hdrop : (signBytes (d + 1)).dropWhile isOperatorByte = [byte '1'] := by
    rw [signBytes, List.dropWhile_append_of_pos hsign]
    rfl
  have hother : ¬ (List.replicate (d + 1) (byte '-') == [byte '=']) = true := by
    have hbytes : byte '-' ≠ byte '=' := by decide
    simp [List.replicate_succ, hbytes]
  rw [State.operator, State.begun, hrun, hdrop, List.length_replicate, if_neg hother, State.begun]

/-- **The scan counts the signs of a chain**: it passes as many as expressions may nest. -/
theorem check_signBytes (d : Nat) : Nesting.check (signBytes d) = none ↔ d ≤ maxDepth := by
  cases d with
  | zero => decide
  | succ d =>
      have hbegun : Reached (signBytes (d + 1)) (.begun (signBytes (d + 1))) :=
        Reached.start.step rfl rfl
      have hstep : (State.begun (signBytes (d + 1))).step (byte '-') =
          (State.begun [byte '1']).extend (d + 1) := operator_signs d
      have hcount : (State.begun [byte '1']).extend (d + 1) =
          if 0 + 0 + (0 + (d + 1)) > maxDepth then .error ⟨.depth, 1⟩
          else .ok { State.begun [byte '1'] with chain := 0 + (d + 1) } := rfl
      by_cases hdepth : d + 1 ≤ maxDepth
      · rw [hcount, if_neg (by omega)] at hstep
        have hone : Reached (signBytes (d + 1)) _ := hbegun.step rfl hstep
        have hend : Reached (signBytes (d + 1)) _ := hone.step rfl rfl
        exact ⟨fun _ => hdepth, fun _ => check_eq_none_iff.mpr ⟨_, hend, rfl⟩⟩
      · rw [hcount, if_pos (by omega)] at hstep
        rw [hbegun.check_eq_some rfl hstep]
        exact ⟨nofun, fun h => absurd h hdepth⟩

end Nesting

/-- The signs are one byte each. -/
theorem utf8_signs (d : Nat) : utf8 (String.ofList (signs d)) = Nesting.signBytes d := by
  have hsigns : (signs d).all (·.utf8Size == 1) = true := by
    induction d with
    | zero => rfl
    | succ d ih => exact ih
  rw [utf8_eq_map hsigns, signs, List.map_append, List.map_replicate]
  rfl

/-! ## Tokens -/

/-- The state of the lexer within a line, no block or bracket being open. -/
def LexState.within (gs : List Glyph) (pos : Nat) : LexState := ⟨⟨gs, pos⟩, 0, false, []⟩

/-- The state of the lexer where a line begins, no block or bracket being open. -/
def LexState.atLine (gs : List Glyph) (pos : Nat) : LexState := ⟨⟨gs, pos⟩, 0, true, []⟩

/-- The glyphs of a one with signs before it. -/
def signGlyphs (d : Nat) : List Glyph := List.replicate d ⟨'-', 1⟩ ++ [⟨'1', 1⟩]

/-- The tokens of a line that is a one with signs before it. -/
def signTokens : Nat → Nat → List Located
  | 0, pos => [⟨.int 1, pos, pos + 1⟩, ⟨.newline, pos + 1, pos + 1⟩]
  | d + 1, pos => ⟨.symbol .minus, pos, pos + 1⟩ :: signTokens d (pos + 1)

/-- The signs are one character each. -/
theorem glyphs_signs (d : Nat) : glyphs (signs d) = signGlyphs d := by
  induction d with
  | zero => rfl
  | succ d ih => exact congrArg (⟨'-', 1⟩ :: ·) ih

/-- There is one character for each sign, and the number. -/
theorem length_signGlyphs (d : Nat) : (signGlyphs d).length = d + 1 := by
  rw [signGlyphs, List.length_append, List.length_replicate, List.length_singleton]

/-- There is one token for each sign, and two at the end. -/
theorem length_signTokens (d pos : Nat) : (signTokens d pos).length = d + 2 := by
  induction d generalizing pos with
  | zero => rfl
  | succ d ih => exact congrArg (· + 1) (ih (pos + 1))

/-- No soft keyword is among the signs. -/
theorem decideSoft_signTokens (lineStart : Bool) (d pos : Nat) :
    decideSoft lineStart (signTokens d pos) = signTokens d pos := by
  induction d generalizing lineStart pos with
  | zero => rfl
  | succ d ih => exact congrArg (⟨.symbol .minus, pos, pos + 1⟩ :: ·) (ih _ (pos + 1))

/-- A sign is read as a token. -/
theorem lexStep_sign (d pos : Nat) :
    lexStep (.within (signGlyphs (d + 1)) pos) =
      .ok ([⟨.symbol .minus, pos, pos + 1⟩], some (.within (signGlyphs d) (pos + 1))) := by
  cases d <;> rfl

/-- **The lexer takes the signs one by one.** -/
theorem lexLoop_signs (n d pos : Nat) (tokens : List Located) :
    lexLoop (n + 2 + d) tokens (.within (signGlyphs d) pos) =
      ⟨tokens.reverse ++ signTokens d pos, .done (pos + d + 1)⟩ := by
  induction d generalizing pos tokens with
  | zero =>
      have hone : lexStep (.within (signGlyphs 0) pos) =
          .ok ([⟨.int 1, pos, pos + 1⟩], some (.within [] (pos + 1))) := rfl
      have hend : lexStep (.within [] (pos + 1)) =
          .ok ([⟨.newline, pos + 1, pos + 1⟩], none) := rfl
      rw [Nat.add_zero, lexLoop, hone]
      dsimp only
      rw [lexLoop, hend]
      simp [signTokens]
  | succ d ih =>
      rw [← Nat.add_assoc, lexLoop, lexStep_sign]
      dsimp only
      rw [ih, show pos + 1 + d + 1 = pos + (d + 1) + 1 by omega]
      simp [signTokens]

/-- A step where a line begins goes on from the first lexeme of the line. -/
theorem lexLoop_atLine {n : Nat} {gs : List Glyph} {pos : Nat} {s : LexState}
    (h : lexStep s = lexStep (.within gs pos)) :
    lexLoop (n + 1) [] s = lexLoop (n + 1) [] (.within gs pos) := by
  rw [lexLoop, h, ← lexLoop]

/-- The tokens of a line of signs at the beginning of a text. -/
theorem lex_signs (d : Nat) : lex (signs d) 0 = ⟨signTokens d 0, .done (d + 1)⟩ := by
  have hline : lexStep (.atLine (signGlyphs d) 0) = lexStep (.within (signGlyphs d) 0) := by
    cases d <;> rfl
  have hcursor : lex (signs d) 0 =
      lexLoop ((signGlyphs d).length + 1) [] (.atLine (signGlyphs d) 0) := by
    rw [lex, glyphs_signs]
    cases d <;> rfl
  rw [hcursor, length_signGlyphs, lexLoop_atLine hline, show d + 1 + 1 = 0 + 2 + d by omega,
    lexLoop_signs]
  simp

/-- **A comment does not reach beyond a carriage return**: the signs behind it are tokens. -/
theorem lex_comment_signs (d : Nat) :
    lex ('#' :: '\r' :: signs d) 0 = ⟨signTokens d 2, .done (d + 3)⟩ := by
  let gs : List Glyph := ⟨'#', 1⟩ :: ⟨'\n', 1⟩ :: signGlyphs d
  have hglyphs : glyphs ('#' :: '\r' :: signs d) = gs := by
    cases d with
    | zero => rfl
    | succ d => exact congrArg (⟨'#', 1⟩ :: ⟨'\n', 1⟩ :: ·) (glyphs_signs (d + 1))
  have hline : lexStep (.atLine gs 0) = lexStep (.within (signGlyphs d) 2) := by
    cases d <;> rfl
  have hcursor : lex ('#' :: '\r' :: signs d) 0 = lexLoop (gs.length + 1) [] (.atLine gs 0) := by
    rw [lex, hglyphs]
    rfl
  have hfuel : gs.length + 1 = 2 + d + 1 + 1 := by
    simp only [gs, List.length_cons, length_signGlyphs]
    omega
  rw [hcursor, hfuel, lexLoop_atLine hline, show 2 + d + 1 + 1 = 2 + 2 + d by omega,
    lexLoop_signs, show 2 + d + 1 = d + 3 by omega]
  rfl

/-! ## The reader -/

/-- **Every sign is a node** around what the reader makes of the rest. -/
theorem factor_signs (read : FieldReader) (n d pos : Nat) (e : Ending) :
    factor read (d + n + 3) ⟨signTokens d pos, e⟩ =
      .ok (⟨pos, negated d⟩, ⟨[⟨.newline, pos + d + 1, pos + d + 1⟩], e⟩) := by
  induction d generalizing pos with
  | zero => exact factor_number .newline
  | succ d ih =>
      rw [show d + 1 + n + 3 = d + n + 3 + 1 by omega, factor]
      refine (Reader.bind_ok (ih (pos + 1))).trans ?_
      rw [show pos + 1 + d + 1 = pos + (d + 1) + 1 by omega]
      rfl

/-- A script whose tokens are those of a line of signs is that one expression. -/
theorem readScript_of_lex {text : List Char} {d pos o : Nat}
    (h : lex text 0 = ⟨signTokens d pos, .done o⟩) : readScript text = .ok [.expr (negated d)] := by
  have hfuel : fuelFor (signTokens d pos) = d + (31 * d + 116) + 3 + 8 + 1 := by
    rw [fuelFor, length_signTokens]
    omega
  have hsigns (read : FieldReader) (e : Ending) :
      factor read (d + (31 * d + 116) + 3 + 1) ⟨signTokens d pos, e⟩ =
        .ok (⟨pos, negated d⟩, ⟨[⟨.newline, pos + d + 1, pos + d + 1⟩], e⟩) :=
    factor_signs read (31 * d + 117) d pos e
  have hscript (read : FieldReader) :
      scriptTail read (d + (31 * d + 116) + 3 + 8 + 1) [] ⟨signTokens d pos, .done o⟩ =
        .ok ([.expr (negated d)], ⟨[], .done o⟩) := by
    rw [scriptTail]
    cases d with
    | zero => exact (Reader.bind_ok (smallLine_alone (.number 1) (hsigns read _))).trans rfl
    | succ d => exact (Reader.bind_ok (smallLine_alone .minus (hsigns read _))).trans rfl
  rw [readScript, h]
  dsimp only
  rw [decideSoft_signTokens, hfuel, hscript]

/-- A line of signs is read as nested negations. -/
theorem readScript_signs (d : Nat) : readScript (signs d) = .ok [.expr (negated d)] :=
  readScript_of_lex (lex_signs d)

/-- Signs behind a comment that ends in a carriage return are read, too. -/
theorem readScript_comment_signs (d : Nat) :
    readScript ('#' :: '\r' :: signs d) = .ok [.expr (negated d)] :=
  readScript_of_lex (lex_comment_signs d)

end SceneRender.Script
