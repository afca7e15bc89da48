import SceneRender.Proofs.Script.SignChains

/-!
# Chains of conditions

Every `elif` is a statement in the branch taken when the conditions before it fail, so a
chain of them is as deep as it is long.  To the scan each is a line of its own, with no
bracket, no indentation and no operator.
-/

namespace SceneRender.Script

/-- A line with the first condition. -/
def ifLine : List Char := ['i', 'f', ' ', '1', ':', '1', '\n']

/-- A line with a further condition. -/
def elifLine : List Char := ['e', 'l', 'i', 'f', ' ', '1', ':', '1', '\n']

/-- Lines with further conditions. -/
def elifs : Nat → List Char
  | 0 => []
  | d + 1 => elifLine ++ elifs d

/-- A script of conditions, each tried when the ones before it fail. -/
def conditions (d : Nat) : List Char := ifLine ++ elifs d

/-- The statements that it is. -/
def nestedBranches : Nat → List Stmt
  | 0 => []
  | d + 1 => [.branch (negated 0) [.expr (negated 0)] (nestedBranches d)]

/-! ## The scan -/

namespace Nesting

/-- The state of the scan where a line begins, nothing being open. -/
def State.atLine (bytes : List UInt8) (line : Nat) : State := ⟨bytes, line, [], 0, 0, [0], true⟩

/-- A line with a condition leaves the counts as they were. -/
theorem Reached.elifs {bytes : List UInt8} {d line : Nat}
    (h : Reached bytes (.atLine ((elifs d).map byte) line)) :
    ∃ s, Reached bytes s ∧ s.rest = [] := by
  induction d generalizing line with
  | zero => exact ⟨_, h, rfl⟩
  | succ d ih =>
      have hline := h.step rfl rfl
      have hword := hline.step rfl rfl
      have hspace := hword.step rfl rfl
      have hone := hspace.step rfl rfl
      have hcolon := hone.step rfl rfl
      have hbody := hcolon.step rfl rfl
      exact ih (hbody.step rfl rfl)

/-- **No number of conditions exceeds a limit** of the scan. -/
theorem check_conditions (d : Nat) : Nesting.check ((conditions d).map byte) = none := by
  have hline : Reached ((conditions d).map byte) _ := Reached.start.step rfl rfl
  have hword := hline.step rfl rfl
  have hspace := hword.step rfl rfl
  have hone := hspace.step rfl rfl
  have hcolon := hone.step rfl rfl
  have hbody := hcolon.step rfl rfl
  exact check_eq_none_iff.mpr (Reached.elifs (hbody.step rfl rfl))

end Nesting

/-- The chain of conditions is one byte for each character. -/
theorem utf8_conditions (d : Nat) :
    utf8 (String.ofList (conditions d)) = (conditions d).map Nesting.byte := by
  have hif : ifLine.all (·.utf8Size == 1) = true := rfl
  have helif : elifLine.all (·.utf8Size == 1) = true := rfl
  have helifs : (elifs d).all (·.utf8Size == 1) = true := by
    induction d with
    | zero => rfl
    | succ d ih => rw [elifs, List.all_append, helif, ih, Bool.and_self]
  refine utf8_eq_map ?_
  rw [conditions, List.all_append, hif, helifs, Bool.and_self]

/-! ## Tokens -/

/-- The glyphs of a text of characters with one byte each. -/
def narrow (cs : List Char) : List Glyph := cs.map fun c => ⟨c, 1⟩

/-- The tokens of a condition and a body behind a keyword that stops at an offset. -/
def branchRest (stop : Nat) : List Located :=
  [⟨.int 1, stop + 1, stop + 2⟩, ⟨.symbol .colon, stop + 2, stop + 3⟩,
    ⟨.int 1, stop + 3, stop + 4⟩, ⟨.newline, stop + 4, stop + 5⟩]

/-- The tokens of a line with a condition and a body. -/
def branchTokens (word : Keyword) (pos stop : Nat) : List Located :=
  ⟨.keyword word, pos, stop⟩ :: branchRest stop

/-- The tokens of further conditions. -/
def elifTokens : Nat → Nat → List Located
  | 0, _ => []
  | d + 1, pos => branchTokens .elif_ pos (pos + 4) ++ elifTokens d (pos + 9)

/-- Each further condition has five tokens. -/
theorem length_elifTokens (d pos : Nat) : (elifTokens d pos).length = 5 * d := by
  induction d generalizing pos with
  | zero => rfl
  | succ d ih =>
      rw [elifTokens, List.length_append, ih, branchTokens, branchRest]
      simp only [List.length_cons, List.length_nil]
      omega

/-- Each further condition has nine characters. -/
theorem length_elifs (d : Nat) : (elifs d).length = 9 * d := by
  induction d with
  | zero => rfl
  | succ d ih =>
      rw [elifs, List.length_append, ih, elifLine]
      simp only [List.length_cons, List.length_nil]
      omega

/-- The text of the further conditions has narrow characters only. -/
theorem glyphs_elifs (d : Nat) : glyphs (elifs d) = narrow (elifs d) := by
  induction d with
  | zero => rfl
  | succ d ih => exact congrArg (narrow elifLine ++ ·) ih

/-- The tokens of the further conditions hold no soft keyword. -/
theorem decideSoft_elifTokens (lineStart : Bool) (d pos : Nat) :
    decideSoft lineStart (elifTokens d pos) = elifTokens d pos := by
  induction d generalizing lineStart pos with
  | zero => rfl
  | succ d ih => exact congrArg (branchTokens .elif_ pos (pos + 4) ++ ·) (ih _ (pos + 9))

/-- Six steps take a line. -/
theorem lexLoop_elifLine (n pos : Nat) (gs : List Glyph) (tokens : List Located) :
    lexLoop (n + 6) tokens (.atLine (narrow elifLine ++ gs) pos) =
      lexLoop n ((branchTokens .elif_ pos (pos + 4)).reverse ++ tokens) (.atLine gs (pos + 9)) :=
  rfl

/-- The first line of the chain gives the tokens of its branch. -/
theorem lexLoop_ifLine (n pos : Nat) (gs : List Glyph) (tokens : List Located) :
    lexLoop (n + 6) tokens (.atLine (narrow ifLine ++ gs) pos) =
      lexLoop n ((branchTokens .if_ pos (pos + 2)).reverse ++ tokens) (.atLine gs (pos + 7)) :=
  rfl

/-- **The lexer takes the conditions line by line.** -/
theorem lexLoop_elifs (n d pos : Nat) (tokens : List Located) :
    ∃ o, lexLoop (n + 1 + 6 * d) tokens (.atLine (narrow (elifs d)) pos) =
      ⟨tokens.reverse ++ elifTokens d pos, .done o⟩ := by
  induction d generalizing pos tokens with
  | zero =>
      have hend : lexStep (.atLine (narrow (elifs 0)) pos) = .ok ([], none) := rfl
      refine ⟨(tokens.head?.map (·.stop)).getD 0, ?_⟩
      rw [Nat.mul_zero, Nat.add_zero, lexLoop, hend]
      simp [elifTokens]
  | succ d ih =>
      obtain ⟨o, ho⟩ := ih (pos + 9) ((branchTokens .elif_ pos (pos + 4)).reverse ++ tokens)
      refine ⟨o, ?_⟩
      rw [show n + 1 + 6 * (d + 1) = n + 1 + 6 * d + 6 by omega, elifs, narrow, List.map_append]
      refine (lexLoop_elifLine _ pos _ tokens).trans (ho.trans ?_)
      rw [List.reverse_append, List.reverse_reverse, List.append_assoc, elifTokens]

/-- The tokens of a script of conditions. -/
theorem lex_conditions (d : Nat) :
    ∃ o, lex (conditions d) 0 = ⟨branchTokens .if_ 0 2 ++ elifTokens d 7, .done o⟩ := by
  obtain ⟨o, ho⟩ := lexLoop_elifs (3 * d + 1) d 7 (branchTokens .if_ 0 2).reverse
  refine ⟨o, ?_⟩
  have hglyphs : glyphs (conditions d) = narrow ifLine ++ narrow (elifs d) :=
    congrArg (narrow ifLine ++ ·) (glyphs_elifs d)
  have hcursor : lex (conditions d) 0 =
      lexLoop ((narrow ifLine ++ narrow (elifs d)).length + 1) []
        (.atLine (narrow ifLine ++ narrow (elifs d)) 0) := by
    rw [lex, hglyphs]
    rfl
  have hfuel : (narrow ifLine ++ narrow (elifs d)).length + 1 = 3 * d + 1 + 1 + 6 * d + 6 := by
    rw [List.length_append, narrow, narrow, List.length_map, List.length_map, length_elifs, ifLine]
    simp only [List.length_cons, List.length_nil]
    omega
  rw [hcursor, hfuel, lexLoop_ifLine, List.append_nil, ho, List.reverse_reverse]

/-! ## The reader -/

variable {read : FieldReader} {n m pos stop o : Nat} {us : List Located} {e : Ending}

/-- **A condition and its body**, as readers of branches take them behind the keyword. -/
theorem branch_one {α : Type} (f : Expr → List Stmt → Reader α) :
    (do let condition ← conditionExpr read (n + 9)
        Reader.symbol .colon
        let body ← block read (m + 11)
        f condition body) ⟨branchRest stop ++ us, e⟩ =
      f (negated 0) [.expr (negated 0)] ⟨us, e⟩ := by
  have hcondition : factor read (n + 2 + 1) ⟨branchRest stop ++ us, e⟩ = _ :=
    factor_number .colon
  have hnamed : namedTest read (n + 9) ⟨branchRest stop ++ us, e⟩ =
      .ok (⟨stop + 1, negated 0, .plain⟩, ⟨(branchRest stop).tail ++ us, e⟩) := by
    rw [namedTest]
    exact (Reader.bind_ok (test_alone (.number 1) .colon hcondition)).trans rfl
  have hbody : factor read (m + 2 + 1) ⟨(branchRest stop).drop 2 ++ us, e⟩ = _ :=
    factor_number .newline
  have hblock : block read (m + 11) ⟨(branchRest stop).drop 2 ++ us, e⟩ =
      .ok ([.expr (negated 0)], ⟨us, e⟩) := by
    rw [block]
    exact smallLine_alone (.number 1) hbody
  have hfirst : conditionExpr read (n + 9) ⟨branchRest stop ++ us, e⟩ =
      .ok (negated 0, ⟨(branchRest stop).tail ++ us, e⟩) := (Reader.bind_ok hnamed).trans rfl
  exact (Reader.bind_ok hfirst).trans (Reader.bind_ok hblock)

/-- **Every line is one more branch.** -/
theorem elifTail_elifTokens (d : Nat) (branches : List (Expr × List Stmt)) :
    elifTail read (block read (m + 11)) (d + n + 10) branches ⟨elifTokens d pos, .done o⟩ =
      .ok (branches.reverse ++ List.replicate d (negated 0, [.expr (negated 0)]),
        ⟨[], .done o⟩) := by
  induction d generalizing pos branches with
  | zero =>
      rw [elifTail]
      exact congrArg (fun l => Except.ok (l, _)) (List.append_nil _).symm
  | succ d ih =>
      rw [show d + 1 + n + 10 = d + n + 1 + 9 + 1 by omega, elifTail]
      refine (branch_one _).trans ?_
      rw [show d + n + 1 + 9 = d + n + 10 by omega, ih, List.reverse_cons, List.append_assoc,
        List.replicate_succ]
      rfl

/-- A chain of alike conditions is nested as deep as it is long. -/
theorem branchChain_replicate (d : Nat) :
    branchChain [] (List.replicate d (negated 0, [.expr (negated 0)])) = nestedBranches d := by
  induction d with
  | zero => rfl
  | succ d ih => rw [List.replicate_succ, branchChain, ih, nestedBranches]

/-- The tokens of the chain are read as the nested branches. -/
theorem compound_conditions (d : Nat) :
    compound read (d + n + 11) (block read (d + n + 11))
        ⟨branchTokens .if_ pos stop ++ elifTokens d (stop + 5), .done o⟩ =
      .ok (.branch (negated 0) [.expr (negated 0)] (nestedBranches d), ⟨[], .done o⟩) := by
  have htail : elifTail read (block read (d + n + 11)) (d + n + 11)
      [(negated 0, [.expr (negated 0)])] ⟨elifTokens d (stop + 5), .done o⟩ =
      .ok ((negated 0, [.expr (negated 0)]) :: List.replicate d (negated 0, [.expr (negated 0)]),
        ⟨[], .done o⟩) :=
    elifTail_elifTokens (n := n + 1) d _
  have helse : optionalBlock .else_ (block read (d + n + 11)) ⟨[], .done o⟩ =
      .ok ([], ⟨[], .done o⟩) := rfl
  refine (branch_one (n := d + n + 2) _).trans ((Reader.bind_ok htail).trans ?_)
  refine (Reader.bind_ok helse).trans ?_
  rw [branchChain, branchChain_replicate]
  rfl

/-- **Every further condition lies in the branch before it.** -/
theorem readScript_conditions (d : Nat) :
    readScript (conditions d) = .ok (nestedBranches (d + 1)) := by
  obtain ⟨o, hlex⟩ := lex_conditions d
  have hsoft : decideSoft true (branchTokens .if_ 0 2 ++ elifTokens d 7) =
      branchTokens .if_ 0 2 ++ elifTokens d 7 :=
    congrArg (branchTokens .if_ 0 2 ++ ·) (decideSoft_elifTokens _ d 7)
  have hfuel : fuelFor (branchTokens .if_ 0 2 ++ elifTokens d 7) =
      d + (159 * d + 212) + 11 + 1 := by
    rw [fuelFor, List.length_append, length_elifTokens, branchTokens, branchRest]
    simp only [List.length_cons, List.length_nil]
    omega
  have hscript (read : FieldReader) :
      scriptTail read (d + (159 * d + 212) + 11 + 1) []
        ⟨branchTokens .if_ 0 2 ++ elifTokens d 7, .done o⟩ =
      .ok (nestedBranches (d + 1), ⟨[], .done o⟩) := by
    rw [scriptTail]
    exact (Reader.bind_ok (compound_conditions d)).trans rfl
  rw [readScript, hlex]
  dsimp only
  rw [hsoft, hfuel, hscript]

end SceneRender.Script
