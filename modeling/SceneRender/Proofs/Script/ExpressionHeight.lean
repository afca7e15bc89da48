import SceneRender.Proofs.Script.Operands

/-!
# Expressions are no higher than their tokens weigh

Every reader of the grammar of expressions fits the height of what it yields: each node it
makes is paid for by a token of its own, such as an operator, a keyword, a bracket or a
comma.  The readers call one another with less fuel, so all are shown to fit at once, by
induction on the fuel.
-/

namespace SceneRender.Script

open Reader

/-- The height of an entry of a dictionary. -/
def entryHeight (e : Option Expr × Expr) : Nat := max (tallest Expr.height e.1.toList) e.2.height

/-- The keys of a dictionary are no higher than its entries. -/
theorem tallest_keys (es : List (Option Expr × Expr)) :
    tallest (fun e => tallest Expr.height e.1.toList) es ≤ tallest entryHeight es :=
  tallest_mono (fun _ => Nat.le_max_left _ _) es

/-- The values of a dictionary are no higher than its entries. -/
theorem tallest_entries (es : List (Option Expr × Expr)) :
    tallest (fun e => e.2.height) es ≤ tallest entryHeight es :=
  tallest_mono (fun _ => Nat.le_max_right _ _) es

/-- The readers of the grammar, with some fuel, fit. -/
structure GrammarFits (read : FieldReader) (n : Nat) : Prop where
  test : Fits (test read n) fun p => p.expr.height
  disjunction : Fits (disjunction read n) fun p => p.expr.height
  conjunction : Fits (conjunction read n) fun p => p.expr.height
  negation : Fits (negation read n) fun p => p.expr.height
  binary : ∀ level, Fits (binary read n level) fun p => p.expr.height
  factor : Fits (factor read n) fun p => p.expr.height
  power : Fits (power read n) fun p => p.expr.height
  atom : Fits (atom read n) fun p => p.expr.height
  group : ∀ start, Fits (group read n start) fun p => p.expr.height
  bracketed : ∀ start, Fits (bracketed read n start) fun p => p.expr.height
  braced : ∀ start, Fits (braced read n start) fun p => p.expr.height
  entries : ∀ {start first s k}, entryHeight first + s.weight ≤ k →
    After (entries read n start first) s fun p s' => p.expr.height + s'.weight ≤ k
  entry : Fits (entry read n) entryHeight
  namedTest : Fits (namedTest read n) fun e => e.expr.height
  element : Fits (element read n) fun e => e.expr.height
  clause : Fits (clause read n) fun c => c.height + 1
  condition : Fits (condition read n) Expr.height
  target : Fits (target read n) fun p => p.expr.height
  targetList : Fits (targetList read n) fun p => p.expr.height
  argument : Fits (argument read n) Argument.height
  index : Fits (index read n) Expr.height
  subscript : Fits (subscript read n) fun p => p.expr.height
  slice : ∀ {start lower s k}, tallest Expr.height lower.toList + 1 + s.weight ≤ k →
    After (slice read n start lower) s fun p s' => p.expr.height + s'.weight ≤ k
  yieldExpr : Fits (yieldExpr read n) fun p => p.expr.height
  starTest : Fits (starTest read n) fun p => p.expr.height
  testList : Fits (testList read n) fun p => p.expr.height

namespace GrammarFits

variable {read : FieldReader} {n : Nat} (ih : GrammarFits read n)

include ih

/-- Clauses pay for the node that holds them. -/
theorem clauses_after {s : TokenStream} (h : s.ahead.any startsClause = true) :
    After (many (Script.clause read n) startsClause n []) s fun clauses s' =>
      tallest Comprehension.height clauses + 1 + s'.weight ≤ s.weight ∧
        s'.weight + 1 ≤ s.weight :=
  many_more ih.clause h (Nat.le_of_eq (Nat.zero_add _))

/-! ## Operators -/

/-- A test fits if all levels below do. -/
theorem test_succ : Fits (Script.test read (n + 1)) fun p => p.expr.height := by
  intro s
  rw [Script.test]
  refine .offset fun start => .accept rfl (fun s₁ h₁ => ?_) ?_
  · have hstyle : ParamStyle.Fits ⟨false, exprOf (Script.test read n),
        exprOf (Script.test read n), .symbol .colon⟩ :=
      ⟨exprOf_fits ih.test, exprOf_fits ih.test⟩
    refine (ParamStyle.list_fits hstyle).bind fun params s₂ h₂ => .symbol fun s₃ h₃ =>
      ih.test.bind fun body s₄ h₄ => (params.checkNames_after _).bind fun _ s₅ h₅ => .pure ?_
    subst h₅
    simp only [Expr.height_lambda, WrittenParams.node_height]
    omega
  · refine ih.disjunction.bind fun body s₁ h₁ => .accept rfl (fun s₂ h₂ => ?_) (.pure h₁)
    refine ih.disjunction.bind fun condition s₃ h₃ => .keyword fun s₄ h₄ =>
      ih.test.bind fun orelse s₅ h₅ => .pure ?_
    simp only [Expr.height_ifElse]
    omega

/-- A disjunction fits if its operands do. -/
theorem disjunction_succ : Fits (Script.disjunction read (n + 1)) fun p => p.expr.height := by
  intro s
  rw [Script.disjunction]
  refine .offset fun start => ih.conjunction.bind fun first s₁ h₁ =>
    .at_ite (fun ht => ?_) (.pure h₁)
  refine (chainTail_more rfl (exprOf_fits ih.conjunction) ht h₁).bind fun values s₂ h₂ => .pure ?_
  simp only [Expr.height_boolOp]
  omega

/-- A conjunction fits if its operands do. -/
theorem conjunction_succ : Fits (Script.conjunction read (n + 1)) fun p => p.expr.height := by
  intro s
  rw [Script.conjunction]
  refine .offset fun start => ih.negation.bind fun first s₁ h₁ =>
    .at_ite (fun ht => ?_) (.pure h₁)
  refine (chainTail_more rfl (exprOf_fits ih.negation) ht h₁).bind fun values s₂ h₂ => .pure ?_
  simp only [Expr.height_boolOp]
  omega

/-- A negation fits if its operand does. -/
theorem negation_succ : Fits (Script.negation read (n + 1)) fun p => p.expr.height := by
  intro s
  rw [Script.negation]
  refine .offset fun start => .accept rfl (fun s₁ h₁ => ?_) ?_
  · refine ih.negation.bind fun operand s₂ h₂ => .pure ?_
    simp only [Expr.height_unary]
    omega
  · refine (ih.binary 1).bind fun left s₁ h₁ =>
      (compareTail_more (exprOf_fits (ih.binary 1))).bind fun r s₂ h₂ => ?_
    rcases h₂ with ⟨rfl, rfl⟩ | h₂
    · exact .pure h₁
    · refine .ite (fun _ => .pure ?_) fun _ => .pure ?_
      · dsimp only
        omega
      · simp only [Expr.height_compare]
        omega

/-- A binary operation fits if its operands do. -/
theorem binary_succ (level : Nat) :
    Fits (Script.binary read (n + 1) level) fun p => p.expr.height := by
  intro s
  rw [Script.binary]
  exact .offset fun start => ih.factor.bind fun left s₁ h₁ =>
    binaryTail_after (fun above => exprOf_fits (ih.binary above)) h₁

/-- A signed operand fits if the operand does. -/
theorem factor_succ : Fits (Script.factor read (n + 1)) fun p => p.expr.height := by
  intro s
  rw [Script.factor]
  refine .offset fun start => .peek ?_
  -- three tokens are signs, and each pays for its node
  have hsign {op : UnaryOp} {t : Token} (ht : s.ahead = some t) (hw : t.weight = 1) :
      After (do
        advance
        let operand ← Script.factor read n
        return (⟨start, .unary op operand.expr⟩ : Placed)) s
        fun p s' => p.expr.height + s'.weight ≤ s.weight := by
    refine .advance_known ht hw fun s₁ h₁ => ih.factor.bind fun operand s₂ h₂ => .pure ?_
    simp only [Expr.height_unary]
    omega
  dsimp only
  split
  case h_1 op hop =>
    split at hop
    case h_1 ht => exact hsign ht rfl
    case h_2 ht => exact hsign ht rfl
    case h_3 ht => exact hsign ht rfl
    case h_4 => cases hop
  case h_2 => exact ih.power s

/-- A power fits if its base and its exponent do. -/
theorem power_succ : Fits (Script.power read (n + 1)) fun p => p.expr.height := by
  intro s
  rw [Script.power]
  refine .offset fun start => ?_
  have hexponent {base : Placed} {s₁ : TokenStream} (h : base.expr.height + s₁.weight ≤ s.weight) :
      After (do
        if ← accept (.symbol .power) then
          let exponent ← Script.factor read n
          return (⟨start, .binary base.expr .pow exponent.expr⟩ : Placed)
        else return base) s₁ fun p s' => p.expr.height + s'.weight ≤ s.weight := by
    refine .accept rfl (fun s₂ h₂ => ih.factor.bind fun exponent s₃ h₃ => .pure ?_) (.pure h)
    simp only [Expr.height_binary]
    omega
  have harguments : Fits (argumentList (Script.argument read n) n) (tallest Argument.height) :=
    argumentList_fits ih.argument
  refine .accept rfl (fun s₁ h₁ => ?_) ?_
  · refine .offset fun inner => ih.atom.bind fun a s₂ h₂ =>
      (trailers_after harguments ih.index h₂).bind fun e s₃ h₃ => hexponent ?_
    show (Expr.await e.expr).height + s₃.weight ≤ s.weight
    rw [Expr.height_await]
    omega
  · exact .offset fun inner => ih.atom.bind fun a s₁ h₁ =>
      (trailers_after harguments ih.index h₁).bind fun e s₂ h₂ => hexponent h₂

/-- An atom fits if what it encloses does. -/
theorem atom_succ (hread : read.Fits) :
    Fits (Script.atom read (n + 1)) fun p => p.expr.height := by
  intro s
  rw [Script.atom]
  refine .offset fun start => .peek ?_
  split
  case h_1 word ht =>
    refine .advance_known ht rfl fun s₁ h₁ => .pure ?_
    simp only [Expr.height_name]
    omega
  case h_2 ht => exact (strings_after hread ht).bind fun e s₁ h₁ => .pure h₁
  case h_3 ht =>
    exact .advance_known ht rfl fun s₁ h₁ => (ih.group start s₁).mono fun p s' h => by omega
  case h_4 ht =>
    exact .advance_known ht rfl fun s₁ h₁ => (ih.bracketed start s₁).mono fun p s' h => by omega
  case h_5 ht =>
    exact .advance_known ht rfl fun s₁ h₁ => (ih.braced start s₁).mono fun p s' h => by omega
  case h_6 t _ _ _ _ _ ht =>
    split
    case h_1 c hc =>
      refine .advance_known ht (literal_weight hc) fun s₁ h₁ => .pure ?_
      simp only [Expr.height_constant]
      omega
    case h_2 => exact .unexpected
  case h_7 => exact .unexpected

/-! ## Brackets -/

/-- What stands in parentheses fits if its elements do. -/
theorem group_succ (start : Nat) :
    Fits (Script.group read (n + 1) start) fun p => p.expr.height := by
  intro s
  rw [Script.group]
  refine .offset fun inner => .peek ?_
  split
  case h_1 ht =>
    refine .advance_known ht rfl fun s₁ h₁ => .pure ?_
    simp only [Expr.height_tuple, tallest_nil]
    omega
  case h_2 ht =>
    refine ih.yieldExpr.bind fun e s₁ h₁ => .symbol fun s₂ h₂ => .pure ?_
    dsimp only
    omega
  case h_3 ht =>
    exact .advance_known ht rfl fun s₁ h₁ => (ih.binary 1).bind fun _ s₂ h₂ =>
      .symbol fun s₃ h₃ => rejectBefore_after
  case h_4 =>
    refine ih.element.bind fun first s₁ h₁ => .ahead (.ite (fun hc => ?_) fun _ => ?_)
    · have hahead : s₁.ahead.any startsClause = true := (Bool.and_eq_true_iff.mp hc).2
      refine (ih.clauses_after hahead).bind fun clauses s₂ h₂ => .symbol fun s₃ h₃ => .pure ?_
      simp only [Expr.height_generator]
      omega
    · refine (commaTail_first ih.element h₁).bind fun r s₂ h₂ => .symbol fun s₃ h₃ => ?_
      dsimp only
      split
      case h_1 e heq _ =>
        refine .ite (fun _ => rejectBefore_after) fun _ => .pure ?_
        rw [heq, tallest_cons] at h₂
        dsimp only
        omega
      case h_2 =>
        refine .pure ?_
        simp only [Expr.height_tuple, tallest_map]
        omega

/-- What stands in brackets fits if its elements do. -/
theorem bracketed_succ (start : Nat) :
    Fits (Script.bracketed read (n + 1) start) fun p => p.expr.height := by
  intro s
  rw [Script.bracketed]
  refine .accept rfl (fun s₁ h₁ => .pure ?_) (ih.element.bind fun first s₁ h₁ =>
    .ahead_ite (fun hc => ?_) ?_)
  · simp only [Expr.height_list, tallest_nil]
    omega
  · refine (ih.clauses_after hc).bind fun clauses s₂ h₂ => .symbol fun s₃ h₃ => .pure ?_
    simp only [Expr.height_listComp]
    omega
  · refine (commaTail_first ih.element h₁).bind fun r s₂ h₂ => .symbol fun s₃ h₃ => .pure ?_
    simp only [Expr.height_list, tallest_map]
    omega

/-- What stands in braces fits if its elements do. -/
theorem braced_succ (start : Nat) :
    Fits (Script.braced read (n + 1) start) fun p => p.expr.height := by
  intro s
  rw [Script.braced]
  refine .accept rfl (fun s₁ h₁ => .pure ?_) (.at_ite (fun _ => ?_) ?_)
  · simp only [Expr.height_dict, tallest_nil]
    omega
  · exact ih.entry.bind fun first s₁ h₁ => ih.entries h₁
  · refine ih.element.bind fun first s₁ h₁ => .acceptIf rfl (fun s₂ h₂ => ?_) ?_
    · refine ih.test.bind fun value s₃ h₃ => .ahead_ite (fun hc => ?_) ?_
      · refine (ih.clauses_after hc).bind fun clauses s₄ h₄ => .symbol fun s₅ h₅ => .pure ?_
        simp only [Expr.height_dictComp]
        omega
      · refine ih.entries ?_
        simp only [entryHeight, Option.toList_some, tallest_cons, tallest_nil]
        omega
    · refine .ahead (.ite (fun hc => ?_) fun _ => ?_)
      · have hahead : s₁.ahead.any startsClause = true := (Bool.and_eq_true_iff.mp hc).2
        refine (ih.clauses_after hahead).bind fun clauses s₂ h₂ => .symbol fun s₃ h₃ => .pure ?_
        simp only [Expr.height_setComp]
        omega
      · refine (commaTail_first ih.element h₁).bind fun r s₂ h₂ =>
          .symbol fun s₃ h₃ => .pure ?_
        simp only [Expr.height_set, tallest_map]
        omega

/-- The entries after the first one are paid for. -/
theorem entries_succ {start : Nat} {first : Option Expr × Expr} {s : TokenStream} {k : Nat}
    (h : entryHeight first + s.weight ≤ k) :
    After (Script.entries read (n + 1) start first) s fun p s' =>
      p.expr.height + s'.weight ≤ k := by
  rw [Script.entries]
  refine (commaTail_first ih.entry h).bind fun r s₁ h₁ => .symbol fun s₂ h₂ => .pure ?_
  have hkeys := tallest_keys r.1
  have hvalues := tallest_entries r.1
  simp only [Expr.height_dict, tallest_map]
  omega

/-- An entry of a dictionary fits if its key and its value do. -/
theorem entry_succ : Fits (Script.entry read (n + 1)) entryHeight := by
  intro s
  rw [Script.entry]
  refine .accept rfl (fun s₁ h₁ => ?_) ?_
  · refine (ih.binary 1).bind fun e s₂ h₂ => .pure ?_
    simp only [entryHeight, Option.toList_none, tallest_nil]
    omega
  · refine ih.test.bind fun key s₁ h₁ => .symbol fun s₂ h₂ => ih.test.bind fun value s₃ h₃ =>
      .pure ?_
    simp only [entryHeight, Option.toList_some, tallest_cons, tallest_nil]
    omega

/-! ## Elements and clauses -/

/-- A named expression fits if its value does. -/
theorem namedTest_succ : Fits (Script.namedTest read (n + 1)) fun e => e.expr.height := by
  intro s
  rw [Script.namedTest]
  refine .offset fun start => .peek (.peekSecond ?_)
  split
  case h_1 word ht hu =>
    have h₁ : s.tail.weight + 1 = s.weight := TokenStream.weight_tail ht
    refine .advance (.advance_known hu rfl fun s₂ h₂ => ih.test.bind fun value s₃ h₃ => .pure ?_)
    simp only [Expr.height_named, Expr.height_name]
    omega
  case h_2 =>
    refine ih.test.bind fun e s₁ h₁ => .pure ?_
    dsimp only
    omega

/-- An element fits if its expression does. -/
theorem element_succ : Fits (Script.element read (n + 1)) fun e => e.expr.height := by
  intro s
  rw [Script.element]
  refine .offset fun start => .accept rfl (fun s₁ h₁ => ?_) (ih.namedTest s)
  refine (ih.binary 1).bind fun e s₂ h₂ => .pure ?_
  simp only [Expr.height_starred]
  omega

/-- A comprehension clause fits with a level to spare. -/
theorem clause_succ : Fits (Script.clause read (n + 1)) fun c => c.height + 1 := by
  intro s
  rw [Script.clause]
  have hfor {isAsync : Bool} {s₁ : TokenStream} (h₁ : s₁.weight ≤ s.weight) : After (do
      keyword .for_
      let target ← Script.targetList read n
      keyword .in_
      let iter ← Script.disjunction read n
      let conditions ← many (Script.condition read n) (· == .keyword .if_) n []
      return Comprehension.mk isAsync target.expr iter.expr conditions) s₁
      fun c s' => c.height + 1 + s'.weight ≤ s.weight := by
    refine .keyword fun s₂ h₂ => ih.targetList.bind fun target s₃ h₃ => .keyword fun s₄ h₄ =>
      ih.disjunction.bind fun iter s₅ h₅ =>
        (many_after ih.condition nil_fits).bind fun conditions s₆ h₆ =>
          .pure ?_
    simp only [Comprehension.height, Comprehension.parts, tallest_cons]
    omega
  exact .accept rfl (fun s₁ h₁ => hfor (by omega)) (hfor (Nat.le_refl _))

/-- A condition fits if its test does. -/
theorem condition_succ : Fits (Script.condition read (n + 1)) Expr.height := by
  intro s
  rw [Script.condition]
  exact .keyword fun s₁ h₁ => ih.disjunction.bind fun e s₂ h₂ => .pure (by omega)

/-- A target fits if its expression does. -/
theorem target_succ : Fits (Script.target read (n + 1)) fun p => p.expr.height := by
  intro s
  rw [Script.target]
  refine .offset fun start => .accept rfl (fun s₁ h₁ => ?_) (ih.binary 1 s)
  refine (ih.binary 1).bind fun e s₂ h₂ => .pure ?_
  simp only [Expr.height_starred]
  omega

/-- A list of targets fits if the targets do. -/
theorem targetList_succ : Fits (Script.targetList read (n + 1)) fun p => p.expr.height := by
  intro s
  rw [Script.targetList]
  exact .offset fun start => .elements ih.target fun r s₁ h₁ => .pure (h₁ start)

/-! ## Arguments and indices -/

/-- An argument fits if its value does. -/
theorem argument_succ : Fits (Script.argument read (n + 1)) Argument.height := by
  intro s
  rw [Script.argument]
  refine .offset fun start => .peek (.peekSecond ?_)
  split
  case h_1 ht =>
    refine .advance_known ht rfl fun s₁ h₁ => ih.test.bind fun e s₂ h₂ => .pure ?_
    simp only [Argument.height]
    omega
  case h_2 ht =>
    refine .advance_known ht rfl fun s₁ h₁ => ih.test.bind fun e s₂ h₂ => .pure ?_
    simp only [Argument.height]
    omega
  case h_3 word ht hu =>
    have h₁ : s.tail.weight + 1 = s.weight := TokenStream.weight_tail ht
    refine .advance (.advance_known hu rfl fun s₂ h₂ => ih.test.bind fun e s₃ h₃ => .pure ?_)
    simp only [Argument.height]
    omega
  case h_4 =>
    refine ih.namedTest.bind fun e s₁ h₁ => .ahead_ite (fun hc => ?_) ?_
    · refine (ih.clauses_after hc).bind fun clauses s₂ h₂ => .pure ?_
      simp only [Argument.height, Expr.height_generator]
      omega
    · refine .pure ?_
      simp only [Argument.height]
      omega

/-- An index fits if its subscripts do. -/
theorem index_succ : Fits (Script.index read (n + 1)) Expr.height := by
  intro s
  rw [Script.index]
  exact .offset fun start => .elements ih.subscript fun r s₁ h₁ => .pure (h₁ start)

/-- A subscript fits if its bounds do. -/
theorem subscript_succ : Fits (Script.subscript read (n + 1)) fun p => p.expr.height := by
  intro s
  rw [Script.subscript]
  refine .offset fun start => .accept rfl (fun s₁ h₁ => ih.slice ?_) ?_
  · simp only [Option.toList_none, tallest_nil]
    omega
  · refine ih.element.bind fun e s₁ h₁ => .acceptIf rfl (fun s₂ h₂ => ih.slice ?_) (.pure h₁)
    simp only [Option.toList_some, tallest_cons, tallest_nil]
    omega

/-- A slice is paid for from its lower bound on. -/
theorem slice_succ {start : Nat} {lower : Option Expr} {s : TokenStream} {k : Nat}
    (h : tallest Expr.height lower.toList + 1 + s.weight ≤ k) :
    After (Script.slice read (n + 1) start lower) s fun p s' =>
      p.expr.height + s'.weight ≤ k := by
  rw [Script.slice]
  refine (optional_fits (exprOf_fits ih.test)).bind fun upper s₁ h₁ =>
    .accept rfl (fun s₂ h₂ => ?_) (.pure ?_)
  · refine (optional_fits (exprOf_fits ih.test)).bind fun step s₃ h₃ => .pure ?_
    simp only [Expr.height_slice]
    omega
  · simp only [Expr.height_slice, Option.toList_none, tallest_nil]
    omega

/-! ## Lists of expressions -/

/-- A yielded expression fits if its value does. -/
theorem yieldExpr_succ : Fits (Script.yieldExpr read (n + 1)) fun p => p.expr.height := by
  intro s
  rw [Script.yieldExpr]
  refine .offset fun start => .keyword fun s₁ h₁ => .accept rfl (fun s₂ h₂ => ?_) ?_
  · refine ih.test.bind fun e s₃ h₃ => .pure ?_
    simp only [Expr.height_yieldFrom]
    omega
  · refine (optional_fits (exprOf_fits ih.testList)).bind fun value s₂ h₂ => .pure ?_
    simp only [Expr.height_yield]
    omega

/-- A starred expression fits if its value does. -/
theorem starTest_succ : Fits (Script.starTest read (n + 1)) fun p => p.expr.height := by
  intro s
  rw [Script.starTest]
  refine .offset fun start => .accept rfl (fun s₁ h₁ => ?_) (ih.test s)
  refine (ih.binary 1).bind fun e s₂ h₂ => .pure ?_
  simp only [Expr.height_starred]
  omega

/-- A list of expressions fits if they do. -/
theorem testList_succ : Fits (Script.testList read (n + 1)) fun p => p.expr.height := by
  intro s
  rw [Script.testList]
  exact .offset fun start => .elements ih.starTest fun r s₁ h₁ => .pure (h₁ start)

end GrammarFits

/-- **The grammar of expressions fits**, whatever fuel it is given. -/
theorem grammarFits {read : FieldReader} (hread : read.Fits) (n : Nat) : GrammarFits read n := by
  induction n with
  | zero =>
      constructor
      case entries =>
        intro start first s k _
        rw [Script.entries]
        exact .unexpected
      case slice =>
        intro start lower s k _
        rw [Script.slice]
        exact .unexpected
      -- without fuel every reader refuses
      all_goals
        intros
        refine .of_unexpected ?_
        simp only [test, disjunction, conjunction, negation, binary, factor, power, atom, group,
          bracketed, braced, entry, namedTest, element, clause, condition, target, targetList,
          argument, index, subscript, yieldExpr, starTest, testList]
  | succ n ih =>
      exact {
        test := ih.test_succ
        disjunction := ih.disjunction_succ
        conjunction := ih.conjunction_succ
        negation := ih.negation_succ
        binary := ih.binary_succ
        factor := ih.factor_succ
        power := ih.power_succ
        atom := ih.atom_succ hread
        group := ih.group_succ
        bracketed := ih.bracketed_succ
        braced := ih.braced_succ
        entries := ih.entries_succ
        entry := ih.entry_succ
        namedTest := ih.namedTest_succ
        element := ih.element_succ
        clause := ih.clause_succ
        condition := ih.condition_succ
        target := ih.target_succ
        targetList := ih.targetList_succ
        argument := ih.argument_succ
        index := ih.index_succ
        subscript := ih.subscript_succ
        slice := ih.slice_succ
        yieldExpr := ih.yieldExpr_succ
        starTest := ih.starTest_succ
        testList := ih.testList_succ }

/-! ## Texts -/

/-- The reader for a whole text that is one expression. -/
def wholeExpression (read : FieldReader) (n : Nat) : Reader Expr := do
  let e ← testList read n
  let _ ← many advance (· == .newline) n []
  match ← peek with
  | none => return e.expr
  | some _ => unexpected

/-- A whole expression is paid for. -/
theorem wholeExpression_after {read : FieldReader} (hread : read.Fits) {n : Nat}
    (s : TokenStream) : After (wholeExpression read n) s fun e _ => e.height ≤ s.weight := by
  have hadvance : Fits advance fun _ => 0 := by
    intro s _ s' h
    obtain rfl := (Prod.mk.inj (Except.ok.inj h)).2
    exact Nat.le_trans (Nat.le_of_eq (Nat.zero_add _)) s.weight_tail_le
  refine (grammarFits hread n).testList.bind fun e s₁ h₁ =>
    (many_after hadvance nil_fits).bind fun _ s₂ h₂ => .peek ?_
  split
  · refine .pure ?_
    omega
  · exact .unexpected

/-- **An expression is no higher than its text is long**, and one. -/
theorem readExpression_height {read : FieldReader} (hread : read.Fits) {text : List Char}
    {offset : Nat} {e : Expr} (h : readExpression read text offset = .ok e) :
    e.height ≤ text.length + 1 := by
  unfold readExpression at h
  dsimp only at h
  split at h
  case h_1 e' s' hs =>
    obtain rfl := Except.ok.inj h
    refine Nat.le_trans (wholeExpression_after hread _ hs) ?_
    rw [TokenStream.weight, weight_decideSoft]
    exact weight_lex_le text offset
  case h_2 => cases h

/-- **Replacement fields fit**, however deep strings nest. -/
theorem readField_fits (depth : Nat) : FieldReader.Fits (readField depth) := by
  induction depth with
  | zero =>
      intro text offset e h
      cases h
  | succ depth ih =>
      intro text offset e h
      have hheight := readExpression_height ih h
      rw [List.length_append, List.length_cons, List.length_singleton] at hheight
      omega

end SceneRender.Script
