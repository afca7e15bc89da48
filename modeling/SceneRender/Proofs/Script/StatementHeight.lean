import SceneRender.Proofs.Script.PatternHeight
import SceneRender.Script.Grammar.Statement

/-!
# Statements are no higher than their tokens weigh

A statement of a line of its own is paid for together with the end of its line, and one
with a block by its keyword and its colon.  A chain of conditions, whose branches stand one
within the other, is paid for branch by branch.  So the statements of a script are no
higher than its tokens weigh, and a node lies no deeper than the script is long, and one.
-/

namespace SceneRender.Script

open Reader

variable {read : FieldReader} {s : TokenStream} {n k : Nat}

/-! ## Assignments -/

/-- What is assigned is paid for. -/
theorem assigned_fits (hread : read.Fits) : Fits (assigned read n) Expr.height := fun s =>
  .at_ite (fun _ => exprOf_fits (grammarFits hread n).yieldExpr s)
    (exprOf_fits (grammarFits hread n).testList s)

/-- The targets of an assignment are paid for. -/
theorem assignTail_after (hread : read.Fits) {targets : List Expr} {value : Expr}
    (htargets : tallest Expr.height targets + s.weight ≤ k)
    (hvalue : value.height + s.weight ≤ k) :
    After (assignTail read n targets value) s fun t s' => t.height + s'.weight ≤ k + 1 := by
  induction n generalizing targets value s with
  | zero => exact .unexpected
  | succ n ih =>
      rw [assignTail]
      refine .accept rfl (fun s₁ h₁ => (assigned_fits hread).bind fun next s₂ h₂ => ih ?_ ?_) ?_
      · rw [tallest_cons]
        omega
      · omega
      · refine .pure ?_
        rw [Stmt.height_assign, tallest_reverse]
        omega

/-- An operator that assigns weighs one. -/
theorem augmented_weight {t : Token} {op : BinaryOp} (h : augmented? t = some op) :
    t.weight = 1 := by
  cases t <;> first | rfl | cases h

/-- A statement that begins with an expression, short of the end of its line. -/
theorem expressionStmt_after (hread : read.Fits) :
    After (expressionStmt read n) s fun t s' => t.height + s'.weight ≤ s.weight + 1 := by
  have hgrammar := grammarFits hread n
  refine .at? (.offset fun start => .elements hgrammar.starTest fun r s₁ h₁ => .peek ?_)
  have he := h₁ start
  obtain ⟨items, trailing⟩ := r
  dsimp only at he ⊢
  split
  case h_1 ht =>
    refine .advance_known ht rfl fun s₂ h₂ => (assigned_fits hread).bind fun value s₃ h₃ =>
      assignTail_after hread ?_ ?_
    · rw [tallest_cons, tallest_nil]
      omega
    · omega
  case h_2 ht =>
    refine .ite (fun _ => ?_) fun _ => .unexpected
    refine .advance_known ht rfl fun s₂ h₂ => (exprOf_fits hgrammar.test).bind
      fun typing s₃ h₃ => .accept_ite rfl (fun s₄ h₄ => ?_) (.pure ?_)
    · refine (assigned_fits hread).bind fun value s₅ h₅ => .pure ?_
      simp only [Stmt.height_annAssign, Option.toList_some, tallest_cons, tallest_nil]
      omega
    · simp only [Stmt.height_annAssign, Option.toList_none, tallest_nil]
      omega
  case h_3 t _ _ ht =>
    split
    case h_1 op hop =>
      refine .advance_known ht (augmented_weight hop) fun s₂ h₂ =>
        (assigned_fits hread).bind fun value s₃ h₃ => .pure ?_
      rw [Stmt.height_augAssign]
      omega
    case h_2 =>
      refine .pure ?_
      rw [Stmt.height_expr]
      omega
  case h_4 =>
    refine .pure ?_
    rw [Stmt.height_expr]
    omega

/-! ## Imports and type parameters -/

/-- A dotted name has no height. -/
theorem dottedName_fits : Fits (dottedName n) fun _ => 0 := by
  intro s
  refine identifier_fits.bind fun first s₁ h₁ =>
    (chainTail_after rfl identifier_fits nil_fits).bind
      fun rest s₂ h₂ => .pure ?_
  dsimp only
  omega

/-- An imported name has no height. -/
theorem importAlias_fits {name : Reader String} (hname : Fits name fun _ => 0) :
    Fits (importAlias name) fun _ => 0 := by
  intro s
  refine hname.bind fun word s₁ h₁ => .accept rfl (fun s₂ h₂ => ?_) (.pure h₁)
  refine identifier_fits.bind fun as s₃ h₃ => .pure ?_
  dsimp only
  omega

/-- The dots of an import have no height. -/
theorem importDots_after {dots : Nat} (h : s.weight ≤ k) :
    After (importDots n dots) s fun _ s' => s'.weight ≤ k := by
  induction n generalizing dots s with
  | zero => exact .unexpected
  | succ n ih =>
      rw [importDots]
      exact .accept rfl (fun s₁ h₁ => ih (by omega)) <|
        .accept rfl (fun s₁ h₁ => ih (by omega)) (.pure h)

/-- Imported names have no height. -/
theorem importedNames_fits : Fits (importedNames n) fun _ => 0 := by
  have halias : Fits (importAlias identifier) fun _ => 0 :=
    importAlias_fits (identifier_fits.mono fun _ => Nat.zero_le 1)
  intro s
  refine .accept_ite rfl (fun s₁ h₁ => .pure ?_) (.accept_ite rfl (fun s₁ h₁ => ?_) ?_)
  · dsimp only
    omega
  · refine halias.bind fun first s₂ h₂ => ?_
    refine (commaTail_first halias h₂).bind fun r s₃ h₃ => .symbol fun s₄ h₄ => .pure ?_
    dsimp only
    omega
  · refine (commaSeparated_after halias nil_fits).mono fun r s' h => ?_
    dsimp only
    omega

/-- An import is a single level. -/
theorem importFrom_after :
    After (importFrom n) s fun t s' => t.height + s'.weight ≤ s.weight + 1 := by
  refine (importDots_after (Nat.le_refl _)).bind fun dots s₁ h₁ => ?_
  refine .ahead (.perhaps dottedName_fits fun module s₂ h₂ => .keyword fun s₃ h₃ =>
    importedNames_fits.bind fun names s₄ h₄ => .pure ?_)
  rw [Stmt.height_leaf rfl rfl]
  omega

/-- A type parameter is paid for. -/
theorem typeParam_fits (hread : read.Fits) : Fits (typeParam read n) TypeParam.height := by
  intro s
  refine .accept_ite rfl (fun s₁ h₁ => ?_) (.accept_ite rfl (fun s₁ h₁ => ?_) ?_)
  · refine identifier_fits.bind fun word s₂ h₂ => .pure ?_
    show 0 + s₂.weight ≤ s.weight
    omega
  · refine identifier_fits.bind fun word s₂ h₂ => .pure ?_
    show 0 + s₂.weight ≤ s.weight
    omega
  · refine identifier_fits.bind fun word s₁ h₁ => .accept_ite rfl (fun s₂ h₂ => ?_) (.pure ?_)
    · refine (exprOf_fits (grammarFits hread n).test).bind fun bound s₃ h₃ => .pure ?_
      simp only [TypeParam.height, TypeParam.bound?, Option.toList_some, tallest_cons, tallest_nil]
      omega
    · show 0 + s₁.weight ≤ s.weight
      omega

/-- Type parameters are paid for. -/
theorem typeParams_fits (hread : read.Fits) :
    Fits (typeParams read n) (tallest TypeParam.height) := by
  intro s
  refine .accept_ite rfl (fun s₁ h₁ => ?_) (.pure ?_)
  · refine (typeParam_fits hread).bind fun first s₂ h₂ => ?_
    refine (commaTail_first (typeParam_fits hread) h₂).bind fun r s₃ h₃ =>
      .symbol fun s₄ h₄ => .pure ?_
    omega
  · rw [tallest_nil]
    omega

/-! ## Small statements -/

/-- **A small statement is paid for, but for the end of its line.** -/
theorem smallStmt_after (hread : read.Fits) :
    After (smallStmt read n) s fun t s' => t.height + s'.weight ≤ s.weight + 1 := by
  have hgrammar := grammarFits hread n
  have hvalue : Fits (exprOf (test read n)) Expr.height := exprOf_fits hgrammar.test
  have hnames : Fits identifier fun _ => 0 := identifier_fits.mono fun _ => Nat.zero_le 1
  refine .peek ?_
  split
  case h_1 ht =>
    refine .advance_known ht rfl fun s₁ h₁ => .pure ?_
    rw [Stmt.height_leaf rfl rfl]
    omega
  case h_2 ht =>
    refine .advance_known ht rfl fun s₁ h₁ => .pure ?_
    rw [Stmt.height_leaf rfl rfl]
    omega
  case h_3 ht =>
    refine .advance_known ht rfl fun s₁ h₁ => .pure ?_
    rw [Stmt.height_leaf rfl rfl]
    omega
  case h_4 ht =>
    refine .advance_known ht rfl fun s₁ h₁ => hgrammar.target.bind fun first s₂ h₂ => ?_
    refine (commaTail_first hgrammar.target h₂).bind fun r s₃ h₃ => .pure ?_
    simp only [Stmt.height_delete, tallest_map]
    omega
  case h_5 ht =>
    refine .advance_known ht rfl fun s₁ h₁ =>
      (optional_fits (exprOf_fits hgrammar.testList)).bind fun e s₂ h₂ => .pure ?_
    rw [Stmt.height_ret]
    omega
  case h_6 ht =>
    refine .advance_known ht rfl fun s₁ h₁ => .ahead_ite (fun _ => ?_) (.pure ?_)
    · refine hvalue.bind fun exception s₂ h₂ => .accept_ite rfl (fun s₃ h₃ => ?_) (.pure ?_)
      · refine hvalue.bind fun cause s₄ h₄ => .pure ?_
        simp only [Stmt.height_raise, Option.toList_some, tallest_cons, tallest_nil]
        omega
      · simp only [Stmt.height_raise, Option.toList_some, Option.toList_none, tallest_cons,
          tallest_nil]
        omega
    · simp only [Stmt.height_raise, Option.toList_none, tallest_nil]
      omega
  case h_7 ht =>
    refine .advance_known ht rfl fun s₁ h₁ =>
      (commaSeparated_after hnames nil_fits).bind fun names s₂ h₂ =>
        .pure ?_
    rw [Stmt.height_leaf rfl rfl]
    omega
  case h_8 ht =>
    refine .advance_known ht rfl fun s₁ h₁ =>
      (commaSeparated_after hnames nil_fits).bind fun names s₂ h₂ =>
        .pure ?_
    rw [Stmt.height_leaf rfl rfl]
    omega
  case h_9 ht =>
    refine .advance_known ht rfl fun s₁ h₁ => hvalue.bind fun condition s₂ h₂ =>
      .accept_ite rfl (fun s₃ h₃ => ?_) (.pure ?_)
    · refine hvalue.bind fun message s₄ h₄ => .pure ?_
      simp only [Stmt.height_assert, Option.toList_some, tallest_cons, tallest_nil]
      omega
    · simp only [Stmt.height_assert, Option.toList_none, tallest_nil]
      omega
  case h_10 ht =>
    refine .advance_known ht rfl fun s₁ h₁ =>
      (commaSeparated_after (importAlias_fits dottedName_fits) nil_fits).bind fun names s₂ h₂ => .pure ?_
    rw [Stmt.height_leaf rfl rfl]
    omega
  case h_11 ht =>
    exact .advance_known ht rfl fun s₁ h₁ => importFrom_after.mono fun t s' h => by omega
  case h_12 ht =>
    refine (exprOf_fits hgrammar.yieldExpr).bind fun e s₁ h₁ => .pure ?_
    rw [Stmt.height_expr]
    omega
  case h_13 ht =>
    refine .advance_known ht rfl fun s₁ h₁ => identifier_fits.bind fun word s₂ h₂ =>
      (typeParams_fits hread).bind fun params s₃ h₃ => .symbol fun s₄ h₄ =>
        hvalue.bind fun e s₅ h₅ => .pure ?_
    rw [Stmt.height_typeAlias]
    omega
  case h_14 => exact .ite (fun _ => expressionStmt_after hread) fun _ => .unexpected
  case h_15 => exact .unexpected

/-- **A line pays for its statements.** -/
theorem smallLine_after (hread : read.Fits) {stmts : List Stmt}
    (h : tallest Stmt.height stmts + s.weight ≤ k) :
    After (smallLine read n stmts) s fun r s' => tallest Stmt.height r + s'.weight ≤ k := by
  induction n generalizing stmts s with
  | zero => exact .unexpected
  | succ n ih =>
      rw [smallLine]
      refine (smallStmt_after hread).bind fun t s₁ h₁ => .accept_ite rfl (fun s₂ h₂ => ?_) ?_
      · have hline {s' : TokenStream} (hs : s'.weight ≤ s₂.weight) :
            tallest Stmt.height (t :: stmts) + s'.weight ≤ k := by
          rw [tallest_cons]
          omega
        refine .accept_ite rfl (fun s₃ h₃ => .pure ?_) (ih (hline (Nat.le_refl _)))
        rw [tallest_reverse]
        exact hline (by omega)
      · refine .expect rfl fun s₂ h₂ => .pure ?_
        rw [tallest_reverse, tallest_cons]
        omega

/-! ## Headers -/

/-- An item is paid for. -/
theorem withItem_fits (hread : read.Fits) : Fits (withItem read n) WithItem.height := by
  have hgrammar := grammarFits hread n
  intro s
  refine (exprOf_fits hgrammar.test).bind fun context s₁ h₁ =>
    .accept_ite rfl (fun s₂ h₂ => ?_) (.pure ?_)
  · refine (exprOf_fits (hgrammar.binary 1)).bind fun bound s₃ h₃ => .pure ?_
    simp only [WithItem.height, WithItem.parts, Option.toList_some, tallest_cons, tallest_nil]
    omega
  · simp only [WithItem.height, WithItem.parts, Option.toList_none, tallest_cons, tallest_nil]
    omega

/-- Items in parentheses are paid for. -/
theorem bracketedItems_fits (hread : read.Fits) :
    Fits (bracketedItems read n) (tallest WithItem.height) := by
  intro s
  refine .symbol fun s₁ h₁ => (withItem_fits hread).bind fun first s₂ h₂ => ?_
  refine (commaTail_first (withItem_fits hread) h₂).bind fun r s₃ h₃ =>
    .symbol fun s₄ h₄ => .at_ite (fun _ => .pure ?_) .unexpected
  omega

/-- The first item is paid for. -/
theorem firstItem_fits (hread : read.Fits) : Fits (firstItem read n) WithItem.height := by
  intro s item s' h
  unfold firstItem at h
  split at h
  case h_1 r hr =>
    obtain rfl := Except.ok.inj h
    exact withItem_fits hread s hr
  case h_2 e _ =>
    refine branch_cases h (fun _ h => ?_) fun _ h => nomatch h
    have hrefused {t : TokenStream} : After (unexpected : Reader WithItem) t fun _ _ => False :=
      .unexpected
    exact (hrefused h).elim

/-- Items without parentheses are paid for. -/
theorem plainItems_fits (hread : read.Fits) :
    Fits (plainItems read n) (tallest WithItem.height) := by
  intro s
  refine (firstItem_fits hread).bind fun first s₁ h₁ => ?_
  have hitems {rest : List WithItem} {s₂ : TokenStream}
      (h₂ : tallest WithItem.height rest + s₂.weight ≤ s₁.weight) :
      After (do if ← at? (.symbol .colon) then return first :: rest else unexpected) s₂
        fun items s' => tallest WithItem.height items + s'.weight ≤ s.weight := by
    refine .at_ite (fun _ => .pure ?_) .unexpected
    rw [tallest_cons]
    omega
  refine .accept rfl (fun s₂ h₂ => ?_) (.pure_bind (hitems (Nat.le_of_eq (Nat.zero_add _))))
  refine (commaSeparated_after (withItem_fits hread) nil_fits).bind
    fun rest s₃ h₃ => hitems ?_
  omega

/-- One of two readings fits if both do. -/
theorem either_fits {α : Type} {r₁ r₂ : Reader α} {size : α → Nat} (h₁ : Fits r₁ size)
    (h₂ : Fits r₂ size) : Fits (either r₁ r₂) size := by
  intro s a s' h
  unfold either at h
  split at h
  case h_1 r hr =>
    obtain rfl := Except.ok.inj h
    exact h₁ s hr
  case h_2 =>
    split at h
    case h_1 r hr =>
      obtain rfl := Except.ok.inj h
      exact h₂ s hr
    case h_2 => cases h

/-- The items of a `with` statement are paid for. -/
theorem withItems_fits (hread : read.Fits) :
    Fits (withItems read n) (tallest WithItem.height) := fun s =>
  .at_ite (fun _ => either_fits (bracketedItems_fits hread) (plainItems_fits hread) s)
    (plainItems_fits hread s)

/-- The subject of a `match` statement is paid for. -/
theorem matchSubject_fits (hread : read.Fits) : Fits (matchSubject read n) Expr.height := by
  have helement := (grammarFits hread n).element
  intro s
  refine helement.bind fun first s₁ h₁ => ?_
  refine (commaTail_more helement h₁).bind fun r s₂ h₂ => ?_
  rcases h₂ with ⟨rfl, rfl⟩ | ⟨h₂, -⟩
  · exact .pure h₁
  · obtain ⟨items, trailing⟩ := r
    dsimp only at h₂ ⊢
    split
    case h_1 e _ =>
      refine .pure ?_
      rw [tallest_cons] at h₂
      omega
    case h_2 =>
      refine .pure ?_
      simp only [Expr.height_tuple, tallest_map]
      omega

/-- The parameters of a function are paid for. -/
theorem parameters_fits (hread : read.Fits) : Fits (parameters read n) Parameters.height := by
  have hgrammar := grammarFits hread n
  have hstyle : ParamStyle.Fits ⟨true, exprOf (test read n), exprOf (starTest read n),
      .symbol .rightParen⟩ := ⟨exprOf_fits hgrammar.test, exprOf_fits hgrammar.starTest⟩
  intro s
  refine .symbol fun s₁ h₁ => (ParamStyle.list_fits hstyle).bind fun params s₂ h₂ =>
    .symbol fun s₃ h₃ => (params.checkNames_after _).bind fun _ s₄ h₄ => .pure ?_
  subst h₄
  rw [WrittenParams.node_height]
  omega

/-! ## Chains of conditions -/

/-- The height of a condition with its block. -/
def branchHeight (branch : Expr × List Stmt) : Nat :=
  max branch.1.height (tallest Stmt.height branch.2)

/-- How far down the branches of a chain reach, the last one first: each stands within the
ones before it. -/
def ladder : List (Expr × List Stmt) → Nat
  | [] => 0
  | branch :: before => max (before.length + 1 + branchHeight branch) (ladder before)

/-- A longer chain of conditions is nested in the shorter one. -/
theorem branchChain_append (orelse : List Stmt) (bs cs : List (Expr × List Stmt)) :
    branchChain orelse (bs ++ cs) = branchChain (branchChain orelse cs) bs := by
  induction bs with
  | nil => rfl
  | cons b bs ih =>
      obtain ⟨condition, body⟩ := b
      rw [List.cons_append, branchChain, branchChain, ih]

/-- **A chain of conditions reaches as far down as its branches do.** -/
theorem branchChain_height (orelse : List Stmt) (branches : List (Expr × List Stmt)) :
    tallest Stmt.height (branchChain orelse branches.reverse) ≤
      max (ladder branches) (branches.length + tallest Stmt.height orelse) := by
  induction branches generalizing orelse with
  | nil =>
      show tallest Stmt.height orelse ≤ _
      simp only [List.length_nil]
      omega
  | cons b before ih =>
      obtain ⟨condition, body⟩ := b
      have hrest := ih (branchChain orelse [(condition, body)])
      have hlast : tallest Stmt.height (branchChain orelse [(condition, body)]) =
          max condition.height (max (tallest Stmt.height body) (tallest Stmt.height orelse)) + 1 :=
        (Nat.max_zero _).trans (Stmt.height_branch condition body orelse)
      rw [List.reverse_cons, branchChain_append]
      simp only [ladder, branchHeight, List.length_cons]
      omega

variable {block : Reader (List Stmt)}

/-- A condition is paid for. -/
theorem conditionExpr_fits (hread : read.Fits) : Fits (conditionExpr read n) Expr.height :=
  fun _ => (grammarFits hread n).namedTest.bind fun _ _ h => .pure h

/-- A chain is paid for branch by branch, and so is its length. -/
theorem elifTail_after (hread : read.Fits) (hblock : Fits block (tallest Stmt.height))
    {branches : List (Expr × List Stmt)} (hladder : ladder branches + s.weight ≤ k)
    (hlength : branches.length + s.weight ≤ k) :
    After (elifTail read block n branches) s fun r s' => ∃ bs, r = bs.reverse ∧
      ladder bs + s'.weight ≤ k ∧ bs.length + s'.weight ≤ k := by
  induction n generalizing branches s with
  | zero => exact .unexpected
  | succ n ih =>
      rw [elifTail]
      refine .accept rfl (fun s₁ h₁ => ?_) (.pure ⟨branches, rfl, hladder, hlength⟩)
      refine (conditionExpr_fits hread).bind fun condition s₂ h₂ => .symbol fun s₃ h₃ =>
        hblock.bind fun body s₄ h₄ => ih ?_ ?_
      · simp only [ladder, branchHeight]
        omega
      · rw [List.length_cons]
        omega

/-- A block that may be missing is paid for. -/
theorem optionalBlock_fits {word : Keyword} (hblock : Fits block (tallest Stmt.height)) :
    Fits (optionalBlock word block) (tallest Stmt.height) := by
  intro s
  refine .accept_ite rfl (fun s₁ h₁ => .symbol fun s₂ h₂ => ?_) (.pure ?_)
  · exact (hblock s₂).mono fun body s' h => by omega
  · rw [tallest_nil]
    omega

/-! ## Statements with blocks -/

/-- An `except` clause is paid for. -/
theorem handler_fits (hread : read.Fits) (hblock : Fits block (tallest Stmt.height))
    {isStar : Bool} : Fits (handler read n block isStar) Handler.height := by
  intro s
  have hparts (type : Option Expr) (name : Option String) (body : List Stmt) :
      (Handler.mk type name body).height =
        max (tallest Expr.height type.toList) (tallest Stmt.height body) := by
    rw [Handler.height, Handler.parts, tallest_append, tallest_exprNodes, tallest_stmtNodes]
  have hbody {type : Expr} {name : Option String} {s₁ : TokenStream}
      (h : type.height + s₁.weight ≤ s.weight) : After (do
        symbol .colon
        let body ← block
        return Handler.mk (some type) name body) s₁
        fun a s' => a.height + s'.weight ≤ s.weight := by
    refine .symbol fun s₂ h₂ => hblock.bind fun body s₃ h₃ => .pure ?_
    rw [hparts, Option.toList_some, tallest_cons, tallest_nil]
    omega
  have hrest {s₁ : TokenStream} (h₁ : s₁.weight ≤ s.weight) : After (do
      if ← acceptIf (!isStar) (.symbol .colon) then
        let body ← block
        return .mk none none body
      else
        let type ← exprOf (test read n)
        let name ← if ← accept (.keyword .as_) then some <$> identifier else Pure.pure none
        symbol .colon
        let body ← block
        return Handler.mk (some type) name body) s₁
      fun a s' => a.height + s'.weight ≤ s.weight := by
    refine .acceptIf rfl (fun s₂ h₂ => ?_) ?_
    · refine hblock.bind fun body s₃ h₃ => .pure ?_
      rw [hparts, Option.toList_none, tallest_nil]
      omega
    · refine (exprOf_fits (grammarFits hread n).test).bind fun type s₂ h₂ =>
        .accept rfl (fun s₃ h₃ => ?_) (.pure_bind (hbody (by omega)))
      have hname : After (some <$> identifier) s₃ fun _ s' => s'.weight ≤ s₃.weight :=
        .map ((identifier_fits s₃).mono fun _ s' h => by omega)
      exact hname.bind fun name s₄ h₄ => hbody (by omega)
  refine .keyword fun s₁ h₁ => .ite (fun _ => .symbol fun s₂ h₂ => hrest ?_) fun _ => hrest ?_
  · omega
  · omega

/-- A case is paid for. -/
theorem matchCase_fits (hread : read.Fits) (hblock : Fits block (tallest Stmt.height)) :
    Fits (matchCase read n block) MatchCase.height := by
  intro s
  have hbody {p : Pattern} {guard : Option Expr} {s₁ : TokenStream}
      (h : max p.height (tallest Expr.height guard.toList) + s₁.weight ≤ s.weight) : After (do
        symbol .colon
        let body ← block
        return MatchCase.mk p guard body) s₁ fun a s' => a.height + s'.weight ≤ s.weight := by
    refine .symbol fun s₂ h₂ => hblock.bind fun body s₃ h₃ => .pure ?_
    simp only [MatchCase.height, MatchCase.parts, MatchCase.pattern, tallest_append,
      tallest_exprNodes, tallest_stmtNodes]
    omega
  refine .keyword fun s₁ h₁ => (casePattern_fits hread).bind fun p s₂ h₂ =>
    .accept rfl (fun s₃ h₃ => ?_) (.pure_bind (hbody ?_))
  · refine (grammarFits hread n).namedTest.bind fun e s₄ h₄ => .pure_bind (hbody ?_)
    rw [Option.toList_some, tallest_cons, tallest_nil]
    omega
  · rw [Option.toList_none, tallest_nil]
    omega

/-- A decorator is paid for. -/
theorem decorator_fits (hread : read.Fits) : Fits (decorator read n) Expr.height := by
  intro s
  refine .symbol fun s₁ h₁ => (grammarFits hread n).namedTest.bind fun e s₂ h₂ =>
    .expect rfl fun s₃ h₃ => .pure ?_
  omega

/-- A `for` loop is paid for. -/
theorem forStmt_fits (hread : read.Fits) (hblock : Fits block (tallest Stmt.height))
    {isAsync : Bool} : Fits (forStmt read n block isAsync) Stmt.height := by
  have hgrammar := grammarFits hread n
  intro s
  refine .keyword fun s₁ h₁ => hgrammar.targetList.bind fun bound s₂ h₂ => .keyword fun s₃ h₃ =>
    hgrammar.testList.bind fun iter s₄ h₄ => .symbol fun s₅ h₅ => hblock.bind fun body s₆ h₆ =>
      (optionalBlock_fits hblock).bind fun orelse s₇ h₇ => .pure ?_
  rw [Stmt.height_forLoop]
  omega

/-- A `with` statement is paid for. -/
theorem withStmt_fits (hread : read.Fits) (hblock : Fits block (tallest Stmt.height))
    {isAsync : Bool} : Fits (withStmt read n block isAsync) Stmt.height := by
  intro s
  refine .keyword fun s₁ h₁ => (withItems_fits hread).bind fun items s₂ h₂ =>
    .symbol fun s₃ h₃ => hblock.bind fun body s₄ h₄ => .pure ?_
  rw [Stmt.height_withBlock]
  omega

/-- A function is paid for, its decorators included. -/
theorem functionDef_after (hread : read.Fits) (hblock : Fits block (tallest Stmt.height))
    {isAsync : Bool} {decorators : List Expr}
    (h : tallest Expr.height decorators + s.weight ≤ k) :
    After (functionDef read n block isAsync decorators) s fun t s' =>
      t.height + s'.weight ≤ k := by
  refine .keyword fun s₁ h₁ => identifier_fits.bind fun word s₂ h₂ =>
    (typeParams_fits hread).bind fun types s₃ h₃ => (parameters_fits hread).bind
      fun params s₄ h₄ => ?_
  have hbody {returns : Option Expr} {s₅ : TokenStream}
      (h₅ : tallest Expr.height returns.toList + s₅.weight ≤ s₄.weight) : After (do
        symbol .colon
        let body ← block
        return Stmt.functionDef isAsync word types params returns decorators body) s₅
        fun t s' => t.height + s'.weight ≤ k := by
    refine .symbol fun s₆ h₆ => hblock.bind fun body s₇ h₇ => .pure ?_
    rw [Stmt.height_functionDef]
    omega
  refine .accept rfl (fun s₅ h₅ => ?_) (.pure_bind (hbody (Nat.le_of_eq (Nat.zero_add _))))
  have hreturns : After (some <$> exprOf (test read n)) s₅ fun returns s' =>
      tallest Expr.height returns.toList + s'.weight ≤ s₅.weight := by
    refine .map ((exprOf_fits (grammarFits hread n).test s₅).mono fun e s' h => ?_)
    rw [Option.toList_some, tallest_cons, tallest_nil]
    omega
  exact hreturns.bind fun returns s₆ h₆ => hbody (by omega)

/-- A class is paid for, its decorators included. -/
theorem classDef_after (hread : read.Fits) (hblock : Fits block (tallest Stmt.height))
    {decorators : List Expr} (h : tallest Expr.height decorators + s.weight ≤ k) :
    After (classDef read n block decorators) s fun t s' => t.height + s'.weight ≤ k := by
  refine .keyword fun s₁ h₁ => identifier_fits.bind fun word s₂ h₂ =>
    (typeParams_fits hread).bind fun types s₃ h₃ => ?_
  have hbody {args : List Argument} {s₄ : TokenStream}
      (h₄ : tallest Argument.height args + s₄.weight ≤ s₃.weight) : After (do
        symbol .colon
        let body ← block
        return Stmt.classDef word types (positionalArgs args) (keywordArgs args) decorators body)
        s₄ fun t s' => t.height + s'.weight ≤ k := by
    have hpositional := positionalArgs_height args
    have hkeyword := keywordArgs_height args
    refine .symbol fun s₅ h₅ => hblock.bind fun body s₆ h₆ => .pure ?_
    rw [Stmt.height_classDef]
    omega
  refine .accept rfl (fun s₄ h₄ => ?_) (.pure_bind (hbody (Nat.le_of_eq (Nat.zero_add _))))
  refine (argumentList_fits (grammarFits hread n).argument).bind fun args s₅ h₅ =>
    .symbol fun s₆ h₆ => .pure_bind (hbody ?_)
  omega

/-- A `try` statement is paid for. -/
theorem tryStmt_fits (hread : read.Fits) (hblock : Fits block (tallest Stmt.height)) :
    Fits (tryStmt read n block) Stmt.height := by
  intro s
  refine .keyword fun s₁ h₁ => .symbol fun s₂ h₂ => hblock.bind fun body s₃ h₃ =>
    .accept_ite rfl (fun s₄ h₄ => ?_) (.peekSecond ?_)
  · refine .symbol fun s₅ h₅ => hblock.bind fun finalbody s₆ h₆ => .pure ?_
    simp only [Stmt.height_guarded, tallest_nil]
    omega
  · have hhandler {isStar : Bool} : Fits (handler read n block isStar) Handler.height :=
      handler_fits hread hblock
    refine hhandler.bind fun first s₄ h₄ => ?_
    have hfirst : tallest Handler.height [first] + s₄.weight ≤ s₃.weight :=
      (tallest_singleton first).symm ▸ h₄
    refine (many_after hhandler hfirst).bind fun handlers s₅ h₅ =>
      (optionalBlock_fits hblock).bind fun orelse s₆ h₆ =>
        (optionalBlock_fits hblock).bind fun finalbody s₇ h₇ => .pure ?_
    rw [Stmt.height_guarded]
    omega

/-- A `match` statement is paid for. -/
theorem matchStmt_fits (hread : read.Fits) (hblock : Fits block (tallest Stmt.height)) :
    Fits (matchStmt read n block) Stmt.height := by
  have hcase : Fits (matchCase read n block) MatchCase.height := matchCase_fits hread hblock
  intro s
  refine .keyword fun s₁ h₁ => (matchSubject_fits hread).bind fun subject s₂ h₂ =>
    .symbol fun s₃ h₃ => .expect rfl fun s₄ h₄ => indentation_fits.bind fun _ s₅ h₅ =>
      hcase.bind fun first s₆ h₆ => ?_
  have hfirst : tallest MatchCase.height [first] + s₆.weight ≤ s₅.weight :=
    (tallest_singleton first).symm ▸ h₆
  refine (many_after hcase hfirst).bind fun cases s₇ h₇ => ?_
  refine (expect_after .dedent s₇).bind fun _ s₈ h₈ => .pure ?_
  rw [Stmt.height_choice]
  omega

/-- **A statement with a block is paid for**, if its blocks are. -/
theorem compound_fits (hread : read.Fits) (hblock : Fits block (tallest Stmt.height)) :
    Fits (compound read n block) Stmt.height := by
  intro s
  have hdef {isAsync : Bool} {s₁ : TokenStream} (h₁ : s₁.weight ≤ s.weight) :
      After (functionDef read n block isAsync []) s₁ fun t s' => t.height + s'.weight ≤ s.weight :=
    functionDef_after hread hblock (by rw [tallest_nil]; omega)
  refine .peek ?_
  split
  case h_1 ht =>
    refine .advance_known ht rfl fun s₁ h₁ => (conditionExpr_fits hread).bind
      fun condition s₂ h₂ => .symbol fun s₃ h₃ => hblock.bind fun body s₄ h₄ => ?_
    have hladder : ladder [(condition, body)] + s₄.weight ≤ s.weight := by
      simp only [ladder, branchHeight, List.length_nil]
      omega
    have hlength : [(condition, body)].length + s₄.weight ≤ s.weight := by
      rw [List.length_singleton]
      omega
    refine (elifTail_after hread hblock hladder hlength).bind fun branches s₅ h₅ =>
      (optionalBlock_fits hblock).bind fun orelse s₆ h₆ => ?_
    obtain ⟨bs, rfl, hbs, hlen⟩ := h₅
    have hchain := branchChain_height orelse bs
    split
    case h_1 t rest heq =>
      rw [heq, tallest_cons] at hchain
      refine .pure ?_
      omega
    case h_2 => exact .unexpected
  case h_2 ht =>
    refine .advance_known ht rfl fun s₁ h₁ => (conditionExpr_fits hread).bind
      fun condition s₂ h₂ => .symbol fun s₃ h₃ => hblock.bind fun body s₄ h₄ =>
        (optionalBlock_fits hblock).bind fun orelse s₅ h₅ => .pure ?_
    rw [Stmt.height_whileLoop]
    omega
  case h_3 => exact forStmt_fits hread hblock s
  case h_4 => exact withStmt_fits hread hblock s
  case h_5 => exact tryStmt_fits hread hblock s
  case h_6 => exact matchStmt_fits hread hblock s
  case h_7 => exact hdef (Nat.le_refl _)
  case h_8 => exact classDef_after hread hblock (Nat.le_of_eq (Nat.zero_add _))
  case h_9 ht =>
    refine .advance_known ht rfl fun s₁ h₁ => .peek ?_
    split
    case h_1 => exact hdef (by omega)
    case h_2 => exact (forStmt_fits hread hblock s₁).mono fun t s' h => by omega
    case h_3 => exact (withStmt_fits hread hblock s₁).mono fun t s' h => by omega
    case h_4 => exact .unexpected
  case h_10 =>
    refine (many_after (decorator_fits hread) nil_fits).bind
      fun decorators s₁ h₁ => .peek ?_
    split
    case h_1 => exact functionDef_after hread hblock h₁.1
    case h_2 => exact classDef_after hread hblock h₁.1
    case h_3 ht =>
      exact .advance_known ht rfl fun s₂ h₂ => functionDef_after hread hblock (by omega)
    case h_4 => exact .unexpected
  case h_11 => exact .unexpected

/-! ## Blocks and scripts -/

/-- The statements of a block are paid for. -/
theorem blockTail_after {small : Reader (List Stmt)} {compound : Reader Stmt}
    (hsmall : Fits small (tallest Stmt.height)) (hcompound : Fits compound Stmt.height)
    {stmts : List Stmt} (h : tallest Stmt.height stmts + s.weight ≤ k) :
    After (blockTail small compound n stmts) s fun r s' =>
      tallest Stmt.height r + s'.weight ≤ k := by
  induction n generalizing stmts s with
  | zero => exact .unexpected
  | succ n ih =>
      rw [blockTail]
      refine .peek ?_
      split
      case h_1 t ht =>
        refine .ite (fun _ => ?_) fun _ => .ite (fun _ => ?_) fun _ => .ite (fun _ => ?_) fun _ =>
          .unexpected
        · refine hcompound.bind fun t s₁ h₁ => ih ?_
          rw [tallest_cons]
          omega
        · refine hsmall.bind fun new s₁ h₁ => ih ?_
          rw [tallest_append, tallest_reverse]
          omega
        · have := s.weight_tail_le
          refine .advance (.pure ?_)
          rw [tallest_reverse]
          omega
      case h_2 => exact .unexpected

/-- A block is paid for. -/
theorem block_fits (hread : read.Fits) (n : Nat) :
    Fits (Script.block read n) (tallest Stmt.height) := by
  induction n with
  | zero => exact .of_unexpected rfl
  | succ n ih =>
      have hline : Fits (smallLine read n []) (tallest Stmt.height) := fun s =>
        smallLine_after hread (Nat.le_of_eq (Nat.zero_add _))
      intro s
      refine .accept_ite rfl (fun s₁ h₁ => indentation_fits.bind fun _ s₂ h₂ => ?_) (hline s)
      exact blockTail_after hline (compound_fits hread ih) (by rw [tallest_nil]; omega)

/-- The statements of a script are paid for. -/
theorem scriptTail_after (hread : read.Fits) {stmts : List Stmt}
    (h : tallest Stmt.height stmts + s.weight ≤ k) :
    After (scriptTail read n stmts) s fun r _ => tallest Stmt.height r ≤ k := by
  induction n generalizing stmts s with
  | zero => exact .unexpected
  | succ n ih =>
      rw [scriptTail]
      refine .peek ?_
      split
      case h_1 =>
        refine .pure ?_
        rw [tallest_reverse]
        omega
      case h_2 t ht =>
        refine .ite (fun _ => ?_) fun _ => .ite (fun _ => ?_) fun _ => .ite (fun _ => ?_) fun _ =>
          .unexpected
        · have := s.weight_tail_le
          exact .advance (ih (by omega))
        · refine (compound_fits hread (block_fits hread n)).bind fun t s₁ h₁ => ih ?_
          rw [tallest_cons]
          omega
        · have hline : After (smallLine read n []) s fun r s' =>
              tallest Stmt.height r + s'.weight ≤ s.weight :=
            smallLine_after hread (Nat.le_of_eq (Nat.zero_add _))
          refine hline.bind fun new s₁ h₁ => ih ?_
          rw [tallest_append, tallest_reverse]
          omega

/-- **The statements of a script are no higher than its tokens weigh.** -/
theorem readScript_height {text : List Char} {body : List Stmt} (h : readScript text = .ok body) :
    tallest Stmt.height body ≤ weight (lex text 0).tokens := by
  unfold readScript at h
  dsimp only at h
  split at h
  case h_1 stmts s' hs =>
    obtain rfl := Except.ok.inj h
    refine scriptTail_after (readField_fits _) ?_ hs
    refine Nat.le_of_eq ?_
    rw [tallest_nil, Nat.zero_add, TokenStream.weight, weight_decideSoft]
  case h_2 => cases h

end SceneRender.Script
