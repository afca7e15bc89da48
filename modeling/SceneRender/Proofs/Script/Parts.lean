import SceneRender.Script.Tree

/-!
# The parts of a node

A node of a tree is a statement or an expression.  The nodes directly inside it are
of two kinds: its *parts*, which a walk goes on to, and what is *hidden* from the walk,
namely bounds of type parameters, values of type aliases and the expressions in
patterns.  Both are listed here for each kind of node, in the order of the walk.

`TreeNode.sizeOf_lt_of_mem_parts` says that a part is smaller than its node, which is
what recursion over the parts of a tree rests on.
-/

namespace SceneRender.Script

/-- A node of a tree. -/
inductive TreeNode where
  | stmt (t : Stmt)
  | expr (e : Expr)

/-! ## What is directly inside a node -/

/-- The value of a keyword argument. -/
def KeywordArg.value : KeywordArg → Expr
  | .mk _ value => value

/-- The expressions of a comprehension clause. -/
def Comprehension.parts : Comprehension → List Expr
  | .mk _ target iter conditions => target :: iter :: conditions

/-- The typing of a parameter and its default. -/
def Parameter.parts : Parameter → List Expr
  | .mk _ typing default => typing.toList ++ default.toList

/-- The typing of a parameter that takes the rest. -/
def RestParameter.typing : RestParameter → Option Expr
  | .mk _ typing => typing

/-- The expressions of parameters. -/
def Parameters.parts : Parameters → List Expr
  | .mk positionalOnly positional rest keywordOnly keywordRest =>
    (positionalOnly ++ positional ++ keywordOnly).flatMap (·.parts) ++
      (rest.toList ++ keywordRest.toList).flatMap (·.typing.toList)

/-- The expressions of an item of a `with` statement. -/
def WithItem.parts (item : WithItem) : List Expr := item.context :: item.target.toList

/-- The bound of a type parameter. -/
def TypeParam.bound? : TypeParam → Option Expr
  | .variable _ bound => bound
  | .variadic _ | .keywords _ => none

mutual

/-- The expressions in a pattern. -/
def Pattern.exprs : Pattern → List Expr
  | .value value => [value]
  | .singleton _ => []
  | .sequence patterns => patternExprs patterns
  | .mapping keys patterns _ => keys ++ patternExprs patterns
  | .object cls patterns keywords => cls :: patternExprs patterns ++ keywordPatternExprs keywords
  | .star _ => []
  | .capture none _ => []
  | .capture (some pattern) _ => pattern.exprs
  | .or patterns => patternExprs patterns

/-- The expressions in patterns. -/
def patternExprs : List Pattern → List Expr
  | [] => []
  | pattern :: rest => pattern.exprs ++ patternExprs rest

/-- The expressions in the patterns for attributes. -/
def keywordPatternExprs : List (String × Pattern) → List Expr
  | [] => []
  | (_, pattern) :: rest => pattern.exprs ++ keywordPatternExprs rest

end

/-- The pattern of a case. -/
def MatchCase.pattern : MatchCase → Pattern
  | .mk pattern _ _ => pattern

/-- The expressions directly inside an expression. -/
def Expr.parts : Expr → List Expr
  | .boolOp _ values => values
  | .named target value => [target, value]
  | .binary left _ right => [left, right]
  | .unary _ operand => [operand]
  | .lambda params body => params.parts ++ [body]
  | .ifElse test body orelse => [test, body, orelse]
  | .dict keys values => keys.flatMap (·.toList) ++ values
  | .set elements => elements
  | .listComp element clauses => element :: clauses.flatMap (·.parts)
  | .setComp element clauses => element :: clauses.flatMap (·.parts)
  | .dictComp key value clauses => key :: value :: clauses.flatMap (·.parts)
  | .generator element clauses => element :: clauses.flatMap (·.parts)
  | .await value => [value]
  | .yield value => value.toList
  | .yieldFrom value => [value]
  | .compare left _ comparators => left :: comparators
  | .call _ func args keywords => func :: (args ++ keywords.map (·.value))
  | .formatted value _ spec => value :: spec.toList
  | .joined values => values
  | .constant _ => []
  | .attribute value _ => [value]
  | .subscript value index => [value, index]
  | .starred value => [value]
  | .name _ => []
  | .list elements => elements
  | .tuple elements => elements
  | .slice lower upper step => lower.toList ++ upper.toList ++ step.toList

/-- Expressions as nodes. -/
def exprNodes (es : List Expr) : List TreeNode := es.map .expr

/-- Statements as nodes. -/
def stmtNodes (ts : List Stmt) : List TreeNode := ts.map .stmt

/-- The nodes of an `except` clause. -/
def Handler.parts : Handler → List TreeNode
  | .mk type _ body => exprNodes type.toList ++ stmtNodes body

/-- The nodes of a case that a walk goes on to. -/
def MatchCase.parts : MatchCase → List TreeNode
  | .mk _ guard body => exprNodes guard.toList ++ stmtNodes body

/-- The nodes directly inside a statement that a walk goes on to, in its order. -/
def Stmt.parts : Stmt → List TreeNode
  | .functionDef _ _ _ params returns decorators body =>
    exprNodes (decorators ++ params.parts ++ returns.toList) ++ stmtNodes body
  | .classDef _ _ bases keywords decorators body =>
    exprNodes (decorators ++ bases ++ keywords.map (·.value)) ++ stmtNodes body
  | .ret value => exprNodes value.toList
  | .delete targets => exprNodes targets
  | .assign targets value => exprNodes (targets ++ [value])
  | .typeAlias _ _ _ => []
  | .augAssign target _ value => exprNodes [target, value]
  | .annAssign target typing value => exprNodes (target :: typing :: value.toList)
  | .forLoop _ target iter body orelse =>
    exprNodes [target, iter] ++ stmtNodes (body ++ orelse)
  | .whileLoop test body orelse => exprNodes [test] ++ stmtNodes (body ++ orelse)
  | .branch test body orelse => exprNodes [test] ++ stmtNodes (body ++ orelse)
  | .withBlock _ items body => exprNodes (items.flatMap (·.parts)) ++ stmtNodes body
  | .choice subject cases => exprNodes [subject] ++ cases.flatMap (·.parts)
  | .raise exception cause => exprNodes (exception.toList ++ cause.toList)
  | .guarded _ body handlers orelse finalbody =>
    stmtNodes body ++ handlers.flatMap (·.parts) ++ stmtNodes (orelse ++ finalbody)
  | .assert test message => exprNodes (test :: message.toList)
  | .importNames _ => []
  | .importFrom _ _ _ => []
  | .global _ => []
  | .nonlocal _ => []
  | .expr value => exprNodes [value]
  | .pass => []
  | .breakLoop => []
  | .continueLoop => []

/-- What is directly inside a statement and hidden from a walk. -/
def Stmt.hidden : Stmt → List Expr
  | .functionDef _ _ typeParams _ _ _ _ => typeParams.flatMap (·.bound?.toList)
  | .classDef _ typeParams _ _ _ _ => typeParams.flatMap (·.bound?.toList)
  | .typeAlias _ typeParams value => typeParams.flatMap (·.bound?.toList) ++ [value]
  | .choice _ cases => cases.flatMap (·.pattern.exprs)
  | _ => []

namespace TreeNode

/-- The nodes directly inside a node that a walk goes on to. -/
def parts : TreeNode → List TreeNode
  | stmt t => t.parts
  | expr e => exprNodes e.parts

/-- The expressions directly inside a node that are hidden from a walk.  An expression hides
nothing. -/
def hidden : TreeNode → List Expr
  | stmt t => t.hidden
  | expr _ => []

/-- All nodes directly inside a node. -/
def slots (n : TreeNode) : List TreeNode := n.parts ++ exprNodes n.hidden

end TreeNode

/-! ## Parts are smaller -/

/-- No node of the list is larger than a bound. -/
def Below (k : Nat) (l : List TreeNode) : Prop := ∀ m ∈ l, sizeOf m ≤ k

/-- No nodes are below any bound. -/
theorem below_nil {k : Nat} : Below k [] := by simp [Below]

/-- A larger bound is one as well. -/
theorem Below.mono {j k : Nat} {l : List TreeNode} (hl : Below j l) (hjk : j ≤ k) : Below k l :=
  fun m hm => Nat.le_trans (hl m hm) hjk

/-- Two lists are below a bound if both of them are. -/
theorem below_append {k : Nat} {l l' : List TreeNode} :
    Below k (l ++ l') ↔ Below k l ∧ Below k l' := by
  simp [Below, or_imp, forall_and]

/-- The nodes of two lists of expressions follow each other. -/
theorem exprNodes_append {es es' : List Expr} :
    exprNodes (es ++ es') = exprNodes es ++ exprNodes es' := List.map_append

/-- The nodes of two lists of statements follow each other. -/
theorem stmtNodes_append {ts ts' : List Stmt} :
    stmtNodes (ts ++ ts') = stmtNodes ts ++ stmtNodes ts' := List.map_append

/-- Expressions are below a bound if each of them is smaller. -/
theorem below_cons {k : Nat} {e : Expr} {es : List Expr} :
    Below k (exprNodes (e :: es)) ↔ sizeOf e < k ∧ Below k (exprNodes es) := by
  simp only [Below, exprNodes, List.map_cons, List.forall_mem_cons, TreeNode.expr.sizeOf_spec,
    Nat.add_comm 1, Nat.succ_le_iff]

/-- No expressions are below any bound. -/
theorem below_exprs_nil {k : Nat} : Below k (exprNodes []) := by simp [Below, exprNodes]

/-- Expressions are smaller than their list. -/
theorem below_exprs {k : Nat} {es : List Expr} (h : sizeOf es ≤ k) : Below k (exprNodes es) := by
  intro m hm
  obtain ⟨e, he, rfl⟩ := List.mem_map.mp hm
  have := List.sizeOf_lt_of_mem he
  simp only [TreeNode.expr.sizeOf_spec]
  omega

/-- Statements are smaller than their list. -/
theorem below_stmts {k : Nat} {ts : List Stmt} (h : sizeOf ts ≤ k) : Below k (stmtNodes ts) := by
  intro m hm
  obtain ⟨e, he, rfl⟩ := List.mem_map.mp hm
  have := List.sizeOf_lt_of_mem he
  simp only [TreeNode.stmt.sizeOf_spec]
  omega

/-- The elements of a list are no larger than the list. -/
theorem sizeOf_le_of_mem {α : Type} [SizeOf α] {k : Nat} {as : List α} (h : sizeOf as ≤ k) :
    ∀ a ∈ as, sizeOf a ≤ k := by
  intro a ha
  have := List.sizeOf_lt_of_mem ha
  omega

/-- What an option holds is no larger than the option. -/
theorem sizeOf_le_of_mem_toList {α : Type} [SizeOf α] {k : Nat} {o : Option α}
    (h : sizeOf o ≤ k) : ∀ a ∈ o.toList, sizeOf a ≤ k := by
  intro a ha
  obtain rfl := Option.mem_toList.mp ha
  simp only [Option.some.sizeOf_spec] at h
  omega

/-- The expression in an option is smaller than the option. -/
theorem below_option {k : Nat} {o : Option Expr} (h : sizeOf o ≤ k) :
    Below k (exprNodes o.toList) := by
  cases o with
  | none => exact below_nil
  | some e =>
      simp only [Option.some.sizeOf_spec] at h
      exact below_cons.mpr ⟨by omega, below_exprs_nil⟩

/-- What lies below each element lies below the list. -/
theorem below_flatMap {α : Type} [SizeOf α] {k : Nat} {f : α → List TreeNode} {as : List α}
    (hf : ∀ a, Below (sizeOf a) (f a)) (h : ∀ a ∈ as, sizeOf a ≤ k) : Below k (as.flatMap f) := by
  intro m hm
  obtain ⟨a, ha, hm⟩ := List.mem_flatMap.mp hm
  exact Nat.le_trans (hf a m hm) (h a ha)

/-- Expressions that lie below each element lie below the list. -/
theorem below_expr_flatMap {α : Type} [SizeOf α] {k : Nat} {f : α → List Expr} {as : List α}
    (hf : ∀ a, Below (sizeOf a) (exprNodes (f a))) (h : ∀ a ∈ as, sizeOf a ≤ k) :
    Below k (exprNodes (as.flatMap f)) := by
  rw [exprNodes, List.map_flatMap]
  exact below_flatMap hf h

/-- The values of keyword arguments are smaller than their list. -/
theorem below_keywords {k : Nat} {keywords : List KeywordArg} (h : sizeOf keywords ≤ k) :
    Below k (exprNodes (keywords.map (·.value))) := by
  intro m hm
  simp only [exprNodes, List.map_map, List.mem_map] at hm
  obtain ⟨⟨name, value⟩, hk, rfl⟩ := hm
  have := sizeOf_le_of_mem h _ hk
  simp only [KeywordArg.mk.sizeOf_spec] at this
  simp only [Function.comp, KeywordArg.value, TreeNode.expr.sizeOf_spec]
  have : 0 < sizeOf name := by
    cases name <;> simp only [Option.none.sizeOf_spec, Option.some.sizeOf_spec] <;> omega
  omega

/-- The typing of a parameter that takes the rest is smaller than the parameter. -/
theorem below_typing (p : RestParameter) : Below (sizeOf p) (exprNodes p.typing.toList) := by
  obtain ⟨name, typing⟩ := p
  exact below_option (by simp only [RestParameter.typing, RestParameter.mk.sizeOf_spec]; omega)

/-- The parts of a parameter are smaller than the parameter. -/
theorem below_parameter (p : Parameter) : Below (sizeOf p) (exprNodes p.parts) := by
  obtain ⟨name, typing, default⟩ := p
  rw [Parameter.parts, exprNodes_append, below_append]
  constructor <;> apply below_option <;> simp only [Parameter.mk.sizeOf_spec] <;> omega

/-- The parts of parameters are smaller than the parameters. -/
theorem below_parameters (p : Parameters) : Below (sizeOf p) (exprNodes p.parts) := by
  obtain ⟨positionalOnly, positional, rest, keywordOnly, keywordRest⟩ := p
  simp only [Parameters.parts, List.flatMap_append, exprNodes_append, below_append,
    Parameters.mk.sizeOf_spec]
  refine ⟨⟨⟨?_, ?_⟩, ?_⟩, ?_, ?_⟩
  · exact below_expr_flatMap below_parameter (sizeOf_le_of_mem (by omega))
  · exact below_expr_flatMap below_parameter (sizeOf_le_of_mem (by omega))
  · exact below_expr_flatMap below_parameter (sizeOf_le_of_mem (by omega))
  · exact below_expr_flatMap below_typing (sizeOf_le_of_mem_toList (by omega))
  · exact below_expr_flatMap below_typing (sizeOf_le_of_mem_toList (by omega))

/-- The parts of a clause are smaller than the clause. -/
theorem below_clause (c : Comprehension) : Below (sizeOf c) (exprNodes c.parts) := by
  obtain ⟨isAsync, target, iter, conditions⟩ := c
  simp only [Comprehension.parts, Comprehension.mk.sizeOf_spec, below_cons]
  exact ⟨by omega, by omega, below_exprs (by omega)⟩

/-- The parts of an item are smaller than the item. -/
theorem below_item (item : WithItem) : Below (sizeOf item) (exprNodes item.parts) := by
  obtain ⟨context, target⟩ := item
  simp only [WithItem.parts, WithItem.mk.sizeOf_spec, below_cons]
  exact ⟨by omega, below_option (by omega)⟩

/-- The parts of an `except` clause are smaller than the clause. -/
theorem below_handler (c : Handler) : Below (sizeOf c) c.parts := by
  obtain ⟨type, name, body⟩ := c
  simp only [Handler.parts, Handler.mk.sizeOf_spec, below_append]
  exact ⟨below_option (by omega), below_stmts (by omega)⟩

/-- The parts of a case are smaller than the case. -/
theorem below_case (c : MatchCase) : Below (sizeOf c) c.parts := by
  obtain ⟨pattern, guard, body⟩ := c
  simp only [MatchCase.parts, MatchCase.mk.sizeOf_spec, below_append]
  exact ⟨below_option (by omega), below_stmts (by omega)⟩

/-- A key is smaller than its option. -/
theorem below_key (key : Option Expr) : Below (sizeOf key) (exprNodes key.toList) :=
  below_option (Nat.le_refl _)

/-- **The parts of an expression are below it.** -/
theorem Expr.below_parts (e : Expr) : Below (sizeOf e) (exprNodes e.parts) := by
  cases e <;>
    simp only [Expr.parts, exprNodes_append, below_append, below_cons, below_exprs_nil, and_true,
      boolOp.sizeOf_spec, named.sizeOf_spec, binary.sizeOf_spec, unary.sizeOf_spec,
      lambda.sizeOf_spec, ifElse.sizeOf_spec, dict.sizeOf_spec, set.sizeOf_spec,
      listComp.sizeOf_spec, setComp.sizeOf_spec, dictComp.sizeOf_spec, generator.sizeOf_spec,
      await.sizeOf_spec, yield.sizeOf_spec, yieldFrom.sizeOf_spec, compare.sizeOf_spec,
      call.sizeOf_spec, formatted.sizeOf_spec, joined.sizeOf_spec, attribute.sizeOf_spec,
      subscript.sizeOf_spec, starred.sizeOf_spec, list.sizeOf_spec, tuple.sizeOf_spec,
      slice.sizeOf_spec]
  case boolOp => exact below_exprs (by omega)
  case lambda => exact ⟨(below_parameters _).mono (by omega), by omega⟩
  case dict =>
    exact ⟨below_expr_flatMap below_key (sizeOf_le_of_mem (by omega)), below_exprs (by omega)⟩
  case set => exact below_exprs (by omega)
  case listComp =>
    exact ⟨by omega, below_expr_flatMap below_clause (sizeOf_le_of_mem (by omega))⟩
  case setComp =>
    exact ⟨by omega, below_expr_flatMap below_clause (sizeOf_le_of_mem (by omega))⟩
  case dictComp =>
    exact ⟨by omega, by omega, below_expr_flatMap below_clause (sizeOf_le_of_mem (by omega))⟩
  case generator =>
    exact ⟨by omega, below_expr_flatMap below_clause (sizeOf_le_of_mem (by omega))⟩
  case yield => exact below_option (by omega)
  case compare => exact ⟨by omega, below_exprs (by omega)⟩
  case call => exact ⟨by omega, below_exprs (by omega), below_keywords (by omega)⟩
  case formatted => exact ⟨by omega, below_option (by omega)⟩
  case joined => exact below_exprs (by omega)
  case list => exact below_exprs (by omega)
  case tuple => exact below_exprs (by omega)
  case slice =>
    exact ⟨⟨below_option (by omega), below_option (by omega)⟩, below_option (by omega)⟩
  -- what is left holds single expressions only
  all_goals omega

/-- **The parts of a statement are below it.** -/
theorem Stmt.below_parts (t : Stmt) : Below (sizeOf t) t.parts := by
  cases t <;>
    simp only [Stmt.parts, exprNodes_append, stmtNodes_append, below_append, below_cons,
      below_exprs_nil, below_nil, and_true, functionDef.sizeOf_spec, classDef.sizeOf_spec,
      ret.sizeOf_spec, delete.sizeOf_spec, assign.sizeOf_spec, augAssign.sizeOf_spec,
      annAssign.sizeOf_spec, forLoop.sizeOf_spec, whileLoop.sizeOf_spec, branch.sizeOf_spec,
      withBlock.sizeOf_spec, choice.sizeOf_spec, raise.sizeOf_spec, guarded.sizeOf_spec,
      assert.sizeOf_spec, expr.sizeOf_spec]
  case functionDef =>
    exact ⟨⟨⟨below_exprs (by omega), (below_parameters _).mono (by omega)⟩,
      below_option (by omega)⟩, below_stmts (by omega)⟩
  case classDef =>
    exact ⟨⟨⟨below_exprs (by omega), below_exprs (by omega)⟩, below_keywords (by omega)⟩,
      below_stmts (by omega)⟩
  case ret => exact below_option (by omega)
  case delete => exact below_exprs (by omega)
  case assign => exact ⟨below_exprs (by omega), by omega⟩
  case annAssign => exact ⟨by omega, by omega, below_option (by omega)⟩
  case forLoop =>
    exact ⟨by omega, below_stmts (by omega), below_stmts (by omega)⟩
  case whileLoop => exact ⟨by omega, below_stmts (by omega), below_stmts (by omega)⟩
  case branch => exact ⟨by omega, below_stmts (by omega), below_stmts (by omega)⟩
  case withBlock =>
    exact ⟨below_expr_flatMap below_item (sizeOf_le_of_mem (by omega)), below_stmts (by omega)⟩
  case choice => exact ⟨by omega, below_flatMap below_case (sizeOf_le_of_mem (by omega))⟩
  case raise => exact ⟨below_option (by omega), below_option (by omega)⟩
  case guarded =>
    exact ⟨⟨below_stmts (by omega), below_flatMap below_handler (sizeOf_le_of_mem (by omega))⟩,
      below_stmts (by omega), below_stmts (by omega)⟩
  case assert => exact ⟨by omega, below_option (by omega)⟩
  -- what is left holds single expressions only
  all_goals omega

namespace TreeNode

/-- **A part is smaller than its node.** -/
theorem sizeOf_lt_of_mem_parts {n m : TreeNode} (hm : m ∈ n.parts) : sizeOf m < sizeOf n := by
  cases n with
  | stmt t =>
      have := t.below_parts m hm
      simp only [stmt.sizeOf_spec]
      omega
  | expr e =>
      have := e.below_parts m hm
      simp only [expr.sizeOf_spec]
      omega

/-- Induction over a tree along the parts of its nodes. -/
theorem parts_induction {motive : TreeNode → Prop}
    (step : ∀ n, (∀ m ∈ n.parts, motive m) → motive n) (n : TreeNode) : motive n :=
  step n fun m _ => parts_induction step m
termination_by n
decreasing_by exact sizeOf_lt_of_mem_parts ‹_›

end TreeNode

end SceneRender.Script
