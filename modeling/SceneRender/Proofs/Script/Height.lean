import SceneRender.Proofs.Script.Preorder

/-!
# The height of a node

The height of a node is the number of nodes on the longest way down from it, hidden ones
included.  A node is one higher than the tallest of its slots, so the height of each kind
of node is the largest among what it holds, and one more.  A tree is as deep as its tallest
statement is high (`hasDepth_tallest`).
-/

namespace SceneRender.Script

/-! ## The tallest of a list -/

/-- The largest size in a list, nothing in an empty one. -/
def tallest {α : Type} (size : α → Nat) (as : List α) : Nat :=
  as.foldr (fun a k => max (size a) k) 0

section Tallest

variable {α β : Type} {size : α → Nat}

/-- Nothing is the tallest of none. -/
@[simp] theorem tallest_nil : tallest size [] = 0 := rfl

/-- One more element is compared with the tallest of the others. -/
@[simp] theorem tallest_cons (a : α) (as : List α) :
    tallest size (a :: as) = max (size a) (tallest size as) := rfl

/-- A single element is the tallest. -/
@[simp] theorem tallest_singleton (a : α) : tallest size [a] = size a := Nat.max_zero _

/-- The tallest of two lists is the taller of their tallest. -/
@[simp] theorem tallest_append (as bs : List α) :
    tallest size (as ++ bs) = max (tallest size as) (tallest size bs) := by
  induction as with
  | nil => exact (Nat.zero_max _).symm
  | cons a as ih => rw [List.cons_append, tallest_cons, ih, tallest_cons, Nat.max_assoc]

/-- The order does not matter. -/
@[simp] theorem tallest_reverse (as : List α) :
    tallest size as.reverse = tallest size as := by
  induction as with
  | nil => rfl
  | cons a as ih =>
      rw [List.reverse_cons, tallest_append, ih, tallest_cons, tallest_cons, tallest_nil,
        Nat.max_zero, Nat.max_comm]

/-- The sizes may be taken before or after a map. -/
theorem tallest_map (f : β → α) (bs : List β) :
    tallest size (bs.map f) = tallest (fun b => size (f b)) bs := by
  induction bs with
  | nil => rfl
  | cons b bs ih => rw [List.map_cons, tallest_cons, ih, tallest_cons]

/-- The tallest of many lists is the tallest of their tallest. -/
theorem tallest_flatMap (f : β → List α) (bs : List β) :
    tallest size (bs.flatMap f) = tallest (fun b => tallest size (f b)) bs := by
  induction bs with
  | nil => rfl
  | cons b bs ih => rw [List.flatMap_cons, tallest_append, ih, tallest_cons]

/-- The tallest is within a bound exactly if all are. -/
theorem tallest_le {as : List α} {k : Nat} :
    tallest size as ≤ k ↔ ∀ a ∈ as, size a ≤ k := by
  induction as with
  | nil => exact ⟨fun _ _ h => absurd h List.not_mem_nil, fun _ => Nat.zero_le k⟩
  | cons a as ih => rw [tallest_cons, Nat.max_le, ih, List.forall_mem_cons]

/-- No element is taller than the tallest. -/
theorem le_tallest {as : List α} {a : α} (h : a ∈ as) : size a ≤ tallest size as :=
  tallest_le.mp (Nat.le_refl _) a h

/-- The tallest of a list is one of its elements. -/
theorem exists_tallest {as : List α} (h : as ≠ []) : ∃ a ∈ as, size a = tallest size as := by
  induction as with
  | nil => exact absurd rfl h
  | cons a as ih =>
      rw [tallest_cons]
      by_cases hle : tallest size as ≤ size a
      · exact ⟨a, List.mem_cons_self, (Nat.max_eq_left hle).symm⟩
      · have hne : as ≠ [] := by
          rintro rfl
          exact hle (Nat.zero_le _)
        obtain ⟨b, hb, hsize⟩ := ih hne
        exact ⟨b, List.mem_cons_of_mem a hb, by omega⟩

/-- Larger sizes make a larger tallest. -/
theorem tallest_mono {size' : α → Nat} (h : ∀ a, size a ≤ size' a) (as : List α) :
    tallest size as ≤ tallest size' as :=
  tallest_le.mpr fun a ha => Nat.le_trans (h a) (le_tallest ha)

end Tallest

/-! ## Whatever is inside a node is smaller -/

/-- The bound of a type parameter is smaller than the parameter. -/
theorem below_bound (p : TypeParam) : Below (sizeOf p) (exprNodes p.bound?.toList) := by
  rcases p with ⟨name, bound⟩ | ⟨name⟩ | ⟨name⟩
  · exact below_option (by simp only [TypeParam.bound?, TypeParam.variable.sizeOf_spec]; omega)
  · exact below_nil
  · exact below_nil

/-- The expressions in a pattern are smaller than the pattern, and so it is with lists of
patterns, by the three functions that list them. -/
theorem below_patterns :
    (∀ p : Pattern, Below (sizeOf p) (exprNodes p.exprs)) ∧
      (∀ ps : List (String × Pattern), Below (sizeOf ps) (exprNodes (keywordPatternExprs ps))) ∧
      ∀ ps : List Pattern, Below (sizeOf ps) (exprNodes (patternExprs ps)) := by
  apply Pattern.exprs.mutual_induct
  -- the patterns
  case case1 =>
    intro value
    rw [Pattern.exprs, below_cons]
    exact ⟨by simp only [Pattern.value.sizeOf_spec]; omega, below_exprs_nil⟩
  case case2 => exact fun value => below_nil
  case case3 =>
    intro patterns ih
    rw [Pattern.exprs]
    exact ih.mono (by simp only [Pattern.sequence.sizeOf_spec]; omega)
  case case4 =>
    intro keys patterns rest ih
    rw [Pattern.exprs, exprNodes_append, below_append]
    simp only [Pattern.mapping.sizeOf_spec]
    exact ⟨below_exprs (by omega), ih.mono (by omega)⟩
  case case5 =>
    intro cls patterns keywords ihPatterns ihKeywords
    rw [Pattern.exprs, exprNodes_append, below_append, below_cons]
    simp only [Pattern.object.sizeOf_spec]
    exact ⟨⟨by omega, ihPatterns.mono (by omega)⟩, ihKeywords.mono (by omega)⟩
  case case6 => exact fun name => below_nil
  case case7 => exact fun name => below_nil
  case case8 =>
    intro pattern name ih
    rw [Pattern.exprs]
    exact ih.mono (by simp only [Pattern.capture.sizeOf_spec, Option.some.sizeOf_spec]; omega)
  case case9 =>
    intro patterns ih
    rw [Pattern.exprs]
    exact ih.mono (by simp only [Pattern.or.sizeOf_spec]; omega)
  -- the lists
  case case10 => exact below_nil
  case case11 =>
    intro p ps ihHead ihTail
    rw [patternExprs, exprNodes_append, below_append]
    simp only [List.cons.sizeOf_spec]
    exact ⟨ihHead.mono (by omega), ihTail.mono (by omega)⟩
  case case12 => exact below_nil
  case case13 =>
    intro name p ps ihHead ihTail
    rw [keywordPatternExprs, exprNodes_append, below_append]
    simp only [List.cons.sizeOf_spec, Prod.mk.sizeOf_spec]
    exact ⟨ihHead.mono (by omega), ihTail.mono (by omega)⟩

/-- The expressions in the pattern of a case are smaller than the case. -/
theorem below_pattern (c : MatchCase) : Below (sizeOf c) (exprNodes c.pattern.exprs) := by
  obtain ⟨pattern, guard, body⟩ := c
  exact (below_patterns.1 pattern).mono (by simp only [MatchCase.mk.sizeOf_spec]; omega)

/-- What is hidden in a statement is smaller than the statement. -/
theorem Stmt.below_hidden (t : Stmt) : Below (sizeOf t) (exprNodes t.hidden) := by
  cases t
  case functionDef =>
    simp only [functionDef.sizeOf_spec]
    exact below_expr_flatMap below_bound (sizeOf_le_of_mem (by omega))
  case classDef =>
    simp only [classDef.sizeOf_spec]
    exact below_expr_flatMap below_bound (sizeOf_le_of_mem (by omega))
  case typeAlias =>
    rw [Stmt.hidden, exprNodes_append, below_append, below_cons]
    simp only [typeAlias.sizeOf_spec]
    exact ⟨below_expr_flatMap below_bound (sizeOf_le_of_mem (by omega)), by omega,
      below_exprs_nil⟩
  case choice =>
    simp only [choice.sizeOf_spec]
    exact below_expr_flatMap below_pattern (sizeOf_le_of_mem (by omega))
  all_goals exact below_nil

namespace TreeNode

/-- **Whatever is in a slot is smaller than the node.** -/
theorem sizeOf_lt_of_mem_slots {n m : TreeNode} (hm : m ∈ n.slots) : sizeOf m < sizeOf n := by
  rcases List.mem_append.mp hm with hm | hm
  · exact sizeOf_lt_of_mem_parts hm
  · cases n with
    | stmt t =>
        have := t.below_hidden m hm
        simp only [stmt.sizeOf_spec]
        omega
    | expr e => exact absurd hm List.not_mem_nil

/-- The number of nodes on the longest way down from a node. -/
def height (n : TreeNode) : Nat :=
  tallest (fun m : { m // m ∈ n.slots } => height m.1) n.slots.attach + 1
termination_by n
decreasing_by exact sizeOf_lt_of_mem_slots m.2

/-- A node is one higher than the highest of its slots. -/
theorem height_eq (n : TreeNode) : n.height = tallest height n.slots + 1 := by
  rw [height, ← tallest_map Subtype.val, List.attach_map_subtype_val]

end TreeNode

/-- The height of an expression. -/
def Expr.height (e : Expr) : Nat := (TreeNode.expr e).height

/-- The height of a statement. -/
def Stmt.height (t : Stmt) : Nat := (TreeNode.stmt t).height

/-! ## Depth -/

/-- The tree of a module is this deep: a node lies there, and none lies deeper. -/
structure HasDepth (body : List Stmt) (d : Nat) : Prop where
  attained : ∃ n, AtDepth body d n
  greatest : ∀ {k n}, AtDepth body k n → k ≤ d

variable {body : List Stmt} {k : Nat} {n : TreeNode}

/-- **No node lies deeper than the statements are high.** -/
theorem AtDepth.le_tallest (h : AtDepth body k n) : k ≤ tallest Stmt.height body := by
  have hsum : k + n.height ≤ tallest Stmt.height body + 1 := by
    induction h with
    | @top t ht =>
        have hle : t.height ≤ tallest Stmt.height body := Script.le_tallest ht
        rw [Stmt.height] at hle
        omega
    | @slot d n m _ hm ih =>
        have hle : m.height ≤ tallest TreeNode.height n.slots := Script.le_tallest hm
        rw [TreeNode.height_eq] at ih
        omega
  have := n.height_eq
  omega

/-- Below a node there are as many levels as it is high. -/
theorem AtDepth.deepest {k : Nat} {n : TreeNode} (h : AtDepth body k n) :
    ∃ m, AtDepth body (k + tallest TreeNode.height n.slots) m := by
  by_cases hslots : n.slots = []
  · rw [hslots]
    exact ⟨n, h⟩
  · obtain ⟨m, hm, hheight⟩ := exists_tallest hslots
    obtain ⟨m', hm'⟩ := AtDepth.deepest (h.slot hm)
    rw [← hheight, m.height_eq, Nat.add_comm _ 1, ← Nat.add_assoc]
    exact ⟨m', hm'⟩
termination_by n
decreasing_by exact TreeNode.sizeOf_lt_of_mem_slots hm

/-- **A tree is as deep as its tallest statement is high.** -/
theorem hasDepth_tallest (h : body ≠ []) : HasDepth body (tallest Stmt.height body) where
  attained := by
    obtain ⟨t, ht, hheight⟩ := exists_tallest h
    obtain ⟨m, hm⟩ := (AtDepth.top ht).deepest
    rw [← hheight, Stmt.height, TreeNode.height_eq, Nat.add_comm]
    exact ⟨m, hm⟩
  greatest := AtDepth.le_tallest

/-! ## What each kind of node holds -/

/-- The height of the expressions of parameters. -/
def Parameters.height (p : Parameters) : Nat := tallest Expr.height p.parts

/-- The height of a comprehension clause. -/
def Comprehension.height (c : Comprehension) : Nat := tallest Expr.height c.parts

/-- The height of the value of a keyword argument. -/
def KeywordArg.height (k : KeywordArg) : Nat := k.value.height

/-- The height of an item of a `with` statement. -/
def WithItem.height (item : WithItem) : Nat := tallest Expr.height item.parts

/-- The height of the bound of a type parameter. -/
def TypeParam.height (p : TypeParam) : Nat := tallest Expr.height p.bound?.toList

/-- The height of the expressions in a pattern. -/
def Pattern.height (p : Pattern) : Nat := tallest Expr.height p.exprs

/-- The height of an `except` clause. -/
def Handler.height (h : Handler) : Nat := tallest TreeNode.height h.parts

/-- The height of a case, its pattern included. -/
def MatchCase.height (c : MatchCase) : Nat :=
  max (tallest TreeNode.height c.parts) c.pattern.height

/-- Expressions are as high as nodes. -/
theorem tallest_exprNodes (es : List Expr) :
    tallest TreeNode.height (exprNodes es) = tallest Expr.height es := tallest_map _ es

/-- Statements are as high as nodes. -/
theorem tallest_stmtNodes (ts : List Stmt) :
    tallest TreeNode.height (stmtNodes ts) = tallest Stmt.height ts := tallest_map _ ts

/-- The bounds are as high as the type parameters. -/
theorem tallest_bounds (ps : List TypeParam) :
    tallest Expr.height (ps.flatMap (·.bound?.toList)) = tallest TypeParam.height ps :=
  tallest_flatMap _ ps

/-- The values are as high as the keyword arguments. -/
theorem tallest_values (ks : List KeywordArg) :
    tallest Expr.height (ks.map (·.value)) = tallest KeywordArg.height ks := tallest_map _ ks

/-- The parts of the clauses are as high as the clauses. -/
theorem tallest_clauses (cs : List Comprehension) :
    tallest Expr.height (cs.flatMap (·.parts)) = tallest Comprehension.height cs :=
  tallest_flatMap _ cs

namespace Expr

/-- An expression is one higher than its parts. -/
theorem height_eq (e : Expr) : e.height = tallest height e.parts + 1 := by
  rw [height, TreeNode.height_eq, TreeNode.slots, TreeNode.parts, TreeNode.hidden,
    ← exprNodes_append, List.append_nil, tallest_exprNodes]

theorem height_boolOp (op : BoolOp) (values : List Expr) :
    (boolOp op values).height = tallest height values + 1 := height_eq _

theorem height_named (target value : Expr) :
    (named target value).height = max target.height value.height + 1 := by
  rw [height_eq]
  simp only [parts, tallest_cons, tallest_nil, Nat.max_zero]

theorem height_binary (left : Expr) (op : BinaryOp) (right : Expr) :
    (binary left op right).height = max left.height right.height + 1 := by
  rw [height_eq]
  simp only [parts, tallest_cons, tallest_nil, Nat.max_zero]

theorem height_unary (op : UnaryOp) (operand : Expr) :
    (unary op operand).height = operand.height + 1 := by
  rw [height_eq]
  simp only [parts, tallest_cons, tallest_nil, Nat.max_zero]

theorem height_lambda (params : Parameters) (body : Expr) :
    (lambda params body).height = max params.height body.height + 1 := by
  rw [height_eq, Parameters.height]
  simp only [parts, tallest_append, tallest_cons, tallest_nil, Nat.max_zero]

theorem height_ifElse (test body orelse : Expr) :
    (ifElse test body orelse).height =
      max test.height (max body.height orelse.height) + 1 := by
  rw [height_eq]
  simp only [parts, tallest_cons, tallest_nil, Nat.max_zero]

theorem height_dict (keys : List (Option Expr)) (values : List Expr) :
    (dict keys values).height =
      max (tallest (fun key => tallest height key.toList) keys) (tallest height values) + 1 := by
  rw [height_eq]
  simp only [parts, tallest_append, tallest_flatMap]

theorem height_set (elements : List Expr) :
    (set elements).height = tallest height elements + 1 := height_eq _

theorem height_listComp (element : Expr) (clauses : List Comprehension) :
    (listComp element clauses).height =
      max element.height (tallest Comprehension.height clauses) + 1 := by
  rw [height_eq]
  simp only [parts, tallest_cons, tallest_clauses]

theorem height_setComp (element : Expr) (clauses : List Comprehension) :
    (setComp element clauses).height =
      max element.height (tallest Comprehension.height clauses) + 1 := by
  rw [height_eq]
  simp only [parts, tallest_cons, tallest_clauses]

theorem height_dictComp (key value : Expr) (clauses : List Comprehension) :
    (dictComp key value clauses).height =
      max key.height (max value.height (tallest Comprehension.height clauses)) + 1 := by
  rw [height_eq]
  simp only [parts, tallest_cons, tallest_clauses]

theorem height_generator (element : Expr) (clauses : List Comprehension) :
    (generator element clauses).height =
      max element.height (tallest Comprehension.height clauses) + 1 := by
  rw [height_eq]
  simp only [parts, tallest_cons, tallest_clauses]

theorem height_await (value : Expr) :
    (await value).height = value.height + 1 := by
  rw [height_eq]
  simp only [parts, tallest_cons, tallest_nil, Nat.max_zero]

theorem height_yield (value : Option Expr) :
    (yield value).height = tallest height value.toList + 1 := height_eq _

theorem height_yieldFrom (value : Expr) :
    (yieldFrom value).height = value.height + 1 := by
  rw [height_eq]
  simp only [parts, tallest_cons, tallest_nil, Nat.max_zero]

theorem height_compare (left : Expr) (ops : List CompareOp) (comparators : List Expr) :
    (compare left ops comparators).height = max left.height (tallest height comparators) + 1 :=
  height_eq _

theorem height_call (start : Nat) (func : Expr) (args : List Expr) (keywords : List KeywordArg) :
    (call start func args keywords).height =
      max func.height (max (tallest height args) (tallest KeywordArg.height keywords)) + 1 := by
  rw [height_eq]
  simp only [parts, tallest_cons, tallest_append, tallest_values]

theorem height_formatted (value : Expr) (conversion : Conversion) (spec : Option Expr) :
    (formatted value conversion spec).height =
      max value.height (tallest height spec.toList) + 1 := height_eq _

theorem height_joined (values : List Expr) :
    (joined values).height = tallest height values + 1 := height_eq _

theorem height_constant (value : Constant) :
    (constant value).height = 1 := height_eq _

theorem height_attribute (value : Expr) (name : String) :
    (Expr.attribute value name).height = value.height + 1 := by
  rw [height_eq]
  simp only [parts, tallest_cons, tallest_nil, Nat.max_zero]

theorem height_subscript (value index : Expr) :
    (subscript value index).height = max value.height index.height + 1 := by
  rw [height_eq]
  simp only [parts, tallest_cons, tallest_nil, Nat.max_zero]

theorem height_starred (value : Expr) :
    (starred value).height = value.height + 1 := by
  rw [height_eq]
  simp only [parts, tallest_cons, tallest_nil, Nat.max_zero]

theorem height_name (id : String) :
    (name id).height = 1 := height_eq _

theorem height_list (elements : List Expr) :
    (list elements).height = tallest height elements + 1 := height_eq _

theorem height_tuple (elements : List Expr) :
    (tuple elements).height = tallest height elements + 1 := height_eq _

theorem height_slice (lower upper step : Option Expr) :
    (slice lower upper step).height =
      max (tallest height lower.toList)
        (max (tallest height upper.toList) (tallest height step.toList)) + 1 := by
  rw [height_eq]
  simp only [parts, tallest_append, Nat.max_assoc]

end Expr

namespace Stmt

/-- A statement is one higher than its parts and the expressions hidden in it. -/
theorem height_eq (t : Stmt) :
    t.height = max (tallest TreeNode.height t.parts) (tallest Expr.height t.hidden) + 1 := by
  rw [height, TreeNode.height_eq, TreeNode.slots, TreeNode.parts, TreeNode.hidden,
    tallest_append, tallest_exprNodes]

/-- A statement that hides nothing is one higher than its parts. -/
theorem height_plain {t : Stmt} (h : t.hidden = []) :
    t.height = tallest TreeNode.height t.parts + 1 := by
  rw [height_eq, h, tallest_nil, Nat.max_zero]

/-- So is one that holds expressions alone. -/
theorem height_exprs {t : Stmt} {es : List Expr} (hp : t.parts = exprNodes es)
    (hh : t.hidden = []) : t.height = tallest Expr.height es + 1 := by
  rw [height_plain hh, hp, tallest_exprNodes]

theorem height_functionDef (isAsync : Bool) (name : String) (typeParams : List TypeParam)
    (params : Parameters) (returns : Option Expr) (decorators : List Expr) (body : List Stmt) :
    (functionDef isAsync name typeParams params returns decorators body).height =
      max (max (tallest Expr.height decorators) (tallest TypeParam.height typeParams))
        (max params.height (max (tallest Expr.height returns.toList)
          (tallest Stmt.height body))) + 1 := by
  rw [height_eq, Parameters.height]
  simp only [parts, hidden, tallest_append, tallest_exprNodes, tallest_stmtNodes,
    tallest_bounds]
  ac_rfl

theorem height_classDef (name : String) (typeParams : List TypeParam) (bases : List Expr)
    (keywords : List KeywordArg) (decorators : List Expr) (body : List Stmt) :
    (classDef name typeParams bases keywords decorators body).height =
      max (max (tallest Expr.height decorators) (tallest TypeParam.height typeParams))
        (max (max (tallest Expr.height bases) (tallest KeywordArg.height keywords))
          (tallest Stmt.height body)) + 1 := by
  rw [height_eq]
  simp only [parts, hidden, tallest_append, tallest_exprNodes, tallest_stmtNodes,
    tallest_bounds, tallest_values]
  ac_rfl

theorem height_ret (value : Option Expr) :
    (ret value).height = tallest Expr.height value.toList + 1 :=
  height_exprs rfl rfl

theorem height_delete (targets : List Expr) :
    (delete targets).height = tallest Expr.height targets + 1 :=
  height_exprs rfl rfl

theorem height_assign (targets : List Expr) (value : Expr) :
    (assign targets value).height = max (tallest Expr.height targets) value.height + 1 := by
  rw [height_exprs rfl rfl]
  simp only [tallest_append, tallest_cons, tallest_nil, Nat.max_zero]

theorem height_typeAlias (name : String) (typeParams : List TypeParam) (value : Expr) :
    (typeAlias name typeParams value).height =
      max (tallest TypeParam.height typeParams) value.height + 1 := by
  rw [height_eq]
  simp only [parts, hidden, tallest_append, tallest_bounds, tallest_cons, tallest_nil,
    Nat.max_zero, Nat.zero_max]

theorem height_augAssign (target : Expr) (op : BinaryOp) (value : Expr) :
    (augAssign target op value).height = max target.height value.height + 1 := by
  rw [height_exprs rfl rfl]
  simp only [tallest_cons, tallest_nil, Nat.max_zero]

theorem height_annAssign (target typing : Expr) (value : Option Expr) :
    (annAssign target typing value).height =
      max target.height (max typing.height (tallest Expr.height value.toList)) + 1 :=
  have hparts : (annAssign target typing value).parts =
      exprNodes (target :: typing :: value.toList) := rfl
  height_exprs hparts rfl

theorem height_forLoop (isAsync : Bool) (target iter : Expr) (body orelse : List Stmt) :
    (forLoop isAsync target iter body orelse).height =
      max (max target.height iter.height)
        (max (tallest Stmt.height body) (tallest Stmt.height orelse)) + 1 := by
  rw [height_plain rfl]
  simp only [parts, tallest_append, tallest_exprNodes, tallest_stmtNodes, tallest_cons,
    tallest_nil, Nat.max_zero]

theorem height_whileLoop (test : Expr) (body orelse : List Stmt) :
    (whileLoop test body orelse).height =
      max test.height (max (tallest Stmt.height body) (tallest Stmt.height orelse)) + 1 := by
  rw [height_plain rfl]
  simp only [parts, tallest_append, tallest_exprNodes, tallest_stmtNodes, tallest_cons,
    tallest_nil, Nat.max_zero]

theorem height_branch (test : Expr) (body orelse : List Stmt) :
    (branch test body orelse).height =
      max test.height (max (tallest Stmt.height body) (tallest Stmt.height orelse)) + 1 := by
  rw [height_plain rfl]
  simp only [parts, tallest_append, tallest_exprNodes, tallest_stmtNodes, tallest_cons,
    tallest_nil, Nat.max_zero]

theorem height_withBlock (isAsync : Bool) (items : List WithItem) (body : List Stmt) :
    (withBlock isAsync items body).height =
      max (tallest WithItem.height items) (tallest Stmt.height body) + 1 := by
  rw [height_plain rfl]
  simp only [parts, tallest_append, tallest_exprNodes, tallest_stmtNodes, tallest_flatMap]
  rfl

theorem height_choice (subject : Expr) (cases : List MatchCase) :
    (choice subject cases).height = max subject.height (tallest MatchCase.height cases) + 1 := by
  have hcases : tallest MatchCase.height cases =
      max (tallest (fun c => tallest TreeNode.height c.parts) cases)
        (tallest (fun c => tallest Expr.height c.pattern.exprs) cases) := by
    induction cases with
    | nil => rfl
    | cons c cases ih =>
        simp only [tallest_cons, ih, MatchCase.height, Pattern.height]
        omega
  rw [height_eq, hcases]
  simp only [parts, hidden, tallest_append, tallest_exprNodes, tallest_flatMap, tallest_cons,
    tallest_nil, Nat.max_zero, Nat.max_assoc]

theorem height_raise (exception cause : Option Expr) :
    (raise exception cause).height =
      max (tallest Expr.height exception.toList) (tallest Expr.height cause.toList) + 1 := by
  rw [height_exprs rfl rfl, tallest_append]

theorem height_guarded (isStar : Bool) (body : List Stmt) (handlers : List Handler)
    (orelse finalbody : List Stmt) :
    (guarded isStar body handlers orelse finalbody).height =
      max (max (tallest Stmt.height body) (tallest Handler.height handlers))
        (max (tallest Stmt.height orelse) (tallest Stmt.height finalbody)) + 1 := by
  rw [height_plain rfl]
  simp only [parts, tallest_append, tallest_stmtNodes, tallest_flatMap]
  rfl

theorem height_assert (test : Expr) (message : Option Expr) :
    (assert test message).height = max test.height (tallest Expr.height message.toList) + 1 :=
  have hparts : (assert test message).parts = exprNodes (test :: message.toList) := rfl
  height_exprs hparts rfl

theorem height_expr (value : Expr) : (expr value).height = value.height + 1 := by
  rw [height_exprs rfl rfl]
  simp only [tallest_cons, tallest_nil, Nat.max_zero]

/-- A statement that holds nothing is one node. -/
theorem height_leaf {t : Stmt} (hp : t.parts = []) (hh : t.hidden = []) : t.height = 1 := by
  rw [height_plain hh, hp, tallest_nil]

end Stmt

end SceneRender.Script
