import Mathlib.Data.List.Basic
import Mathlib.Logic.Relation
import SceneRender.Proofs.Script.Parts
import SceneRender.Script.Walk

/-!
# The order of a walk

A walk takes the nodes of a tree one after the other: `TreeNode.preorder` lists them,
each node before its parts and the parts in their order, and `walkNode_eq_foldl`
says that this is what a walk does, whatever its visitor.

`mem_walkedNodes` finds the nodes that are walked from their places in the tree: they
are `Walked`, reached from the top through parts alone.
-/

namespace SceneRender.Script

variable {σ : Type}

/-- What a visitor does with a node. -/
def Visitor.node (v : Visitor σ) (s : σ) : TreeNode → σ
  | .stmt t => v.stmt s t
  | .expr e => v.expr s e

/-- Walks a node. -/
def walkNode (v : Visitor σ) (s : σ) : TreeNode → σ
  | .stmt t => walkStmt v s t
  | .expr e => walkExpr v s e

/-! ## One node: the visitor, then the parts -/

/-- Expressions are walked one after the other. -/
theorem walkExprs_eq (v : Visitor σ) (s : σ) (es : List Expr) :
    walkExprs v s es = (exprNodes es).foldl (walkNode v) s := by
  induction es generalizing s with
  | nil => rfl
  | cons e es ih => exact ih _

/-- An expression is walked if there is one. -/
theorem walkOption_eq (v : Visitor σ) (s : σ) (o : Option Expr) :
    walkOption v s o = (exprNodes o.toList).foldl (walkNode v) s := by
  cases o <;> rfl

/-- The keys that are there are walked in order. -/
theorem walkKeys_eq (v : Visitor σ) (s : σ) (keys : List (Option Expr)) :
    walkKeys v s keys = (exprNodes (keys.flatMap (·.toList))).foldl (walkNode v) s := by
  induction keys generalizing s with
  | nil => rfl
  | cons key keys ih =>
      rw [walkKeys, ih, walkOption_eq, List.flatMap_cons, exprNodes_append, List.foldl_append]

/-- Keyword arguments are walked as their values. -/
theorem walkKeywords_eq (v : Visitor σ) (s : σ) (keywords : List KeywordArg) :
    walkKeywords v s keywords = (exprNodes (keywords.map (·.value))).foldl (walkNode v) s := by
  induction keywords generalizing s with
  | nil => rfl
  | cons keyword keywords ih =>
      obtain ⟨name, value⟩ := keyword
      exact ih _

/-- Clauses are walked as their parts. -/
theorem walkClauses_eq (v : Visitor σ) (s : σ) (clauses : List Comprehension) :
    walkClauses v s clauses = (exprNodes (clauses.flatMap (·.parts))).foldl (walkNode v) s := by
  induction clauses generalizing s with
  | nil => rfl
  | cons clause clauses ih =>
      obtain ⟨isAsync, target, iter, conditions⟩ := clause
      rw [walkClauses, ih, walkExprs_eq, List.flatMap_cons, exprNodes_append, List.foldl_append]
      rfl

/-- Parameters are walked as their typings and defaults. -/
theorem walkParams_eq (v : Visitor σ) (s : σ) (ps : List Parameter) :
    walkParams v s ps = (exprNodes (ps.flatMap (·.parts))).foldl (walkNode v) s := by
  induction ps generalizing s with
  | nil => rfl
  | cons p ps ih =>
      obtain ⟨name, typing, default⟩ := p
      rw [walkParams, ih, walkOption_eq, walkOption_eq, List.flatMap_cons, exprNodes_append,
        List.foldl_append, Parameter.parts, exprNodes_append, List.foldl_append]

/-- A parameter that takes the rest is walked as its typing. -/
theorem walkRest_eq (v : Visitor σ) (s : σ) (o : Option RestParameter) :
    walkRest v s o = (exprNodes (o.toList.flatMap (·.typing.toList))).foldl (walkNode v) s := by
  rcases o with _ | ⟨name, typing⟩
  · rfl
  · simp [walkRest, walkOption_eq, RestParameter.typing]

/-- Parameters are walked as their parts. -/
theorem walkParameters_eq (v : Visitor σ) (s : σ) (ps : Parameters) :
    walkParameters v s ps = (exprNodes ps.parts).foldl (walkNode v) s := by
  obtain ⟨positionalOnly, positional, rest, keywordOnly, keywordRest⟩ := ps
  simp only [walkParameters, walkParams_eq, walkRest_eq, Parameters.parts,
    List.flatMap_append, exprNodes_append, List.foldl_append]

/-- Items are walked as their parts. -/
theorem walkItems_eq (v : Visitor σ) (s : σ) (items : List WithItem) :
    walkItems v s items = (exprNodes (items.flatMap (·.parts))).foldl (walkNode v) s := by
  induction items generalizing s with
  | nil => rfl
  | cons item items ih =>
      obtain ⟨context, target⟩ := item
      rw [walkItems, List.foldl_cons, ← walkItems, ih, walkOption_eq, List.flatMap_cons,
        exprNodes_append, List.foldl_append]
      rfl

/-- An expression is visited, and then its parts are walked. -/
theorem walkExpr_eq (v : Visitor σ) (s : σ) (e : Expr) :
    walkExpr v s e = (exprNodes e.parts).foldl (walkNode v) (v.expr s e) := by
  cases e <;>
    simp only [walkExpr, Expr.parts, walkExprs_eq, walkOption_eq, walkKeys_eq, walkKeywords_eq,
      walkClauses_eq, walkParameters_eq, exprNodes, List.map_append, List.map_cons,
      List.foldl_append, List.foldl_cons] <;>
    rfl

/-- Statements are walked one after the other. -/
theorem walkBody_eq (v : Visitor σ) (s : σ) (body : List Stmt) :
    walkBody v s body = (stmtNodes body).foldl (walkNode v) s := by
  induction body generalizing s with
  | nil => rfl
  | cons t body ih => exact ih _

/-- The `except` clauses are walked as their parts. -/
theorem walkHandlers_eq (v : Visitor σ) (s : σ) (handlers : List Handler) :
    walkHandlers v s handlers = (handlers.flatMap (·.parts)).foldl (walkNode v) s := by
  induction handlers generalizing s with
  | nil => rfl
  | cons handler handlers ih =>
      obtain ⟨type, name, body⟩ := handler
      rw [walkHandlers, ih, walkBody_eq, walkOption_eq, List.flatMap_cons, List.foldl_append,
        Handler.parts, List.foldl_append]

/-- Cases are walked as their guards and blocks. -/
theorem walkCases_eq (v : Visitor σ) (s : σ) (cases : List MatchCase) :
    walkCases v s cases = (cases.flatMap (·.parts)).foldl (walkNode v) s := by
  induction cases generalizing s with
  | nil => rfl
  | cons case cases ih =>
      obtain ⟨pattern, guard, body⟩ := case
      rw [walkCases, ih, walkBody_eq, walkOption_eq, List.flatMap_cons, List.foldl_append,
        MatchCase.parts, List.foldl_append]

/-- A statement is visited, and then its parts are walked. -/
theorem walkStmt_eq (v : Visitor σ) (s : σ) (t : Stmt) :
    walkStmt v s t = t.parts.foldl (walkNode v) (v.stmt s t) := by
  cases t <;>
    simp only [walkStmt, Stmt.parts, walkExprs_eq, walkOption_eq, walkKeywords_eq,
      walkParameters_eq, walkItems_eq, walkBody_eq, walkHandlers_eq, walkCases_eq,
      exprNodes_append, stmtNodes_append, List.foldl_append] <;>
    rfl

/-- **A walk of a node** visits the node and then walks its parts in their order. -/
theorem walkNode_eq (v : Visitor σ) (s : σ) (n : TreeNode) :
    walkNode v s n = n.parts.foldl (walkNode v) (v.node s n) := by
  cases n with
  | stmt t => exact walkStmt_eq v s t
  | expr e => exact walkExpr_eq v s e

/-! ## All nodes -/

/-- The nodes of a tree that a walk takes, in its order. -/
def TreeNode.preorder (n : TreeNode) : List TreeNode :=
  n :: n.parts.attach.flatMap fun m => m.1.preorder
termination_by n
decreasing_by exact TreeNode.sizeOf_lt_of_mem_parts m.2

/-- A node comes first, and then what is below its parts. -/
theorem TreeNode.preorder_eq (n : TreeNode) : n.preorder = n :: n.parts.flatMap preorder := by
  rw [preorder, List.flatMap_subtype fun _ _ => rfl, List.unattach_attach]

/-- **A walk takes the nodes one after the other.** -/
theorem walkNode_eq_foldl (v : Visitor σ) (s : σ) (n : TreeNode) :
    walkNode v s n = n.preorder.foldl v.node s := by
  induction n using TreeNode.parts_induction generalizing s with
  | step n ih =>
      rw [walkNode_eq, n.preorder_eq, List.foldl_cons, List.foldl_flatMap]
      exact List.foldl_ext _ _ _ fun s m hm => ih m hm s

/-- The nodes of a module that a walk takes, in its order. -/
def walkedNodes (body : List Stmt) : List TreeNode := (stmtNodes body).flatMap (·.preorder)

/-- A walk of a module takes its nodes one after the other. -/
theorem walkBody_eq_foldl (v : Visitor σ) (s : σ) (body : List Stmt) :
    walkBody v s body = (walkedNodes body).foldl v.node s := by
  rw [walkBody_eq, walkedNodes, List.foldl_flatMap]
  exact List.foldl_ext _ _ _ fun s m _ => walkNode_eq_foldl v s m

/-! ## Places in a tree -/

/-- The nodes that are reached from a module through parts alone. -/
inductive Walked (body : List Stmt) : TreeNode → Prop
  | top {t : Stmt} (ht : t ∈ body) : Walked body (.stmt t)
  | part {n m : TreeNode} (hn : Walked body n) (hm : m ∈ n.parts) : Walked body m

/-- The nodes of a module with their depths, the statements at the top having depth
one.  What is hidden from a walk counts as well. -/
inductive AtDepth (body : List Stmt) : Nat → TreeNode → Prop
  | top {t : Stmt} (ht : t ∈ body) : AtDepth body 1 (.stmt t)
  | slot {d : Nat} {n m : TreeNode} (hn : AtDepth body d n) (hm : m ∈ n.slots) :
      AtDepth body (d + 1) m

/-- Is the node in the tree of a module, anywhere at all? -/
def Present (body : List Stmt) (n : TreeNode) : Prop := ∃ d, AtDepth body d n

/-- Does the second node lie within the first one, or is it the same? -/
def Within : TreeNode → TreeNode → Prop := Relation.ReflTransGen fun n m => m ∈ n.slots

variable {body : List Stmt} {n m : TreeNode}

/-- A node is in its own preorder. -/
theorem TreeNode.self_mem_preorder (n : TreeNode) : n ∈ n.preorder := by
  rw [n.preorder_eq]
  exact List.mem_cons_self

/-- What is below a part is below the node. -/
theorem TreeNode.preorder_subset_of_mem_parts (hm : m ∈ n.parts) : m.preorder ⊆ n.preorder := by
  intro k hk
  rw [n.preorder_eq]
  exact List.mem_cons_of_mem _ (List.mem_flatMap.mpr ⟨m, hm, hk⟩)

/-- The parts of a node in preorder are in preorder, too. -/
theorem TreeNode.parts_mem_preorder {k : TreeNode} (hm : m ∈ n.preorder) (hk : k ∈ m.parts) :
    k ∈ n.preorder := by
  induction n using TreeNode.parts_induction with
  | step n ih =>
      rw [n.preorder_eq] at hm
      rcases List.mem_cons.mp hm with rfl | hm
      · exact preorder_subset_of_mem_parts hk k.self_mem_preorder
      · obtain ⟨p, hp, hm⟩ := List.mem_flatMap.mp hm
        exact preorder_subset_of_mem_parts hp (ih p hp hm)

/-- What is in preorder below a walked node is walked. -/
theorem Walked.of_mem_preorder (hn : Walked body n) (hm : m ∈ n.preorder) : Walked body m := by
  induction n using TreeNode.parts_induction with
  | step n ih =>
      rw [n.preorder_eq] at hm
      rcases List.mem_cons.mp hm with rfl | hm
      · exact hn
      · obtain ⟨p, hp, hm⟩ := List.mem_flatMap.mp hm
        exact ih p hp (.part hn hp) hm

/-- **The walked nodes** are those reached through parts alone. -/
theorem mem_walkedNodes : n ∈ walkedNodes body ↔ Walked body n := by
  constructor
  · intro hn
    obtain ⟨m, hm, hn⟩ := List.mem_flatMap.mp hn
    obtain ⟨t, ht, rfl⟩ := List.mem_map.mp hm
    exact Walked.of_mem_preorder (.top ht) hn
  · intro hn
    induction hn with
    | top ht =>
        exact List.mem_flatMap.mpr ⟨_, List.mem_map_of_mem ht, TreeNode.self_mem_preorder _⟩
    | part hn hm ih =>
        obtain ⟨top, htop, hn⟩ := List.mem_flatMap.mp ih
        exact List.mem_flatMap.mpr ⟨top, htop, TreeNode.parts_mem_preorder hn hm⟩

/-- What is walked is in the tree. -/
theorem Walked.present (hn : Walked body n) : Present body n := by
  induction hn with
  | top ht => exact ⟨1, .top ht⟩
  | part hn hm ih =>
      obtain ⟨d, hd⟩ := ih
      exact ⟨d + 1, .slot hd (List.mem_append_left _ hm)⟩

/-- What lies within a node of the tree is in the tree. -/
theorem Present.within (hn : Present body n) (hm : Within n m) : Present body m := by
  induction hm with
  | refl => exact hn
  | tail _ hslot ih =>
      obtain ⟨d, hd⟩ := ih
      exact ⟨d + 1, .slot hd hslot⟩

/-- What lies within something hidden from a walked node is in the tree. -/
theorem Within.present_of_hidden {w : TreeNode} {e : Expr} (hn : Within (.expr e) n)
    (hw : Walked body w) (he : e ∈ w.hidden) : Present body n := by
  obtain ⟨d, hd⟩ := hw.present
  exact Present.within ⟨d + 1, .slot hd (List.mem_append_right _ (List.mem_map_of_mem he))⟩ hn

/-- **A node that is not walked** lies within something hidden from a walked node. -/
theorem AtDepth.walked_or_hidden {d : Nat} (hn : AtDepth body d n) :
    Walked body n ∨ ∃ w e, Walked body w ∧ e ∈ w.hidden ∧ Within (.expr e) n := by
  induction hn with
  | top ht => exact Or.inl (.top ht)
  | slot hn hm ih =>
      rcases ih with hwalked | ⟨w, e, hw, he, hpath⟩
      · rcases List.mem_append.mp hm with hm | hm
        · exact Or.inl (.part hwalked hm)
        · obtain ⟨e, he, rfl⟩ := List.mem_map.mp hm
          exact Or.inr ⟨_, e, hwalked, he, .refl⟩
      · exact Or.inr ⟨w, e, hw, he, hpath.tail hm⟩

/-- What lies within an expression is an expression. -/
theorem Within.eq_expr {e : Expr} (hn : Within (.expr e) n) : ∃ e', n = .expr e' := by
  induction hn with
  | refl => exact ⟨e, rfl⟩
  | tail _ hslot ih =>
      obtain ⟨e', rfl⟩ := ih
      rw [TreeNode.slots, TreeNode.parts, ← exprNodes_append] at hslot
      obtain ⟨e'', -, rfl⟩ := List.mem_map.mp hslot
      exact ⟨e'', rfl⟩

/-- **Every statement is walked**: what is hidden from a walk holds expressions only. -/
theorem Present.walked {t : Stmt} (ht : Present body (.stmt t)) : Walked body (.stmt t) := by
  obtain ⟨d, ht⟩ := ht
  rcases ht.walked_or_hidden with hwalked | ⟨w, e, -, -, hwithin⟩
  · exact hwalked
  · obtain ⟨e', he'⟩ := hwithin.eq_expr
    cases he'

/-! ## Looking for a node -/

/-- The visitor that looks for a node with a property. -/
def Visitor.seeking (p : TreeNode → Bool) : Visitor Bool where
  stmt found t := found || p (.stmt t)
  expr found e := found || p (.expr e)

/-- A walk finds a node with a property exactly if there is one to be walked. -/
theorem walkBody_seeking (p : TreeNode → Bool) (body : List Stmt) :
    walkBody (.seeking p) false body = (walkedNodes body).any p := by
  have hfold : ∀ (nodes : List TreeNode) (found : Bool),
      nodes.foldl (Visitor.seeking p).node found = (found || nodes.any p) := by
    intro nodes
    induction nodes with
    | nil => simp
    | cons n nodes ih =>
        intro found
        rw [List.foldl_cons, ih]
        cases n <;> simp [Visitor.node, Visitor.seeking, Bool.or_assoc]
  rw [walkBody_eq_foldl, hfold, Bool.false_or]

/-- The visitor that collects what some nodes have, the last first. -/
def Visitor.collecting {α : Type} (f : TreeNode → Option α) : Visitor (List α) where
  stmt found t := (f (.stmt t)).toList ++ found
  expr found e := (f (.expr e)).toList ++ found

/-- The collecting visitor collects what the nodes have, the last first. -/
theorem foldl_collecting {α : Type} (f : TreeNode → Option α) (nodes : List TreeNode)
    (found : List α) : nodes.foldl (Visitor.collecting f).node found =
      (nodes.filterMap f).reverse ++ found := by
  induction nodes generalizing found with
  | nil => rfl
  | cons n nodes ih =>
      have hnode : (Visitor.collecting f).node found n = (f n).toList ++ found := by
        cases n <;> rfl
      rw [List.foldl_cons, ih, hnode]
      cases hf : f n <;> simp [hf]

/-- A walk collects what the nodes have, in its order. -/
theorem walkBody_collecting {α : Type} (f : TreeNode → Option α) (body : List Stmt) :
    (walkBody (.collecting f) [] body).reverse = (walkedNodes body).filterMap f := by
  rw [walkBody_eq_foldl, foldl_collecting, List.append_nil, List.reverse_reverse]

end SceneRender.Script
