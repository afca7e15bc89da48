import SceneRender.Proofs.Script.Preorder

/-!
# The visits of a walk

Equal nodes may stand in several places of a tree, so what is visited how often is said of
places.  A place is the numbers of the slots that lead to it, from the top on; `nodeAt?` is the
node there.  A walk is the calls of its visitor for `visits`, and these are places of the tree in
lexicographic order (`TreeNode.ascending_visits`): each place once, a node before what lies within
it, and what lies within one slot before what lies within a later one.  `mem_visits` says which
places they are.

A walk passes over patterns alone, where a tree has no type parameters and no type aliases.
-/

namespace SceneRender.Script

variable {body : List Stmt} {n m : TreeNode} {place : List Nat}

/-! ## Places -/

/-- The node at a place below a node: the number of a slot for each level. -/
def TreeNode.at? (n : TreeNode) : List Nat → Option TreeNode
  | [] => some n
  | i :: place => n.slots[i]?.bind fun m => m.at? place

/-- The node at a place of a module; the number of the statement at the top comes first. -/
def nodeAt? (body : List Stmt) : List Nat → Option TreeNode
  | [] => none
  | i :: place => (stmtNodes body)[i]?.bind fun n => n.at? place

/-- Does a place lead through something hidden from a walk, in a node of some kind?  What is
hidden in a node comes behind its parts. -/
def LeadsPast (nodeAt? : List Nat → Option TreeNode) (kind : TreeNode → Prop)
    (place : List Nat) : Prop :=
  ∃ above i below n, place = above ++ i :: below ∧ nodeAt? above = some n ∧ kind n ∧
    n.parts.length ≤ i

/-- Is the node a `match` statement? -/
def TreeNode.IsChoice : TreeNode → Prop
  | .stmt (.choice _ _) => True
  | _ => False

/-- Does the place lie inside a pattern? -/
def InPattern (body : List Stmt) : List Nat → Prop :=
  LeadsPast (nodeAt? body) TreeNode.IsChoice

/-- A place below a place is found in two steps. -/
theorem TreeNode.at?_append (above below : List Nat) :
    n.at? (above ++ below) = (n.at? above).bind fun m => m.at? below := by
  induction above generalizing n with
  | nil => rfl
  | cons i above ih =>
      rw [List.cons_append, at?, at?, Option.bind_assoc]
      exact Option.bind_congr fun m _ => ih

/-- From a node of a module on a place leads through that node. -/
theorem nodeAt?_append {above : List Nat} (hn : nodeAt? body above = some n) (below : List Nat) :
    nodeAt? body (above ++ below) = n.at? below := by
  cases above with
  | nil => cases hn
  | cons i above =>
      obtain ⟨top, htop, hn⟩ := Option.bind_eq_some_iff.mp hn
      rw [List.cons_append, nodeAt?, htop, Option.bind_some, TreeNode.at?_append, hn,
        Option.bind_some]

/-- What is at a place below a node lies within it. -/
theorem TreeNode.within_of_at? (h : n.at? place = some m) : Within n m := by
  induction place generalizing n with
  | nil =>
      cases h
      exact .refl
  | cons i place ih =>
      obtain ⟨k, hk, hm⟩ := Option.bind_eq_some_iff.mp h
      exact .head (List.mem_of_getElem? hk) (ih hm)

/-- What is at a place of a module is in its tree. -/
theorem present_of_nodeAt? (h : nodeAt? body place = some n) : Present body n := by
  cases place with
  | nil => cases h
  | cons i place =>
      obtain ⟨top, htop, hn⟩ := Option.bind_eq_some_iff.mp h
      obtain ⟨t, ht, rfl⟩ := List.mem_map.mp (List.mem_of_getElem? htop)
      exact Present.within ⟨1, .top ht⟩ (TreeNode.within_of_at? hn)

/-! ## Visits -/

/-- Visits in several nodes, each with the number of its node in front. -/
def numbered (visits : List (List (List Nat × TreeNode))) : List (List Nat × TreeNode) :=
  visits.zipIdx.flatMap fun (below, i) => below.map fun visit => (i :: visit.1, visit.2)

/-- The visits in a node: places below it with the nodes there. -/
def TreeNode.visits (n : TreeNode) : List (List Nat × TreeNode) :=
  ([], n) :: numbered (n.parts.attach.map fun m => m.1.visits)
termination_by n
decreasing_by exact TreeNode.sizeOf_lt_of_mem_parts m.2

/-- The visits in a module. -/
def visits (body : List Stmt) : List (List Nat × TreeNode) :=
  numbered ((stmtNodes body).map TreeNode.visits)

/-- A node is visited, and then its parts in order. -/
theorem TreeNode.visits_eq (n : TreeNode) :
    n.visits = ([], n) :: numbered (n.parts.map visits) := by
  rw [visits, List.attach_map_val]

/-- Numbering changes places only. -/
theorem map_snd_numbered (visits : List (List (List Nat × TreeNode))) :
    (numbered visits).map (·.2) = visits.flatMap fun below => below.map (·.2) := by
  rw [numbered, List.map_flatMap]
  conv_rhs => rw [← List.zipIdx_map_fst 0 visits, List.flatMap_map]
  refine List.flatMap_congr fun below _ => ?_
  rw [List.map_map]
  rfl

/-- A numbered visit is one of the node with its number. -/
theorem mem_numbered {visits : List (List (List Nat × TreeNode))} :
    (place, n) ∈ numbered visits ↔
      ∃ i below place', visits[i]? = some below ∧ (place', n) ∈ below ∧ place = i :: place' := by
  simp only [numbered, List.mem_flatMap, List.mem_map, Prod.exists, Prod.mk.injEq,
    List.mem_zipIdx_iff_getElem?]
  constructor
  · rintro ⟨below, i, hbelow, place', n', hvisit, rfl, rfl⟩
    exact ⟨i, below, place', hbelow, hvisit, rfl⟩
  · rintro ⟨i, below, place', hbelow, hvisit, rfl⟩
    exact ⟨below, i, hbelow, place', n, hvisit, rfl, rfl⟩

/-- Do the places of some visits ascend? -/
def Ascending (visits : List (List Nat × TreeNode)) : Prop :=
  visits.Pairwise fun visit visit' => List.Lex (· < ·) visit.1 visit'.1

/-- The numbers of a list ascend. -/
theorem pairwise_snd_zipIdx {α : Type} (l : List α) (k : Nat) :
    (l.zipIdx k).Pairwise fun a b => a.2 < b.2 := by
  induction l generalizing k with
  | nil => exact .nil
  | cons a l ih =>
      rw [List.zipIdx_cons]
      exact .cons (fun b hb => List.le_snd_of_mem_zipIdx hb) (ih (k + 1))

/-- Numbered visits ascend if those in each node do. -/
theorem ascending_numbered {visits : List (List (List Nat × TreeNode))}
    (h : ∀ below ∈ visits, Ascending below) : Ascending (numbered visits) := by
  rw [Ascending, numbered, List.pairwise_flatMap]
  constructor
  · rintro ⟨below, i⟩ hbelow
    rw [List.pairwise_map]
    exact (h below (List.fst_mem_of_mem_zipIdx hbelow)).imp fun hlex => .cons hlex
  · refine (pairwise_snd_zipIdx visits 0).imp fun {a b} hlt => ?_
    intro visit hvisit visit' hvisit'
    obtain ⟨below, -, rfl⟩ := List.mem_map.mp hvisit
    obtain ⟨below', -, rfl⟩ := List.mem_map.mp hvisit'
    exact .rel hlt

/-- **A node is visited before what lies within it, and its parts in their order.** -/
theorem TreeNode.ascending_visits (n : TreeNode) : Ascending n.visits := by
  induction n using TreeNode.parts_induction with
  | step n ih =>
      rw [n.visits_eq]
      refine .cons (fun visit hvisit => ?_) (ascending_numbered ?_)
      · obtain ⟨i, below, place', -, -, hplace⟩ := mem_numbered.mp hvisit
        rw [hplace]
        exact .nil
      · intro below hbelow
        obtain ⟨m, hm, rfl⟩ := List.mem_map.mp hbelow
        exact ih m hm

/-- Without their places the visits are the nodes that a walk takes. -/
theorem TreeNode.map_snd_visits (n : TreeNode) : n.visits.map (·.2) = n.preorder := by
  induction n using TreeNode.parts_induction with
  | step n ih =>
      rw [n.visits_eq, n.preorder_eq, List.map_cons, map_snd_numbered, List.flatMap_map]
      exact congrArg _ (List.flatMap_congr ih)

/-- Without their places the visits in a module are the nodes that a walk takes. -/
theorem map_snd_visits (body : List Stmt) : (visits body).map (·.2) = walkedNodes body := by
  rw [visits, map_snd_numbered, List.flatMap_map]
  exact List.flatMap_congr fun n _ => n.map_snd_visits

/-! ## Where the visits are -/

/-- The part with a number is the slot with it, and what comes behind is hidden. -/
theorem TreeNode.part_eq_some_iff {i : Nat} :
    n.parts[i]? = some m ↔ n.slots[i]? = some m ∧ i < n.parts.length := by
  rw [slots]
  constructor
  · intro h
    have hlt : i < n.parts.length := (List.getElem?_eq_some_iff.mp h).1
    exact ⟨by rw [List.getElem?_append_left hlt, h], hlt⟩
  · rintro ⟨h, hlt⟩
    rwa [List.getElem?_append_left hlt] at h

/-- The top leads past nothing. -/
theorem leadsPast_nil {nodeAt? : List Nat → Option TreeNode} {kind : TreeNode → Prop} :
    ¬ LeadsPast nodeAt? kind [] := by
  rintro ⟨above, i, below, k, hplace, -⟩
  exact List.append_ne_nil_of_right_ne_nil _ (List.cons_ne_nil _ _) hplace.symm

/-- A place leads past the walk at the top or further down. -/
theorem leadsPast_cons {nodeAt? : List Nat → Option TreeNode} {kind : TreeNode → Prop} {i : Nat} :
    LeadsPast nodeAt? kind (i :: place) ↔
      (∃ n, nodeAt? [] = some n ∧ kind n ∧ n.parts.length ≤ i) ∨
        LeadsPast (fun below => nodeAt? (i :: below)) kind place := by
  constructor
  · rintro ⟨above, j, below, k, hplace, hk, hkind, hle⟩
    cases above with
    | nil =>
        cases hplace
        exact Or.inl ⟨k, hk, hkind, hle⟩
    | cons i' above =>
        rw [List.cons_append, List.cons.injEq] at hplace
        obtain ⟨rfl, hplace⟩ := hplace
        exact Or.inr ⟨above, j, below, k, hplace, hk, hkind, hle⟩
  · rintro (⟨n, hn, hkind, hle⟩ | ⟨above, j, below, k, rfl, hk, hkind, hle⟩)
    · exact ⟨[], i, place, n, rfl, hn, hkind, hle⟩
    · exact ⟨i :: above, j, below, k, rfl, hk, hkind, hle⟩

/-- A place leads past the walk only where there is a node. -/
theorem leadsPast_bind {o : Option TreeNode} {kind : TreeNode → Prop} :
    LeadsPast (fun place => o.bind fun n => n.at? place) kind place ↔
      ∃ n, o = some n ∧ LeadsPast n.at? kind place := by
  cases o with
  | none =>
      refine ⟨fun ⟨_, _, _, _, _, hk, _⟩ => ?_, fun ⟨_, hnone, _⟩ => ?_⟩
      · cases hk
      · cases hnone
  | some n => exact ⟨fun h => ⟨n, rfl, h⟩, fun ⟨_, hn, h⟩ => Option.some.inj hn ▸ h⟩

/-- A place leads past the walk in the node itself or further down. -/
theorem TreeNode.leadsPast_cons {kind : TreeNode → Prop} {i : Nat} :
    LeadsPast n.at? kind (i :: place) ↔ (kind n ∧ n.parts.length ≤ i) ∨
      ∃ m, n.slots[i]? = some m ∧ LeadsPast m.at? kind place := by
  rw [Script.leadsPast_cons, ← leadsPast_bind]
  simp only [at?, Option.some.injEq, exists_eq_left']

/-- At the top of a module nothing is hidden. -/
theorem leadsPast_module_cons {kind : TreeNode → Prop} {i : Nat} :
    LeadsPast (nodeAt? body) kind (i :: place) ↔
      ∃ n, (stmtNodes body)[i]? = some n ∧ LeadsPast n.at? kind place := by
  rw [leadsPast_cons, ← leadsPast_bind]
  simp only [nodeAt?, reduceCtorEq, false_and, exists_false, false_or]

/-- A numbered visit is one in the node with its number. -/
theorem mem_numbered_visits {ns : List TreeNode} {i : Nat} :
    (i :: place, m) ∈ numbered (ns.map TreeNode.visits) ↔
      ∃ n, ns[i]? = some n ∧ (place, m) ∈ n.visits := by
  rw [mem_numbered]
  constructor
  · rintro ⟨_, below, _, hbelow, hvisit, hplace⟩
    cases hplace
    rw [List.getElem?_map, Option.map_eq_some_iff] at hbelow
    obtain ⟨n, hn, rfl⟩ := hbelow
    exact ⟨n, hn, hvisit⟩
  · rintro ⟨n, hn, hvisit⟩
    exact ⟨i, n.visits, place, by rw [List.getElem?_map, hn, Option.map_some], hvisit, rfl⟩

/-- **The visits in a node** are at its places that lead through parts alone. -/
theorem TreeNode.mem_visits : (place, m) ∈ n.visits ↔
    n.at? place = some m ∧ ¬ LeadsPast n.at? (fun _ => True) place := by
  induction place generalizing n with
  | nil =>
      rw [n.visits_eq, List.mem_cons, Prod.mk.injEq, and_iff_left leadsPast_nil]
      simp only [mem_numbered, reduceCtorEq, and_false, exists_false, or_false, true_and, at?,
        Option.some.injEq, eq_comm]
  | cons i place ih =>
      have hparts : (i :: place, m) ∈ n.visits ↔
          ∃ k, n.parts[i]? = some k ∧ (place, m) ∈ k.visits := by
        rw [n.visits_eq, List.mem_cons, ← mem_numbered_visits]
        simp only [Prod.mk.injEq, reduceCtorEq, false_and, false_or]
      rw [hparts, at?, Option.bind_eq_some_iff, TreeNode.leadsPast_cons, not_or]
      constructor
      · rintro ⟨k, hk, hvisit⟩
        obtain ⟨hslot, hlt⟩ := part_eq_some_iff.mp hk
        obtain ⟨hm, hpast⟩ := ih.mp hvisit
        refine ⟨⟨k, hslot, hm⟩, fun h => Nat.not_le.mpr hlt h.2, ?_⟩
        rintro ⟨k', hslot', hpast'⟩
        cases hslot.symm.trans hslot'
        exact hpast hpast'
      · rintro ⟨⟨k, hslot, hm⟩, hhere, hbelow⟩
        have hlt : i < n.parts.length := Nat.not_le.mp fun hle => hhere ⟨trivial, hle⟩
        refine ⟨k, part_eq_some_iff.mpr ⟨hslot, hlt⟩, ih.mpr ⟨hm, fun hpast => ?_⟩⟩
        exact hbelow ⟨k, hslot, hpast⟩

/-- **The visits in a module** are at the places of its tree that lead through parts alone. -/
theorem mem_visits : (place, n) ∈ visits body ↔
    nodeAt? body place = some n ∧ ¬ LeadsPast (nodeAt? body) (fun _ => True) place := by
  rw [visits]
  cases place with
  | nil => simp [nodeAt?, mem_numbered]
  | cons i place =>
      rw [mem_numbered_visits, nodeAt?, Option.bind_eq_some_iff, leadsPast_module_cons]
      constructor
      · rintro ⟨top, htop, hvisit⟩
        obtain ⟨hn, hpast⟩ := TreeNode.mem_visits.mp hvisit
        refine ⟨⟨top, htop, hn⟩, ?_⟩
        rintro ⟨top', htop', hpast'⟩
        cases htop.symm.trans htop'
        exact hpast hpast'
      · rintro ⟨⟨top, htop, hn⟩, hpast⟩
        refine ⟨top, htop, TreeNode.mem_visits.mpr ⟨hn, fun hpast' => ?_⟩⟩
        exact hpast ⟨top, htop, hpast'⟩

/-! ## What a walk passes over -/

/-- Has the statement type parameters, or is it a type alias? -/
def Stmt.hasTypeSyntax : Stmt → Bool
  | .functionDef _ _ typeParams _ _ _ _ => !typeParams.isEmpty
  | .classDef _ typeParams _ _ _ _ => !typeParams.isEmpty
  | .typeAlias _ _ _ => true
  | _ => false

/-- Is the node a statement with type parameters, or a type alias? -/
def TreeNode.hasTypeSyntax : TreeNode → Bool
  | .stmt t => t.hasTypeSyntax
  | .expr _ => false

/-- Has no statement of the tree type parameters, and is none a type alias? -/
def WithoutTypeSyntax (body : List Stmt) : Prop :=
  ∀ n, Present body n → n.hasTypeSyntax = false

/-- **What is hidden besides type syntax** is in patterns. -/
theorem TreeNode.hides (hplain : n.hasTypeSyntax = false) (hhidden : n.hidden ≠ []) :
    n.IsChoice := by
  cases n with
  | stmt t =>
      -- without type parameters functions and classes hide nothing
      have hbare {typeParams : List TypeParam} (hnone : (!typeParams.isEmpty) = false) :
          typeParams.flatMap (·.bound?.toList) = [] := by
        obtain rfl : typeParams = [] := by simpa using hnone
        rfl
      cases t with
      | choice subject cases => trivial
      | functionDef isAsync name typeParams params returns decorators body =>
          exact absurd (hbare hplain) hhidden
      | classDef name typeParams bases keywords decorators body =>
          exact absurd (hbare hplain) hhidden
      | typeAlias name typeParams value => cases hplain
      | _ => exact absurd rfl hhidden
  | expr e => exact absurd rfl hhidden

/-- Where a tree has a node, its place leads past the walk only in a pattern. -/
theorem leadsPast_iff (hplain : WithoutTypeSyntax body) (hn : nodeAt? body place = some n) :
    LeadsPast (nodeAt? body) (fun _ => True) place ↔ InPattern body place := by
  constructor
  · rintro ⟨above, i, below, k, rfl, hk, -, hle⟩
    rw [nodeAt?_append hk, TreeNode.at?] at hn
    obtain ⟨m, hm, -⟩ := Option.bind_eq_some_iff.mp hn
    have hhidden : k.hidden ≠ [] := by
      intro hnone
      have hlt := (List.getElem?_eq_some_iff.mp hm).1
      rw [TreeNode.slots, hnone, exprNodes, List.map_nil, List.append_nil] at hlt
      exact Nat.not_le.mpr hlt hle
    have hkind := TreeNode.hides (hplain k (present_of_nodeAt? hk)) hhidden
    exact ⟨above, i, below, k, rfl, hk, hkind, hle⟩
  · rintro ⟨above, i, below, k, hplace, hk, -, hle⟩
    exact ⟨above, i, below, k, hplace, hk, trivial, hle⟩

/-- A statement is hidden nowhere. -/
theorem not_leadsPast_of_stmt {t : Stmt} {kind : TreeNode → Prop}
    (ht : nodeAt? body place = some (.stmt t)) : ¬ LeadsPast (nodeAt? body) kind place := by
  rintro ⟨above, i, below, k, rfl, hk, -, hle⟩
  rw [nodeAt?_append hk] at ht
  obtain ⟨m, hm, ht⟩ := Option.bind_eq_some_iff.mp ht
  rw [TreeNode.slots, List.getElem?_append_right hle] at hm
  obtain ⟨e, -, rfl⟩ := List.mem_map.mp (List.mem_of_getElem? hm)
  obtain ⟨e', he'⟩ := (TreeNode.within_of_at? ht).eq_expr
  cases he'

/-- **A walk visits everything once and in order.**

In a module without type parameters and type aliases a walk is the calls of its visitor for the
visits, one after the other, whatever the visitor.  The places of the visits ascend, so there is
one for each place; a node comes before what lies within it, and what lies within one slot before
what lies within a later one.  They are the places of the tree, without those inside a pattern.
No statement lies there. -/
theorem walk_visits_each_once (hplain : WithoutTypeSyntax body) :
    (∀ {σ : Type} (v : Visitor σ) (s : σ),
      walkBody v s body = (visits body).foldl (fun s visit => v.node s visit.2) s) ∧
    Ascending (visits body) ∧
    (∀ place n, (place, n) ∈ visits body ↔
      nodeAt? body place = some n ∧ ¬ InPattern body place) ∧
    ∀ place t, nodeAt? body place = some (.stmt t) → (place, .stmt t) ∈ visits body := by
  refine ⟨fun v s => ?_, ?_, fun place n => ?_, fun place t ht => ?_⟩
  · rw [walkBody_eq_foldl, ← map_snd_visits, List.foldl_map]
  · refine ascending_numbered fun below hbelow => ?_
    obtain ⟨n, -, rfl⟩ := List.mem_map.mp hbelow
    exact n.ascending_visits
  · rw [mem_visits]
    exact and_congr_right fun hn => not_congr (leadsPast_iff hplain hn)
  · exact mem_visits.mpr ⟨ht, not_leadsPast_of_stmt ht⟩

/-- A module of one `match` statement, with a number in its pattern and a call in its block. -/
def matchModule : List Stmt :=
  [.choice (.name "x") [.mk (.value (.constant (.int 1))) none
    [.expr (.call 0 (.name "f") [.name "x"] [])]]]

/-- The block is visited and the number in the pattern is not. -/
theorem match_visited_around_pattern :
    WithoutTypeSyntax matchModule ∧
    ([0, 1], .stmt (.expr (.call 0 (.name "f") [.name "x"] []))) ∈ visits matchModule ∧
    nodeAt? matchModule [0, 2] = some (.expr (.constant (.int 1))) ∧
    ([0, 2], .expr (.constant (.int 1))) ∉ visits matchModule := by
  have hplain : WithoutTypeSyntax matchModule := by
    intro n hn
    have hnone : (walkedNodes matchModule).any TreeNode.hasTypeSyntax = false := by
      rw [← walkBody_seeking]
      decide
    cases n with
    | stmt t =>
        exact Bool.eq_false_iff.mpr (List.any_eq_false.mp hnone _ (mem_walkedNodes.mpr hn.walked))
    | expr e => rfl
  obtain ⟨-, -, hplaces, hstmts⟩ := walk_visits_each_once hplain
  refine ⟨hplain, hstmts _ _ rfl, rfl, fun hvisit => ?_⟩
  exact ((hplaces _ _).mp hvisit).2 ⟨[0], 2, [], _, rfl, rfl, trivial, Nat.le_refl _⟩

end SceneRender.Script
