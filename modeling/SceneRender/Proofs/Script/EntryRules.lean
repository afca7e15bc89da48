import Mathlib.Logic.Relation
import SceneRender.Proofs.Script.Policy

/-!
# The rules for the entry class

The entry class has to inherit from the scene class and to have the method that builds
the scene, by itself or through other classes of the module.  Two searches find out
whether it does.  Both go through the bases depth first, and both share one list of the
names visited between all branches: what one branch has entered, no other one enters
again.

`BaseSearch` is such a search with nothing to bound it: a derivation is the tree of its
calls, so a search that has one comes to an end.  `ClassSearch.total` says that every
search has one, whatever the hierarchy; with every class that is entered for the first
time, fewer are left to be entered.  The bound that the two searches of a module are given
is large enough never to be felt.

That sharing the names misses nothing is `Exhausts.of_search`: when a search ends without
having found anything, all that lies beyond the names it has entered has been entered, too.
`entry_rules` concludes that the rules are those of reachability through bases.
-/

namespace SceneRender.Script

variable {classes : List TopClass} {stops : Expr → Bool} {es : List Expr} {e : Expr}
  {c d parent : TopClass} {visited after : List String} {found : Bool} {name base : String}

/-! ## Classes and their bases -/

/-- The class that a name of the module stands for: the first one of that name. -/
def Resolves (classes : List TopClass) (name : String) (c : TopClass) : Prop :=
  ∃ before after, classes = before ++ c :: after ∧ c.name = name ∧ ∀ b ∈ before, b.name ≠ name

/-- Is the second class a base of the first one, under a plain name? -/
def Extends (classes : List TopClass) (c d : TopClass) : Prop :=
  ∃ name, .name name ∈ c.bases ∧ Resolves classes name d

/-- Is the second class the first one, or one that it inherits from? -/
def Descends (classes : List TopClass) : TopClass → TopClass → Prop :=
  Relation.ReflTransGen (Extends classes)

/-- Is the expression the name of the base, or an attribute of that name? -/
def Spells (base : String) (e : Expr) : Prop :=
  e = .name base ∨ ∃ value, e = .attribute value base

/-- Does the class define the method directly in its body, by `def` or by `async def`? -/
def Defines (c : TopClass) (method : String) : Prop :=
  ∃ isAsync typeParams params returns decorators body,
    .functionDef isAsync method typeParams params returns decorators body ∈ c.body

/-- The first class of a name is the one that the name stands for. -/
theorem find?_name_eq_some :
    classes.find? (fun c => c.name == name) = some c ↔ Resolves classes name c := by
  simp only [List.find?_eq_some_iff_append, beq_iff_eq, Bool.not_eq_true', beq_eq_false_iff_ne]
  constructor
  · rintro ⟨hname, before, after, hsplit, hbefore⟩
    exact ⟨before, after, hsplit, hname, hbefore⟩
  · rintro ⟨before, after, hsplit, hname, hbefore⟩
    exact ⟨hname, before, after, hsplit, hbefore⟩

/-- A name stands for a class of that name. -/
theorem Resolves.name_eq (h : Resolves classes name c) : c.name = name := by
  obtain ⟨-, -, -, hname, -⟩ := h
  exact hname

/-- A name stands for one of the classes. -/
theorem Resolves.mem (h : Resolves classes name c) : c ∈ classes := by
  obtain ⟨before, after, rfl, -⟩ := h
  exact List.mem_append_right _ List.mem_cons_self

/-- A class that a name stands for is what its own name stands for. -/
theorem Resolves.self (h : Resolves classes name c) : Resolves classes c.name c := by
  rwa [h.name_eq]

/-- A name stands for one class only. -/
theorem Resolves.unique (hc : Resolves classes name c) (hd : Resolves classes name d) : c = d :=
  Option.some.inj ((find?_name_eq_some.mpr hc).symm.trans (find?_name_eq_some.mpr hd))

/-- A base is local if it is the name of a class. -/
theorem localBase?_eq_some :
    localBase? classes e = some d ↔ ∃ name, e = .name name ∧ Resolves classes name d := by
  cases e with
  | name id =>
      rw [localBase?, find?_name_eq_some]
      constructor
      · intro h
        exact ⟨id, rfl, h⟩
      · rintro ⟨name, hname, h⟩
        cases hname
        exact h
  | _ => simp [localBase?]

/-- A local base is what its own name stands for. -/
theorem localBase?_resolves (h : localBase? classes e = some d) : Resolves classes d.name d := by
  obtain ⟨name, -, hd⟩ := localBase?_eq_some.mp h
  exact hd.self

/-- A class extends another one if that is a local base of it. -/
theorem extends_iff : Extends classes c d ↔ ∃ e ∈ c.bases, localBase? classes e = some d := by
  simp only [localBase?_eq_some]
  constructor
  · rintro ⟨name, hname, hd⟩
    exact ⟨_, hname, name, rfl, hd⟩
  · rintro ⟨e, he, name, rfl, hd⟩
    exact ⟨name, he, hd⟩

/-- The test of a base is whether it spells the name. -/
theorem namesBase_iff : namesBase base e = true ↔ Spells base e := by
  cases e <;> simp [namesBase, Spells]

/-- The listed methods are those that the class defines. -/
theorem mem_ownMethods {method : String} : method ∈ ownMethods c.body ↔ Defines c method := by
  rw [ownMethods, List.mem_filterMap]
  constructor
  · rintro ⟨t, ht, hmethod⟩
    cases t with
    | functionDef isAsync name typeParams params returns decorators body =>
        obtain rfl := Option.some.inj hmethod
        exact ⟨isAsync, typeParams, params, returns, decorators, body, ht⟩
    | _ => cases hmethod
  · rintro ⟨isAsync, typeParams, params, returns, decorators, body, ht⟩
    exact ⟨_, ht, rfl⟩

/-! ## A search through bases -/

/-- A search through bases, with the names visited before and after it and whether it
has found a base to stop at.  A derivation is the tree of its calls. -/
inductive BaseSearch (classes : List TopClass) (stops : Expr → Bool) :
    List Expr → List String → Bool → List String → Prop
  /-- No base is left. -/
  | nil {visited : List String} : BaseSearch classes stops [] visited false visited
  /-- The search stops at a base. -/
  | stop {e : Expr} {rest : List Expr} {visited : List String} (he : stops e = true) :
      BaseSearch classes stops (e :: rest) visited true visited
  /-- A base that stands for no class of the module is passed over. -/
  | foreign {e : Expr} {rest : List Expr} {visited after : List String} {found : Bool}
      (he : stops e = false) (hnone : localBase? classes e = none)
      (hrest : BaseSearch classes stops rest visited found after) :
      BaseSearch classes stops (e :: rest) visited found after
  /-- So is one whose class has been entered before. -/
  | known {e : Expr} {rest : List Expr} {visited after : List String} {found : Bool}
      {parent : TopClass} (he : stops e = false) (hparent : localBase? classes e = some parent)
      (hvisited : parent.name ∈ visited)
      (hrest : BaseSearch classes stops rest visited found after) :
      BaseSearch classes stops (e :: rest) visited found after
  /-- A class that is entered for the first time may end the search. -/
  | found {e : Expr} {rest : List Expr} {visited after : List String} {parent : TopClass}
      (he : stops e = false) (hparent : localBase? classes e = some parent)
      (hnew : parent.name ∉ visited)
      (hbases : BaseSearch classes stops parent.bases (parent.name :: visited) true after) :
      BaseSearch classes stops (e :: rest) visited true after
  /-- If it does not, the search goes on with what has been visited by then. -/
  | onward {e : Expr} {rest : List Expr} {visited between after : List String} {found : Bool}
      {parent : TopClass} (he : stops e = false) (hparent : localBase? classes e = some parent)
      (hnew : parent.name ∉ visited)
      (hbases : BaseSearch classes stops parent.bases (parent.name :: visited) false between)
      (hrest : BaseSearch classes stops rest between found after) :
      BaseSearch classes stops (e :: rest) visited found after

/-- A search that starts from a class. -/
inductive ClassSearch (classes : List TopClass) (stops : Expr → Bool) (c : TopClass)
    (visited : List String) : Bool → List String → Prop
  /-- A class that has been entered before is not entered again. -/
  | known (hvisited : c.name ∈ visited) : ClassSearch classes stops c visited false visited
  /-- Otherwise its bases are searched. -/
  | entered {found : Bool} {after : List String} (hnew : c.name ∉ visited)
      (hbases : BaseSearch classes stops c.bases (c.name :: visited) found after) :
      ClassSearch classes stops c visited found after

/-- The search for all classes: it stops at no base. -/
def never : Expr → Bool := fun _ => false

/-- A search through bases forgets no visit. -/
theorem BaseSearch.subset (h : BaseSearch classes stops es visited found after) :
    visited ⊆ after := by
  induction h with
  | nil => exact List.Subset.refl _
  | stop he => exact List.Subset.refl _
  | foreign he hnone hrest ih => exact ih
  | known he hparent hvisited hrest ih => exact ih
  | found he hparent hnew hbases ih => exact List.Subset.trans (List.subset_cons_self _ _) ih
  | onward he hparent hnew hbases hrest ihbases ihrest =>
      exact List.Subset.trans (List.subset_cons_self _ _) (List.Subset.trans ihbases ihrest)

/-- A search that never stops finds nothing. -/
theorem BaseSearch.of_never (h : BaseSearch classes never es visited found after) :
    found = false := by
  induction h with
  | nil => rfl
  | stop he => cases he
  | foreign he hnone hrest ih => exact ih
  | known he hparent hvisited hrest ih => exact ih
  | found he hparent hnew hbases ih => exact ih
  | onward he hparent hnew hbases hrest ihbases ihrest => exact ihrest

/-- A search that never stops finds nothing in a class. -/
theorem ClassSearch.of_never (h : ClassSearch classes never c visited found after) :
    found = false := by
  cases h with
  | known hvisited => rfl
  | entered hnew hbases => exact hbases.of_never

/-! ## Every search comes to an end -/

/-- The steps that a class may still take: one to enter it and one for each base. -/
def TopClass.pending (visited : List String) (c : TopClass) : Nat :=
  if c.name ∈ visited then 0 else c.bases.length + 1

/-- The steps that all classes may still take. -/
def unvisited : List TopClass → List String → Nat
  | [], _ => 0
  | c :: classes, visited => c.pending visited + unvisited classes visited

/-- The more was visited, the fewer bases are pending. -/
theorem TopClass.pending_mono (hsubset : visited ⊆ after) :
    c.pending after ≤ c.pending visited := by
  by_cases hvisited : c.name ∈ visited
  · simp [pending, hvisited, hsubset hvisited]
  · simp only [pending, if_neg hvisited]
    split <;> omega

/-- The more was visited, the less is unvisited. -/
theorem unvisited_mono (classes : List TopClass) (hsubset : visited ⊆ after) :
    unvisited classes after ≤ unvisited classes visited := by
  induction classes with
  | nil => exact Nat.le_refl _
  | cons b classes ih =>
      simp only [unvisited]
      exact Nat.add_le_add (b.pending_mono hsubset) ih

/-- **Entering a class** for the first time leaves less to be entered. -/
theorem unvisited_enter (hc : c ∈ classes) (hnew : c.name ∉ visited) :
    unvisited classes (c.name :: visited) + (c.bases.length + 1) ≤ unvisited classes visited := by
  have hsubset : visited ⊆ c.name :: visited := List.subset_cons_self _ _
  induction classes with
  | nil => cases hc
  | cons b classes ih =>
      have hfirst := b.pending_mono hsubset
      have hrest := unvisited_mono classes hsubset
      simp only [unvisited]
      rcases List.mem_cons.mp hc with rfl | hc
      · rw [TopClass.pending, if_pos List.mem_cons_self, TopClass.pending, if_neg hnew]
        omega
      · have := ih hc
        omega

/-- A search of the bases of a class leaves less than there was before the class. -/
theorem BaseSearch.unvisited_le
    (h : BaseSearch classes stops es (name :: visited) found after) :
    unvisited classes after ≤ unvisited classes visited :=
  unvisited_mono classes (List.Subset.trans (List.subset_cons_self _ _) h.subset)

/-- **Every search through bases comes to an end**, by induction on the bases and classes
that are left. -/
theorem BaseSearch.total (classes : List TopClass) (stops : Expr → Bool) (es : List Expr)
    (visited : List String) : ∃ found after, BaseSearch classes stops es visited found after := by
  induction hn : es.length + unvisited classes visited using Nat.strongRecOn
    generalizing es visited with
  | _ n ih =>
      rcases es with _ | ⟨e, rest⟩
      · exact ⟨false, visited, .nil⟩
      rw [List.length_cons] at hn
      cases he : stops e with
      | true => exact ⟨true, visited, .stop he⟩
      | false =>
          cases hparent : localBase? classes e with
          | none =>
              obtain ⟨found, after, hrest⟩ := ih _ (by omega) rest visited rfl
              exact ⟨found, after, .foreign he hparent hrest⟩
          | some parent =>
              by_cases hvisited : parent.name ∈ visited
              · obtain ⟨found, after, hrest⟩ := ih _ (by omega) rest visited rfl
                exact ⟨found, after, .known he hparent hvisited hrest⟩
              -- the bases of a class and what it leaves weigh less than the class did
              have hless := unvisited_enter (localBase?_resolves hparent).mem hvisited
              obtain ⟨found, between, hbases⟩ :=
                ih _ (by omega) parent.bases (parent.name :: visited) rfl
              cases found with
              | true => exact ⟨true, between, .found he hparent hvisited hbases⟩
              | false =>
                  have hleft := hbases.unvisited_le
                  obtain ⟨found, after, hrest⟩ := ih _ (by omega) rest between rfl
                  exact ⟨found, after, .onward he hparent hvisited hbases hrest⟩

/-- **Every search comes to an end**, whatever the hierarchy. -/
theorem ClassSearch.total (classes : List TopClass) (stops : Expr → Bool) (c : TopClass)
    (visited : List String) : ∃ found after, ClassSearch classes stops c visited found after := by
  by_cases hvisited : c.name ∈ visited
  · exact ⟨false, visited, .known hvisited⟩
  · obtain ⟨found, after, hbases⟩ := BaseSearch.total classes stops c.bases (c.name :: visited)
    exact ⟨found, after, .entered hvisited hbases⟩

/-! ## The searches of a module -/

/-- With steps for all bases and classes that are left, the search for a base does what
the search without a bound does. -/
theorem BaseSearch.anyInherits_eq
    (h : BaseSearch classes (namesBase base) es visited found after) (fuel : Nat)
    (hfuel : es.length + unvisited classes visited < fuel) :
    anyInherits classes base fuel es visited = (found, after) := by
  induction h generalizing fuel with
  | nil => simp [anyInherits]
  | stop he =>
      obtain ⟨fuel, rfl⟩ := Nat.exists_eq_add_of_le' (show 1 ≤ fuel by omega)
      simp [anyInherits, he]
  | foreign he hnone hrest ih =>
      rw [List.length_cons] at hfuel
      obtain ⟨fuel, rfl⟩ := Nat.exists_eq_add_of_le' (show 1 ≤ fuel by omega)
      have hlater := ih fuel (by omega)
      simp [anyInherits, he, hnone, hlater]
  | known he hparent hvisited hrest ih =>
      rw [List.length_cons] at hfuel
      obtain ⟨fuel, rfl⟩ := Nat.exists_eq_add_of_le' (show 2 ≤ fuel by omega)
      have hlater := ih (fuel + 1) (by omega)
      simp [anyInherits, inheritsFrom, he, hparent, hvisited, hlater]
  | found he hparent hnew hbases ih =>
      have hless := unvisited_enter (localBase?_resolves hparent).mem hnew
      rw [List.length_cons] at hfuel
      obtain ⟨fuel, rfl⟩ := Nat.exists_eq_add_of_le' (show 2 ≤ fuel by omega)
      have hinner := ih fuel (by omega)
      simp [anyInherits, inheritsFrom, he, hparent, hnew, hinner]
  | onward he hparent hnew hbases hrest ihbases ihrest =>
      have hless := unvisited_enter (localBase?_resolves hparent).mem hnew
      have hleft := hbases.unvisited_le
      rw [List.length_cons] at hfuel
      obtain ⟨fuel, rfl⟩ := Nat.exists_eq_add_of_le' (show 2 ≤ fuel by omega)
      have hinner := ihbases fuel (by omega)
      have hlater := ihrest (fuel + 1) (by omega)
      simp [anyInherits, inheritsFrom, he, hparent, hnew, hinner, hlater]

/-- The methods that the class of a name defines itself. -/
def methodsNamed (classes : List TopClass) (name : String) : List String :=
  match classes.find? fun c => c.name == name with
  | some c => ownMethods c.body
  | none => []

/-- The methods of a name are those of the class that it stands for. -/
theorem Resolves.methodsNamed_eq (h : Resolves classes name c) :
    methodsNamed classes name = ownMethods c.body := by
  rw [methodsNamed, find?_name_eq_some.mpr h]

/-- With as many steps, the search for methods visits what the search without a bound does,
and collects the methods of the classes that it enters. -/
theorem BaseSearch.methodsOfBases_eq (h : BaseSearch classes never es visited found after) :
    ∃ entered, after = entered ++ visited ∧
      ∀ fuel, es.length + unvisited classes visited < fuel → ∀ methods,
        methodsOfBases classes fuel es (methods, visited) =
          (entered.flatMap (methodsNamed classes) ++ methods, after) := by
  induction h with
  | nil => exact ⟨[], rfl, fun fuel _ methods => by simp [methodsOfBases]⟩
  | stop he => cases he
  | foreign he hnone hrest ih =>
      obtain ⟨entered, hafter, hrun⟩ := ih
      refine ⟨entered, hafter, fun fuel hfuel methods => ?_⟩
      rw [List.length_cons] at hfuel
      obtain ⟨fuel, rfl⟩ := Nat.exists_eq_add_of_le' (show 1 ≤ fuel by omega)
      rw [methodsOfBases, hnone]
      exact hrun fuel (by omega) methods
  | known he hparent hvisited hrest ih =>
      obtain ⟨entered, hafter, hrun⟩ := ih
      refine ⟨entered, hafter, fun fuel hfuel methods => ?_⟩
      rw [List.length_cons] at hfuel
      obtain ⟨fuel, rfl⟩ := Nat.exists_eq_add_of_le' (show 2 ≤ fuel by omega)
      have hknown : methodsOf classes (fuel + 1) _ (methods, _) = _ :=
        if_pos (List.contains_iff_mem.mpr hvisited)
      rw [methodsOfBases, hparent]
      simp only [hknown]
      exact hrun (fuel + 1) (by omega) methods
  | found he hparent hnew hbases ih => cases hbases.of_never
  | @onward e rest visited between after found parent he hparent hnew hbases hrest ihbases
      ihrest =>
      have hresolves := localBase?_resolves hparent
      have hless := unvisited_enter hresolves.mem hnew
      have hleft := hbases.unvisited_le
      obtain ⟨inner, hbetween, hinner⟩ := ihbases
      obtain ⟨later, hafter, hlater⟩ := ihrest
      -- the names stand in the order in which they are entered, the last one first
      refine ⟨later ++ inner ++ [parent.name], by simp [hafter, hbetween], ?_⟩
      intro fuel hfuel methods
      rw [List.length_cons] at hfuel
      obtain ⟨fuel, rfl⟩ := Nat.exists_eq_add_of_le' (show 2 ≤ fuel by omega)
      have hentered : methodsOf classes (fuel + 1) parent (methods, visited) =
          methodsOfBases classes fuel parent.bases
            (ownMethods parent.body ++ methods, parent.name :: visited) :=
        if_neg fun hmem => hnew (List.contains_iff_mem.mp hmem)
      rw [methodsOfBases, hparent]
      simp only [hentered]
      rw [hinner fuel (by omega), hlater (fuel + 1) (by omega)]
      simp [hresolves.methodsNamed_eq]

/-- The steps that a module gives to its searches are more than all classes may take. -/
theorem unvisited_le_classFuel (classes : List TopClass) (visited : List String) :
    unvisited classes visited + 4 ≤ classFuel classes := by
  have hfold : ∀ (classes : List TopClass) (n : Nat), unvisited classes visited + n ≤
      classes.foldl (fun n c => n + c.bases.length + 4) n := by
    intro classes
    induction classes with
    | nil => simp [unvisited]
    | cons c classes ih =>
        intro n
        have hpending : c.pending visited ≤ c.bases.length + 1 := by
          rw [TopClass.pending]
          split <;> omega
        have := ih (n + c.bases.length + 4)
        simp only [unvisited, List.foldl_cons]
        omega
  exact hfold classes 4

/-- The steps of a module, with the one that looks at a class set apart. -/
theorem exists_classFuel (classes : List TopClass) : ∃ fuel, classFuel classes = fuel + 1 :=
  Nat.exists_eq_add_of_le' (Nat.le_trans (by omega) (unvisited_le_classFuel classes []))

/-- A class that is entered for the first time leaves steps for all that is left. -/
theorem classFuel_enter (hc : c ∈ classes) (hnew : c.name ∉ visited) :
    ∃ fuel, classFuel classes = fuel + 1 ∧
      c.bases.length + unvisited classes (c.name :: visited) < fuel := by
  have hless := unvisited_enter hc hnew
  have hfuel := unvisited_le_classFuel classes visited
  exact ⟨classFuel classes - 1, by omega, by omega⟩

/-- **The search for a base** in a module does what the search without a bound does. -/
theorem ClassSearch.inheritsFrom_eq
    (h : ClassSearch classes (namesBase base) c visited found after) (hc : c ∈ classes) :
    inheritsFrom classes base (classFuel classes) c visited = (found, after) := by
  cases h with
  | known hvisited =>
      obtain ⟨fuel, hfuel⟩ := exists_classFuel classes
      rw [hfuel, inheritsFrom, if_pos (List.contains_iff_mem.mpr hvisited)]
  | entered hnew hbases =>
      obtain ⟨fuel, hfuel, hmore⟩ := classFuel_enter hc hnew
      rw [hfuel, inheritsFrom, if_neg fun hmem => hnew (List.contains_iff_mem.mp hmem)]
      exact hbases.anyInherits_eq fuel hmore

/-- **The search for methods** in a module visits what the search without a bound does. -/
theorem ClassSearch.methodsOf_snd (h : ClassSearch classes never c visited found after)
    (hc : c ∈ classes) (methods : List String) :
    (methodsOf classes (classFuel classes) c (methods, visited)).2 = after := by
  cases h with
  | known hvisited =>
      obtain ⟨fuel, hfuel⟩ := exists_classFuel classes
      rw [hfuel, methodsOf, if_pos (List.contains_iff_mem.mpr hvisited)]
  | entered hnew hbases =>
      obtain ⟨fuel, hfuel, hmore⟩ := classFuel_enter hc hnew
      obtain ⟨entered, -, hrun⟩ := hbases.methodsOfBases_eq
      rw [hfuel, methodsOf, if_neg fun hmem => hnew (List.contains_iff_mem.mp hmem),
        hrun fuel hmore]

/-! ## What a search finds -/

/-- A search that stops has reached a class with a base to stop at. -/
theorem BaseSearch.stops_at (h : BaseSearch classes stops es visited found after)
    (hfound : found = true) (hes : es ⊆ c.bases) :
    ∃ d, Descends classes c d ∧ ∃ e ∈ d.bases, stops e = true := by
  induction h generalizing c with
  | nil => cases hfound
  | stop he => exact ⟨c, .refl, _, hes List.mem_cons_self, he⟩
  | foreign he hnone hrest ih => exact ih hfound (List.subset_of_cons_subset hes)
  | known he hparent hvisited hrest ih => exact ih hfound (List.subset_of_cons_subset hes)
  | found he hparent hnew hbases ih =>
      obtain ⟨d, hd, hstop⟩ := ih rfl (List.Subset.refl _)
      have hstep := extends_iff.mpr ⟨_, hes List.mem_cons_self, hparent⟩
      exact ⟨d, .head hstep hd, hstop⟩
  | onward he hparent hnew hbases hrest ihbases ihrest =>
      exact ihrest hfound (List.subset_of_cons_subset hes)

/-- A search enters only what its bases lead to. -/
theorem BaseSearch.descends_of_mem (h : BaseSearch classes stops es visited found after)
    (hes : es ⊆ c.bases) (hname : name ∈ after) (hnew : name ∉ visited) :
    ∃ d, Descends classes c d ∧ d.name = name := by
  induction h generalizing c with
  | nil => exact absurd hname hnew
  | stop he => exact absurd hname hnew
  | foreign he hnone hrest ih => exact ih (List.subset_of_cons_subset hes) hname hnew
  | known he hparent hvisited hrest ih =>
      exact ih (List.subset_of_cons_subset hes) hname hnew
  | @found e rest visited after parent he hparent hfresh hbases ih =>
      have hstep := extends_iff.mpr ⟨e, hes List.mem_cons_self, hparent⟩
      by_cases hself : parent.name = name
      · exact ⟨parent, .single hstep, hself⟩
      · obtain ⟨d, hd, hdname⟩ := ih (List.Subset.refl _) hname (by simp [Ne.symm hself, hnew])
        exact ⟨d, .head hstep hd, hdname⟩
  | @onward e rest visited between after found parent he hparent hfresh hbases hrest ihbases
      ihrest =>
      have hstep := extends_iff.mpr ⟨e, hes List.mem_cons_self, hparent⟩
      by_cases hbetween : name ∈ between
      · by_cases hself : parent.name = name
        · exact ⟨parent, .single hstep, hself⟩
        · obtain ⟨d, hd, hdname⟩ :=
            ihbases (List.Subset.refl _) hbetween (by simp [Ne.symm hself, hnew])
          exact ⟨d, .head hstep hd, hdname⟩
      · exact ihrest (List.subset_of_cons_subset hes) hname hbetween

/-- Bases of which none is one to stop at, and all classes that they stand for are
visited. -/
def Seen (classes : List TopClass) (stops : Expr → Bool) (visited : List String)
    (es : List Expr) : Prop :=
  ∀ e ∈ es, stops e = false ∧
    ∀ parent, localBase? classes e = some parent → parent.name ∈ visited

/-- What was seen stays seen with more visits. -/
theorem Seen.mono (h : Seen classes stops visited es) (hsubset : visited ⊆ after) :
    Seen classes stops after es :=
  fun e he => ⟨(h e he).1, fun parent hparent => hsubset ((h e he).2 parent hparent)⟩

/-- A base that is no class of the module has been seen. -/
theorem Seen.cons_foreign (h : Seen classes stops visited es) (he : stops e = false)
    (hnone : localBase? classes e = none) : Seen classes stops visited (e :: es) := by
  refine List.forall_mem_cons.mpr ⟨⟨he, ?_⟩, h⟩
  intro parent hparent
  rw [hnone] at hparent
  cases hparent

/-- A base that was visited has been seen. -/
theorem Seen.cons_visited (h : Seen classes stops visited es) (he : stops e = false)
    (hparent : localBase? classes e = some parent) (hvisited : parent.name ∈ visited) :
    Seen classes stops visited (e :: es) := by
  refine List.forall_mem_cons.mpr ⟨⟨he, ?_⟩, h⟩
  intro parent' hparent'
  obtain rfl : parent = parent' := Option.some.inj (hparent.symm.trans hparent')
  exact hvisited

/-- What a search that has found nothing has done: it has seen its bases, and those of
all classes that it has entered. -/
structure Exhausts (classes : List TopClass) (stops : Expr → Bool) (es : List Expr)
    (visited after : List String) : Prop where
  bases : Seen classes stops after es
  closed : ∀ c, Resolves classes c.name c → c.name ∈ after → c.name ∉ visited →
    Seen classes stops after c.bases

/-- **A search that finds nothing** misses nothing, although it enters no class twice. -/
theorem Exhausts.of_search (h : BaseSearch classes stops es visited found after)
    (hfound : found = false) : Exhausts classes stops es visited after := by
  induction h with
  | nil => exact ⟨List.forall_mem_nil _, fun c _ hin hnot => absurd hin hnot⟩
  | stop he => cases hfound
  | foreign he hnone hrest ih =>
      obtain ⟨hseen, hclosed⟩ := ih hfound
      exact ⟨hseen.cons_foreign he hnone, hclosed⟩
  | known he hparent hvisited hrest ih =>
      obtain ⟨hseen, hclosed⟩ := ih hfound
      exact ⟨hseen.cons_visited he hparent (hrest.subset hvisited), hclosed⟩
  | found he hparent hnew hbases ih => cases hfound
  | @onward e rest visited between after found parent he hparent hnew hbases hrest ihbases
      ihrest =>
      have inner := ihbases rfl
      have later := ihrest hfound
      refine ⟨later.bases.cons_visited he hparent
        (hrest.subset (hbases.subset List.mem_cons_self)), ?_⟩
      -- a class is entered by the inner search, as the parent or beyond it, or by the later one
      intro c hc hin hnot
      by_cases hbetween : c.name ∈ between
      · refine Seen.mono ?_ hrest.subset
        by_cases hself : c.name = parent.name
        · obtain rfl : c = parent := hc.unique (hself ▸ localBase?_resolves hparent)
          exact inner.bases
        · exact inner.closed c hc hbetween (by simp [hself, hnot])
      · exact later.closed c hc hin hbetween

/-- A search of a class that finds nothing has seen the bases of all it descends from. -/
theorem ClassSearch.seen (h : ClassSearch classes stops c [] false after)
    (hc : Resolves classes c.name c) (hd : Descends classes c d) :
    Resolves classes d.name d ∧ d.name ∈ after ∧ Seen classes stops after d.bases := by
  cases h with
  | known hvisited => cases hvisited
  | entered hnew hbases =>
      have hexhausts := Exhausts.of_search hbases rfl
      -- along the path: what is seen has its classes visited, and so is seen in turn
      induction hd with
      | refl => exact ⟨hc, hbases.subset List.mem_cons_self, hexhausts.bases⟩
      | @tail b d _ hstep ih =>
          obtain ⟨e, he, hlocal⟩ := extends_iff.mp hstep
          have hresolves := localBase?_resolves hlocal
          have hin := (ih.2.2 e he).2 d hlocal
          refine ⟨hresolves, hin, ?_⟩
          by_cases hself : d.name = c.name
          · obtain rfl : d = c := hresolves.unique (hself ▸ hc)
            exact hexhausts.bases
          · exact hexhausts.closed d hresolves hin (by simpa using hself)

/-- **What a search finds**: it stops exactly if the class descends from one with a base
to stop at. -/
theorem ClassSearch.found_iff (h : ClassSearch classes stops c [] found after)
    (hc : Resolves classes c.name c) :
    found = true ↔ ∃ d, Descends classes c d ∧ ∃ e ∈ d.bases, stops e = true := by
  constructor
  · intro hfound
    cases h with
    | known hvisited => cases hvisited
    | entered hnew hbases => exact hbases.stops_at hfound (List.Subset.refl _)
  · rintro ⟨d, hd, e, he, hstop⟩
    cases found with
    | true => rfl
    | false =>
        have hpassed := ((h.seen hc hd).2.2 e he).1
        rw [hstop] at hpassed
        cases hpassed

/-- **What a search visits** that finds nothing: all that the class descends from. -/
theorem ClassSearch.mem_iff (h : ClassSearch classes stops c [] false after)
    (hc : Resolves classes c.name c) :
    name ∈ after ↔ ∃ d, Descends classes c d ∧ d.name = name := by
  constructor
  · intro hname
    cases h with
    | known hvisited => cases hvisited
    | entered hnew hbases =>
        by_cases hself : c.name = name
        · exact ⟨c, .refl, hself⟩
        · exact hbases.descends_of_mem (List.Subset.refl _) hname (by simp [Ne.symm hself])
  · rintro ⟨d, hd, rfl⟩
    exact (h.seen hc hd).2.1

/-- **Inheritance** is descent from a class with a base of that spelling. -/
theorem inheritsFrom_iff (hc : Resolves classes c.name c) :
    (inheritsFrom classes base (classFuel classes) c []).1 = true ↔
      ∃ d, Descends classes c d ∧ ∃ e ∈ d.bases, Spells base e := by
  obtain ⟨found, after, h⟩ := ClassSearch.total classes (namesBase base) c []
  rw [h.inheritsFrom_eq hc.mem, h.found_iff hc]
  simp only [namesBase_iff]

/-- **The methods of a class** are those that the classes define from which it descends. -/
theorem mem_methodsOf (hc : Resolves classes c.name c) {method : String} :
    method ∈ (methodsOf classes (classFuel classes) c ([], [])).1 ↔
      ∃ d, Descends classes c d ∧ Defines d method := by
  obtain ⟨found, after, h⟩ := ClassSearch.total classes never c []
  obtain rfl := h.of_never
  cases h with
  | known hvisited => cases hvisited
  | entered hnew hbases =>
      obtain ⟨fuel, hfuel, hmore⟩ := classFuel_enter hc.mem hnew
      obtain ⟨entered, hafter, hrun⟩ := hbases.methodsOfBases_eq
      have hmethods : (methodsOf classes (classFuel classes) c ([], [])).1 =
          after.flatMap (methodsNamed classes) := by
        rw [hfuel, methodsOf, if_neg fun hmem => hnew (List.contains_iff_mem.mp hmem),
          hrun fuel hmore, hafter]
        simp [hc.methodsNamed_eq]
      have hsearch : ClassSearch classes never c [] false after := .entered hnew hbases
      rw [hmethods, List.mem_flatMap]
      constructor
      · rintro ⟨name, hname, hmethod⟩
        obtain ⟨d, hd, rfl⟩ := (hsearch.mem_iff hc).mp hname
        rw [(hsearch.seen hc hd).1.methodsNamed_eq, mem_ownMethods] at hmethod
        exact ⟨d, hd, hmethod⟩
      · rintro ⟨d, hd, hmethod⟩
        refine ⟨d.name, (hsearch.mem_iff hc).mpr ⟨d, hd, rfl⟩, ?_⟩
        rwa [(hsearch.seen hc hd).1.methodsNamed_eq, mem_ownMethods]

/-! ## Flaws and their wordings -/

/-- Does the flaw break a rule for the class itself?  The others are calls in it. -/
def EntryFlaw.BreaksRule : EntryFlaw → Prop
  | missingClass | duplicateClass _ | wrongBase | missingMethod => True
  | undefinedHelper _ _ | unknownMethod _ _ => False

/-- A stray call breaks no rule of the entry. -/
theorem SelfCall.not_breaksRule (lineOf : Nat → Nat) (call : SelfCall) :
    ¬ (call.flaw lineOf).BreaksRule := by
  rw [SelfCall.flaw]
  split <;> exact id

/-- The wordings of two numbers of classes differ. -/
theorem EntryFlaw.duplicateClass_message_injective {j k : Nat}
    (h : (duplicateClass j).message = (duplicateClass k).message) : j = k := by
  have htext : toString j = toString k :=
    (String.append_right_inj _).mp ((String.append_left_inj _).mp h)
  have hdigits : Nat.toDigits 10 j = Nat.toDigits 10 k := String.ofList_injective htext
  rw [← Nat.ofDigitChars_ten_toDigits (n := j), hdigits, Nat.ofDigitChars_ten_toDigits]

/-- A flaw that breaks a rule is told by its wording. -/
theorem EntryFlaw.eq_of_message {f : EntryFlaw} {v : Violation} (hf : f.BreaksRule)
    (h : v.message = f.message) : v = .flaw f := by
  have hlead : v.lead = f.lead := Violation.lead_eq_of_message_eq (w := .flaw f) h
  cases v with
  | breach b => cases b <;> cases f <;> simp [Violation.lead, Breach.lead, lead] at hlead
  | flaw g =>
      cases f with
      | undefinedHelper line name => cases hf
      | unknownMethod line name => cases hf
      | duplicateClass k =>
          cases g with
          | duplicateClass j => rw [duplicateClass_message_injective h]
          | _ => simp [Violation.lead, lead] at hlead
      | _ => cases g <;> first | rfl | simp [Violation.lead, lead] at hlead
  | _ => cases f <;> simp [Violation.lead, lead] at hlead

/-- The wordings for a module, each once. -/
def treeErrors (index : LineIndex) (body : List Stmt) : List String :=
  dropRepeats [] ((treeViolations index body).map (·.message))

/-- The errors of a script that can be read are those of its tree. -/
theorem ReadsAs.errors_eq {source : String} {body : List Stmt} (h : ReadsAs source body) :
    (validate source).errors = treeErrors (LineIndex.ofBytes (utf8 source)) body := by
  rw [validate, h.violations_eq, treeErrors]

variable {body : List Stmt} {index : LineIndex} {lineOf : Nat → Nat} {entry : TopClass}

/-- A broken rule is reported exactly if it is among the flaws. -/
theorem mem_treeErrors (f : EntryFlaw) (hf : f.BreaksRule) :
    f.message ∈ treeErrors index body ↔ f ∈ entryFlaws index.lineOf body := by
  simp only [treeErrors, mem_dropRepeats, List.not_mem_nil, not_false_eq_true, and_true,
    List.mem_map, treeViolations, List.mem_append]
  constructor
  · rintro ⟨v, hv, hmessage⟩
    obtain rfl := EntryFlaw.eq_of_message hf hmessage
    rcases hv with (⟨b, -, hb⟩ | himport) | ⟨g, hg, hflaw⟩
    · cases hb
    · split at himport
      · cases himport
      · cases List.mem_singleton.mp himport
    · cases hflaw
      exact hg
  · intro hmem
    exact ⟨.flaw f, Or.inr ⟨f, hmem, rfl⟩, rfl⟩

/-! ## The rules -/

/-- A name stands for a class, unless no class has it. -/
theorem resolves_or_absent (classes : List TopClass) (name : String) :
    (∃ c, Resolves classes name c) ∨ ∀ c ∈ classes, c.name ≠ name := by
  cases hfind : classes.find? (fun c => c.name == name) with
  | some c => exact Or.inl ⟨c, find?_name_eq_some.mp hfind⟩
  | none => exact Or.inr fun c hc => by simpa using List.find?_eq_none.mp hfind c hc

/-- Without an entry class its method is missing, too, and nothing else is looked at. -/
theorem entryFlaws_of_absent (h : ∀ c ∈ topClasses body, c.name ≠ entryClass) :
    entryFlaws lineOf body = [.missingClass, .missingMethod] := by
  have hnone : (topClasses body).filter (fun c => c.name == entryClass) = [] := by
    simpa [List.filter_eq_nil_iff] using h
  simp only [entryFlaws, hnone]

/-- The class that a name stands for is the first of those that have it. -/
theorem Resolves.filter_eq (h : Resolves classes name c) :
    ∃ others, classes.filter (fun d => d.name == name) = c :: others := by
  obtain ⟨before, after, rfl, hname, hbefore⟩ := h
  have hnone : before.filter (fun d => d.name == name) = [] := by
    simpa [List.filter_eq_nil_iff] using hbefore
  refine ⟨after.filter fun d => d.name == name, ?_⟩
  rw [List.filter_append, hnone, List.filter_cons_of_pos (by simpa using hname),
    List.nil_append]

/-- **The rules that the entry class breaks.** -/
theorem mem_entryFlaws (hentry : Resolves (topClasses body) entryClass entry) (f : EntryFlaw)
    (hf : f.BreaksRule) :
    f ∈ entryFlaws lineOf body ↔
      (2 ≤ (topClasses body).countP (·.name == entryClass) ∧
        f = .duplicateClass ((topClasses body).countP (·.name == entryClass))) ∨
      (¬ (∃ d, Descends (topClasses body) entry d ∧ ∃ e ∈ d.bases, Spells sceneClass e) ∧
        f = .wrongBase) ∨
      (¬ (∃ d, Descends (topClasses body) entry d ∧ Defines d entryMethod) ∧
        f = .missingMethod) := by
  obtain ⟨others, hcandidates⟩ := hentry.filter_eq
  have hcall : ∀ calls : List SelfCall, f ∉ calls.map (SelfCall.flaw lineOf) := by
    intro calls hmem
    obtain ⟨call, -, rfl⟩ := List.mem_map.mp hmem
    exact call.not_breaksRule lineOf hf
  have htwo : ¬ others.isEmpty = true ↔ 2 ≤ others.length + 1 := by
    cases others <;> simp
  rw [← inheritsFrom_iff hentry.self, ← mem_methodsOf hentry.self,
    List.countP_eq_length_filter, entryFlaws]
  simp only [hcandidates, List.mem_append, hcall, or_false, List.length_cons, or_assoc,
    List.mem_ite_nil_left, List.mem_singleton, htwo, List.contains_iff_mem]

/-- Is the class the entry class of the module, or one that it inherits from? -/
def InScene (body : List Stmt) (d : TopClass) : Prop :=
  ∃ entry, Resolves (topClasses body) entryClass entry ∧ Descends (topClasses body) entry d

/-- A class is in the scene if the entry class descends from it. -/
theorem Resolves.inScene_iff (hentry : Resolves (topClasses body) entryClass entry) :
    InScene body d ↔ Descends (topClasses body) entry d := by
  constructor
  · rintro ⟨entry', hentry', hd⟩
    rwa [hentry.unique hentry']
  · intro hd
    exact ⟨entry, hentry, hd⟩

/-- Without an entry class nothing is in the scene. -/
theorem not_inScene (h : ∀ c ∈ topClasses body, c.name ≠ entryClass) : ¬ InScene body d := by
  rintro ⟨entry, hentry, -⟩
  exact h entry hentry.mem hentry.name_eq

/-- The class is reported missing exactly if there is none of its name. -/
theorem missingClass_mem_iff : EntryFlaw.missingClass ∈ entryFlaws lineOf body ↔
    ¬ ∃ c ∈ topClasses body, c.name = entryClass := by
  rcases resolves_or_absent (topClasses body) entryClass with ⟨entry, hentry⟩ | habsent
  · have hpresent : ∃ c ∈ topClasses body, c.name = entryClass :=
      ⟨entry, hentry.mem, hentry.name_eq⟩
    simp [mem_entryFlaws hentry .missingClass trivial, hpresent]
  · simpa [entryFlaws_of_absent habsent] using habsent

/-- Duplicates are reported exactly if there are at least two, with their number. -/
theorem duplicateClass_mem_iff {count : Nat} :
    EntryFlaw.duplicateClass count ∈ entryFlaws lineOf body ↔
      2 ≤ count ∧ (topClasses body).countP (·.name == entryClass) = count := by
  rcases resolves_or_absent (topClasses body) entryClass with ⟨entry, hentry⟩ | habsent
  · simp only [mem_entryFlaws hentry (.duplicateClass count) trivial,
      EntryFlaw.duplicateClass.injEq, reduceCtorEq, and_false, or_false]
    constructor
    · rintro ⟨htwo, rfl⟩
      exact ⟨htwo, rfl⟩
    · rintro ⟨htwo, rfl⟩
      exact ⟨htwo, rfl⟩
  · have hzero : (topClasses body).countP (·.name == entryClass) = 0 := by
      simpa [List.countP_eq_zero] using habsent
    simp only [entryFlaws_of_absent habsent, hzero, List.mem_cons, reduceCtorEq,
      List.not_mem_nil, or_self, false_iff, not_and]
    omega

/-- The base is reported wrong exactly if no class of the scene names it. -/
theorem wrongBase_mem_iff : EntryFlaw.wrongBase ∈ entryFlaws lineOf body ↔
    (∃ c ∈ topClasses body, c.name = entryClass) ∧
      ¬ ∃ d, InScene body d ∧ ∃ e ∈ d.bases, Spells sceneClass e := by
  rcases resolves_or_absent (topClasses body) entryClass with ⟨entry, hentry⟩ | habsent
  · have hpresent : ∃ c ∈ topClasses body, c.name = entryClass :=
      ⟨entry, hentry.mem, hentry.name_eq⟩
    simp [mem_entryFlaws hentry .wrongBase trivial, hentry.inScene_iff, hpresent]
  · have hnone : ¬ ∃ c ∈ topClasses body, c.name = entryClass := by simpa using habsent
    simp [entryFlaws_of_absent habsent, hnone]

/-- The method is reported missing exactly if no class of the scene defines it. -/
theorem missingMethod_mem_iff : EntryFlaw.missingMethod ∈ entryFlaws lineOf body ↔
    ¬ ∃ d, InScene body d ∧ Defines d entryMethod := by
  rcases resolves_or_absent (topClasses body) entryClass with ⟨entry, hentry⟩ | habsent
  · simp [mem_entryFlaws hentry .missingMethod trivial, hentry.inScene_iff]
  · simp [entryFlaws_of_absent habsent, not_inScene habsent]

/-- **The rules for the entry class are those of reachability**, for every module.

* The class is reported missing exactly if no class at the top has its name; its method is
  then reported missing as well.
* It is reported to be defined a number of times exactly if that many classes at the top
  have its name, and they are two or more.
* It is reported not to inherit from the scene class exactly if there is one and no class
  of the scene has a base of that spelling.
* The method is reported missing exactly if no class of the scene defines it.
* These wordings are the ones a script that reads as the module gets.
* Every search comes to an end, whatever the classes, the bases to stop at and the names
  visited; and the two searches of a module end as it does. -/
theorem entry_rules (index : LineIndex) (body : List Stmt) :
    (EntryFlaw.missingClass.message ∈ treeErrors index body ↔
      ¬ ∃ c ∈ topClasses body, c.name = entryClass) ∧
    (EntryFlaw.missingClass.message ∈ treeErrors index body →
      EntryFlaw.missingMethod.message ∈ treeErrors index body) ∧
    (∀ count, (EntryFlaw.duplicateClass count).message ∈ treeErrors index body ↔
      2 ≤ count ∧ (topClasses body).countP (·.name == entryClass) = count) ∧
    (EntryFlaw.wrongBase.message ∈ treeErrors index body ↔
      (∃ c ∈ topClasses body, c.name = entryClass) ∧
        ¬ ∃ d, InScene body d ∧ ∃ e ∈ d.bases, Spells sceneClass e) ∧
    (EntryFlaw.missingMethod.message ∈ treeErrors index body ↔
      ¬ ∃ d, InScene body d ∧ Defines d entryMethod) ∧
    (∀ source, ReadsAs source body → index = LineIndex.ofBytes (utf8 source) →
      (validate source).errors = treeErrors index body) ∧
    (∀ classes stops c visited, ∃ found after, ClassSearch classes stops c visited found after) ∧
    (∀ classes base c visited found after, c ∈ classes →
      ClassSearch classes (namesBase base) c visited found after →
        inheritsFrom classes base (classFuel classes) c visited = (found, after)) ∧
    (∀ classes c methods visited found after, c ∈ classes →
      ClassSearch classes never c visited found after →
        (methodsOf classes (classFuel classes) c (methods, visited)).2 = after) := by
  refine ⟨?_, ?_, fun count => ?_, ?_, ?_, ?_, ClassSearch.total, ?_, ?_⟩
  · rw [mem_treeErrors .missingClass trivial, missingClass_mem_iff]
  · rw [mem_treeErrors .missingClass trivial, mem_treeErrors .missingMethod trivial,
      missingClass_mem_iff, missingMethod_mem_iff]
    rintro hnone ⟨d, ⟨entry, hentry, -⟩, -⟩
    exact hnone ⟨entry, hentry.mem, hentry.name_eq⟩
  · rw [mem_treeErrors (.duplicateClass count) trivial, duplicateClass_mem_iff]
  · rw [mem_treeErrors .wrongBase trivial, wrongBase_mem_iff]
  · rw [mem_treeErrors .missingMethod trivial, missingMethod_mem_iff]
  · rintro source hreads rfl
    exact hreads.errors_eq
  · intro classes base c visited found after hc hsearch
    exact hsearch.inheritsFrom_eq hc
  · intro classes c methods visited found after hc hsearch
    exact hsearch.methodsOf_snd hc methods

/-- A scene of two classes that inherit from each other, defined twice. -/
def circularScene : String :=
  "from manim import *\nclass A(B): pass\nclass B(A, Scene):\n" ++
    "    async def construct(self): pass\nclass GeneratedScene(A): pass\n" ++
    "class GeneratedScene: pass\n"

/-- In the circular scene both searches come to an end, and they find the scene class and
the method; what is reported is that it is defined twice. -/
theorem circular_scene_searched :
    ∃ body, ReadsAs circularScene body ∧
      (topClasses body).countP (·.name == entryClass) = 2 ∧
      (∃ d, InScene body d ∧ ∃ e ∈ d.bases, Spells sceneClass e) ∧
      (∃ d, InScene body d ∧ Defines d entryMethod) ∧
      ∃ c ∈ topClasses body, c.name = entryClass ∧
        (∃ found after, ClassSearch (topClasses body) (namesBase sceneClass) c [] found after ∧
          inheritsFrom (topClasses body) sceneClass (classFuel (topClasses body)) c [] =
            (found, after)) ∧
        ∃ found after, ClassSearch (topClasses body) never c [] found after ∧
          (methodsOf (topClasses body) (classFuel (topClasses body)) c ([], [])).2 = after := by
  have reported :
      (validate circularScene).errors = [(EntryFlaw.duplicateClass 2).message] := by
    decide +kernel
  obtain ⟨body, h⟩ := exists_readsAs reported (by decide +kernel)
  obtain ⟨hclass, -, hduplicate, hbase, hmethod, herrors, htotal, hinherits, hmethods⟩ :=
    entry_rules (LineIndex.ofBytes (utf8 circularScene)) body
  rw [← herrors _ h rfl, reported] at hclass hbase hmethod
  simp only [← herrors _ h rfl, reported] at hduplicate
  obtain ⟨c, hc, hname⟩ := not_not.mp (hclass.not.mp (by decide +kernel))
  have hwrong := hbase.not.mp (by decide +kernel)
  refine ⟨body, h, ((hduplicate 2).mp (by simp)).2, ?_, ?_, c, hc, hname, ?_, ?_⟩
  · by_contra hnone
    exact hwrong ⟨⟨c, hc, hname⟩, hnone⟩
  · exact not_not.mp (hmethod.not.mp (by decide +kernel))
  · obtain ⟨found, after, hsearch⟩ := htotal (topClasses body) (namesBase sceneClass) c []
    exact ⟨found, after, hsearch, hinherits _ _ c [] found after hc hsearch⟩
  · obtain ⟨found, after, hsearch⟩ := htotal (topClasses body) never c []
    exact ⟨found, after, hsearch, hmethods _ c [] [] found after hc hsearch⟩

end SceneRender.Script
