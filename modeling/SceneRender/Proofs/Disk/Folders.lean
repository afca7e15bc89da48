import SceneRender.Proofs.Disk.Files

/-!
# What stands where afterwards

`Disk.Steady` speaks of files alone.  `Disk.Confined` speaks of whatever stands at a place,
so that a folder that was made counts as a change too.  Writing, copying and removing touch
one place each.

Making the folders of a path goes down its names and makes what is missing.  The places
that it comes by are the way of the path (`Disk.way`); it makes a folder at some of them
where nothing stood before, and touches no other place (`Disk.makeFolders_node?`).
-/

namespace SceneRender

namespace Disk

/-! ## Changes of nodes -/

/-- One disk comes from another by changes at some places, be it of files or of folders. -/
structure Confined (changed : Place → Prop) (d d' : Disk) : Prop where
  working : d'.working = d.working
  nodes : ∀ place, ¬ changed place → d'.node? place = d.node? place

/-- A disk that did not change is confined to any places. -/
theorem Confined.refl (changed : Place → Prop) (d : Disk) : Confined changed d d :=
  ⟨rfl, fun _ _ => rfl⟩

/-- Confined changes keep the places of paths. -/
theorem Confined.placeOf {changed : Place → Prop} {d d' : Disk} (h : Confined changed d d')
    (path : String) : d'.placeOf path = d.placeOf path :=
  placeOf_congr h.working path

/-- Writing a file touches the place of its path alone. -/
theorem confined_write {d d' : Disk} {path : String} {content : ByteArray}
    (h : d.write path content = .ok d') : Confined (· = d.placeOf path) d d' := by
  obtain ⟨-, hfree, rfl⟩ := write_eq_set h
  refine ⟨rfl, fun p hp => ?_⟩
  rw [node?_set d (ne_nil_of_not_folder hfree), if_neg hp]

/-- Copying a file touches the place of the target alone. -/
theorem confined_copy {d d' : Disk} {source target : String}
    (h : d.copy source target = .ok d') : Confined (· = d.placeOf target) d d' := by
  obtain ⟨content, -, hwrite⟩ := copy_eq_write h
  exact confined_write hwrite

/-- Removing a file touches its place alone. -/
theorem confined_remove {d d' : Disk} {path : String} (h : d.remove path = .ok d') :
    Confined (· = d.placeOf path) d d' := by
  obtain ⟨-, ⟨content, hnode⟩, rfl⟩ := remove_eq_erase h
  have hne : d.placeOf path ≠ [] := ne_nil_of_not_folder (d := d) (by simp [hnode])
  refine ⟨rfl, fun p hp => ?_⟩
  rw [node?_erase d hne, if_neg hp]

/-- What was removed is not there to be removed again. -/
theorem remove_again {d d' : Disk} {path : String} (h : d.remove path = .ok d') :
    d'.remove path = .error .notFound := by
  have hsteady := (remove_eq_ok h).1
  obtain ⟨hplace, ⟨content, hnode⟩, rfl⟩ := remove_eq_erase h
  have hne : d.placeOf path ≠ [] := ne_nil_of_not_folder (d := d) (by simp [hnode])
  have hgone : (d.erase (d.placeOf path)).node? (d.placeOf path) = none := by
    rw [node?_erase d hne, if_pos rfl]
  simp [remove, hsteady.locate hplace, hgone, bind, Except.bind]

/-! ## The way of a path -/

/-- The places that names pass on their way down from a place, in order. -/
def passed (start : Place) : List String → List Place
  | [] => []
  | name :: rest =>
    let next := if name == ".." then start.dropLast else start ++ [name]
    next :: passed next rest

/-- The places that a path passes, the last of them its own. -/
def way (d : Disk) (path : String) : List Place := passed (d.start path) (names path)

/-- **What making folders changes**: at places on the way where nothing stood, there may be
a folder afterwards; all other places are as they were. -/
theorem makeChain_node? (d : Disk) (start : Place) (names : List String) (p : Place) :
    (d.makeChain start names).2.node? p = d.node? p ∨
      p ∈ passed start names ∧ d.node? p = none ∧
        (d.makeChain start names).2.node? p = some (.folder Node.plainMode) := by
  induction names generalizing d start with
  | nil => exact Or.inl rfl
  | cons name rest ih =>
      rw [makeChain, passed]
      by_cases hup : (name == "..") = true
      · rw [if_pos hup, if_pos hup]
        rcases ih d start.dropLast with hsame | ⟨hmem, hmade⟩
        · exact Or.inl hsame
        · exact Or.inr ⟨List.mem_cons_of_mem _ hmem, hmade⟩
      · rw [if_neg hup, if_neg hup]
        split
        · exact Or.inl rfl
        · dsimp only
          split
          · rcases ih d (start ++ [name]) with hsame | ⟨hmem, hmade⟩
            · exact Or.inl hsame
            · exact Or.inr ⟨List.mem_cons_of_mem _ hmem, hmade⟩
          · exact Or.inl rfl
          · next hfree =>
            have hne : start ++ [name] ≠ [] := by simp
            have hset := node?_set d hne (.folder Node.plainMode) p
            by_cases hp : p = start ++ [name]
            · -- the folder that was just made stays as it is
              subst hp
              rw [if_pos rfl] at hset
              refine Or.inr ⟨List.mem_cons_self, hfree, ?_⟩
              rcases ih (d.set (start ++ [name]) (.folder Node.plainMode)) (start ++ [name])
                with hsame | ⟨-, hnone, -⟩
              · rw [hsame, hset]
              · rw [hset] at hnone
                cases hnone
            · rw [if_neg hp] at hset
              rcases ih (d.set (start ++ [name]) (.folder Node.plainMode)) (start ++ [name])
                with hsame | ⟨hmem, hnone, hmade⟩
              · exact Or.inl (hsame.trans hset)
              · exact Or.inr ⟨List.mem_cons_of_mem _ hmem, hset.symm.trans hnone, hmade⟩

/-- Making the folders of a path, place by place. -/
theorem makeFolders_node? (d : Disk) (path : String) (p : Place) :
    (d.makeFolders path).2.node? p = d.node? p ∨
      p ∈ d.way path ∧ d.node? p = none ∧
        (d.makeFolders path).2.node? p = some (.folder Node.plainMode) := by
  rw [makeFolders]
  split
  · exact Or.inl rfl
  · exact d.makeChain_node? _ _ p

end Disk

end SceneRender
