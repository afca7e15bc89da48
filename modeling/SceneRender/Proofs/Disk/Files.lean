import SceneRender.Proofs.Disk.Paths
import SceneRender.Proofs.Entries

/-!
# What an operation leaves alone

Writing, copying and removing change the file at one place.  Everything else stays:
the other files, all folders, and where paths begin.  `Disk.Steady` says so with the
places that may differ, and a path that could be walked before can still be walked
after (`Disk.Steady.locate`), because a walk only needs its folders.

Each operation is taken apart once: where it succeeds, it is a `set` or an `erase` at one
place (`Disk.write_eq_set`, `Disk.copy_eq_write`, `Disk.remove_eq_erase`).  What it needs,
what can be read afterwards and that it is steady everywhere else follow from that.
-/

namespace SceneRender

namespace Disk

/-- The content of the file at a place. -/
def fileAt (d : Disk) (place : Place) : Option ByteArray := (d.node? place).bind Node.content?

/-- What stands at a place after a node was put somewhere. -/
theorem node?_set (d : Disk) {place : Place} (hplace : place ≠ []) (node : Node) (p : Place) :
    (d.set place node).node? p = if p = place then some node else d.node? p := by
  by_cases htop : p = []
  · simp [node?, htop, Ne.symm hplace]
  · rw [node?, node?, set, lookup_cons_filter_bne]
    simp [htop]

/-- What stands at a place after a place was cleared. -/
theorem node?_erase (d : Disk) {place : Place} (hplace : place ≠ []) (p : Place) :
    (d.erase place).node? p = if p = place then none else d.node? p := by
  by_cases htop : p = []
  · simp [node?, htop, Ne.symm hplace]
  · rw [node?, node?, erase, lookup_filter_bne]
    simp [htop]

/-- The top is a folder. -/
theorem ne_nil_of_not_folder {d : Disk} {place : Place}
    (h : ∀ mode, d.node? place ≠ some (.folder mode)) : place ≠ [] := by
  rintro rfl
  exact h _ rfl

/-- A file at a place is the node there. -/
theorem node?_of_fileAt {d : Disk} {place : Place} {content : ByteArray}
    (h : d.fileAt place = some content) : d.node? place = some (.file content) := by
  rw [fileAt] at h
  obtain ⟨node, hnode, hcontent⟩ := Option.bind_eq_some_iff.mp h
  cases node with
  | file c =>
      obtain rfl : c = content := by simpa [Node.content?] using hcontent
      exact hnode
  | folder mode => cases hcontent

/-! ## Steadiness -/

/-- One disk comes from another by changes of the files at some places; folders may
have been added, but none is gone. -/
structure Steady (changed : Place → Prop) (d d' : Disk) : Prop where
  working : d'.working = d.working
  folders : ∀ place mode, d.node? place = some (.folder mode) →
    d'.node? place = some (.folder mode)
  files : ∀ place, ¬ changed place → d'.fileAt place = d.fileAt place

namespace Steady

variable {changed changed' : Place → Prop} {d d' d'' : Disk}

/-- A disk is steady. -/
theorem refl (changed : Place → Prop) (d : Disk) : Steady changed d d :=
  ⟨rfl, fun _ _ h => h, fun _ _ => rfl⟩

/-- Steady changes follow each other. -/
theorem trans (h : Steady changed d d') (h' : Steady changed d' d'') : Steady changed d d'' where
  working := h'.working.trans h.working
  folders place mode hfolder := h'.folders place mode (h.folders place mode hfolder)
  files place hplace := (h'.files place hplace).trans (h.files place hplace)

/-- More places may be said to differ. -/
theorem mono (h : Steady changed d d') (hmore : ∀ place, changed place → changed' place) :
    Steady changed' d d' where
  working := h.working
  folders := h.folders
  files place hplace := h.files place fun hp => hplace (hmore place hp)

/-- The places of paths do not change. -/
theorem placeOf (h : Steady changed d d') (path : String) : d'.placeOf path = d.placeOf path :=
  placeOf_congr h.working path

/-- What could be walked can still be walked, as no folder goes. -/
theorem walk (h : Steady changed d d') {start place : Place} {names : List String}
    (hwalk : d.walk start names = .ok place) : d'.walk start names = .ok place := by
  induction names generalizing start with
  | nil => exact hwalk
  | cons name rest ih =>
      rw [Disk.walk] at hwalk ⊢
      split
      · next hup =>
          rw [if_pos hup] at hwalk
          exact ih hwalk
      · next hup =>
          rw [if_neg hup] at hwalk
          split
          · next hlong =>
              rw [if_pos hlong] at hwalk
              cases hwalk
          · next hlong =>
              rw [if_neg hlong] at hwalk
              split
              · next hlast => rwa [if_pos hlast] at hwalk
              · next hlast =>
                  rw [if_neg hlast] at hwalk
                  split at hwalk
                  · next mode hnode =>
                      rw [h.folders _ _ hnode]
                      exact ih hwalk
                  · cases hwalk
                  · cases hwalk

/-- **A path that could be walked can still be walked**, to the same place. -/
theorem locate (h : Steady changed d d') {path : String} {place : Place}
    (hpath : d.locate path = .ok place) : d'.locate path = .ok place := by
  rw [Disk.locate] at hpath ⊢
  split at hpath
  · cases hpath
  · split at hpath
    · cases hpath
    · next hnul hempty =>
        rw [if_neg hnul, if_neg hempty, start, h.working, ← start]
        exact h.walk hpath

end Steady

/-! ## Reading -/

/-- A file can be read if its path can be walked and a file is there. -/
theorem read_eq_ok {d : Disk} {path : String} {content : ByteArray} :
    d.read path = .ok content ↔
      d.locate path = .ok (d.placeOf path) ∧ d.fileAt (d.placeOf path) = some content := by
  constructor
  · intro h
    rcases hplace : d.locate path with fault | place
    · simp [read, find, hplace, bind, Except.bind] at h
    · obtain rfl := locate_eq_placeOf hplace
      refine ⟨rfl, ?_⟩
      rcases hnode : d.node? (d.placeOf path) with _ | c | mode
      · simp [read, find, hplace, hnode, bind, Except.bind] at h
      · obtain rfl : c = content := by
          simpa [read, find, hplace, hnode, bind, Except.bind] using h
        simp [fileAt, hnode, Node.content?]
      · simp [read, find, hplace, hnode, bind, Except.bind] at h
  · rintro ⟨hplace, hfile⟩
    simp [read, find, hplace, node?_of_fileAt hfile, bind, Except.bind]

/-- There is a file where a file can be read. -/
theorem isFile_iff {d : Disk} {path : String} :
    d.isFile path = true ↔ ∃ content, d.read path = .ok content := by
  rcases hfind : d.find path with fault | content | mode <;>
    simp [isFile, read, hfind, bind, Except.bind]

/-- What can be read stays as it is when the file is not among the changed ones. -/
theorem Steady.read {changed : Place → Prop} {d d' : Disk} (h : Steady changed d d')
    {path : String} (hpath : ¬ changed (d.placeOf path)) {content : ByteArray}
    (hread : d.read path = .ok content) : d'.read path = .ok content := by
  obtain ⟨hplace, hfile⟩ := read_eq_ok.mp hread
  refine read_eq_ok.mpr ⟨?_, ?_⟩
  · rw [h.placeOf]
    exact h.locate hplace
  · rw [h.placeOf, h.files _ hpath, hfile]

/-! ## Writing -/

/-- Putting a file where no folder is changes that place alone. -/
theorem steady_set_file {d : Disk} {place : Place} (content : ByteArray)
    (hfree : ∀ mode, d.node? place ≠ some (.folder mode)) :
    Steady (· = place) d (d.set place (.file content)) where
  working := rfl
  folders p mode hp := by
    rw [node?_set d (ne_nil_of_not_folder hfree), if_neg, hp]
    rintro rfl
    exact hfree mode hp
  files p hp := by
    rw [fileAt, fileAt, node?_set d (ne_nil_of_not_folder hfree), if_neg hp]

/-- A write that succeeds puts the file at the place of the path, where no folder is. -/
theorem write_eq_set {d d' : Disk} {path : String} {content : ByteArray}
    (h : d.write path content = .ok d') :
    d.locate path = .ok (d.placeOf path) ∧
      (∀ mode, d.node? (d.placeOf path) ≠ some (.folder mode)) ∧
      d' = d.set (d.placeOf path) (.file content) := by
  rcases hplace : d.locate path with fault | place
  · simp [write, hplace, bind, Except.bind] at h
  · obtain rfl := locate_eq_placeOf hplace
    refine ⟨rfl, fun mode hmode => ?_, ?_⟩
    · simp [write, hplace, hmode, bind, Except.bind] at h
    · rcases hnode : d.node? (d.placeOf path) with _ | c | mode <;>
        simp [write, hplace, hnode, bind, Except.bind] at h
      · exact h.symm
      · exact h.symm

/-- **What writing does**: the path can be walked, the file is there afterwards, and
nothing else differs. -/
theorem write_eq_ok {d d' : Disk} {path : String} {content : ByteArray}
    (h : d.write path content = .ok d') :
    d'.read path = .ok content ∧ Steady (· = d.placeOf path) d d' := by
  obtain ⟨hplace, hfree, rfl⟩ := write_eq_set h
  have hsteady := steady_set_file content hfree
  refine ⟨read_eq_ok.mpr ⟨?_, ?_⟩, hsteady⟩
  · rw [hsteady.placeOf]
    exact hsteady.locate hplace
  · rw [hsteady.placeOf, fileAt, node?_set d (ne_nil_of_not_folder hfree)]
    simp [Node.content?]

/-- A copy that succeeds reads its source and writes its target, which the copying has
emptied before the reading if both are one place. -/
theorem copy_eq_write {d d' : Disk} {source target : String} (h : d.copy source target = .ok d') :
    ∃ content, d.read source = .ok content ∧
      d.write target (if d.placeOf target = d.placeOf source then .empty else content) =
        .ok d' := by
  rcases hsource : d.locate source with fault | origin
  · simp [copy, hsource, bind, Except.bind] at h
  · obtain rfl := locate_eq_placeOf hsource
    rcases hnode : d.node? (d.placeOf source) with _ | content | mode
    · simp [copy, hsource, hnode, bind, Except.bind] at h
    · refine ⟨content, read_eq_ok.mpr ⟨hsource, by simp [fileAt, hnode, Node.content?]⟩, ?_⟩
      rcases htarget : d.locate target with fault | place
      · simp [copy, hsource, hnode, htarget, bind, Except.bind] at h
      · obtain rfl := locate_eq_placeOf htarget
        simpa [copy, hsource, hnode, htarget, bind, Except.bind] using h
    · simp [copy, hsource, hnode, bind, Except.bind] at h

/-- **What copying does**: the source can be read, and what was read there is then
read at the target, unless both are one place. -/
theorem copy_eq_ok {d d' : Disk} {source target : String} (h : d.copy source target = .ok d') :
    ∃ content, d.read source = .ok content ∧ Steady (· = d.placeOf target) d d' ∧
      d'.read target =
        .ok (if d.placeOf target = d.placeOf source then .empty else content) := by
  obtain ⟨content, hsource, hwrite⟩ := copy_eq_write h
  obtain ⟨htarget, hsteady⟩ := write_eq_ok hwrite
  exact ⟨content, hsource, hsteady, htarget⟩

/-- A removal that succeeds erases the file at the place of the path. -/
theorem remove_eq_erase {d d' : Disk} {path : String} (h : d.remove path = .ok d') :
    d.locate path = .ok (d.placeOf path) ∧
      (∃ content, d.node? (d.placeOf path) = some (.file content)) ∧
      d' = d.erase (d.placeOf path) := by
  rcases hplace : d.locate path with fault | place
  · simp [remove, hplace, bind, Except.bind] at h
  · obtain rfl := locate_eq_placeOf hplace
    rcases hnode : d.node? (d.placeOf path) with _ | content | mode
    · simp [remove, hplace, hnode, bind, Except.bind] at h
    · by_cases hheld : d.placeOf path ∈ d.held
      · simp [remove, hplace, hnode, hheld, bind, Except.bind] at h
      · simp [remove, hplace, hnode, hheld, bind, Except.bind] at h
        exact ⟨rfl, ⟨content, rfl⟩, h.symm⟩
    · simp [remove, hplace, hnode, bind, Except.bind] at h

/-- **What removing does**: a file was there, nothing is there afterwards, and nothing
else differs. -/
theorem remove_eq_ok {d d' : Disk} {path : String} (h : d.remove path = .ok d') :
    Steady (· = d.placeOf path) d d' ∧ d'.fileAt (d.placeOf path) = none := by
  obtain ⟨-, ⟨content, hnode⟩, rfl⟩ := remove_eq_erase h
  have hne : d.placeOf path ≠ [] := ne_nil_of_not_folder (d := d) (by simp [hnode])
  refine ⟨⟨rfl, ?_, ?_⟩, ?_⟩
  · intro p mode hp
    rw [node?_erase d hne, if_neg, hp]
    rintro rfl
    rw [hnode] at hp
    cases hp
  · intro p hp
    rw [fileAt, fileAt, node?_erase d hne, if_neg hp]
  · rw [fileAt, node?_erase d hne]
    simp

/-! ## Making folders -/

/-- Putting a folder where nothing is changes no file. -/
theorem steady_set_folder {d : Disk} {place : Place} (mode : Nat) (hfree : d.node? place = none) :
    Steady (fun _ => False) d (d.set place (.folder mode)) := by
  have hne : place ≠ [] := ne_nil_of_not_folder (d := d) (by simp [hfree])
  refine ⟨rfl, ?_, ?_⟩
  · intro p m hp
    rw [node?_set d hne, if_neg, hp]
    rintro rfl
    rw [hfree] at hp
    cases hp
  · intro p _
    rw [fileAt, fileAt, node?_set d hne]
    by_cases hp : p = place
    · simp [hp, hfree, Node.content?]
    · rw [if_neg hp]

/-- Making folders changes no file. -/
theorem steady_makeChain (d : Disk) (start : Place) (names : List String) :
    Steady (fun _ => False) d (d.makeChain start names).2 := by
  induction names generalizing d start with
  | nil => exact Steady.refl _ d
  | cons name rest ih =>
      rw [makeChain]
      split
      · exact ih d _
      · split
        · exact Steady.refl _ d
        · dsimp only
          split
          · exact ih d _
          · exact Steady.refl _ d
          · next hfree => exact (steady_set_folder _ hfree).trans (ih _ _)

/-- **Making folders changes no file**, whether it succeeds or not. -/
theorem steady_makeFolders (d : Disk) (path : String) :
    Steady (fun _ => False) d (d.makeFolders path).2 := by
  rw [makeFolders]
  split
  · exact Steady.refl _ d
  · exact steady_makeChain d _ _

/-! ## What is held -/

/-- A chain of folders holds no more than was held before. -/
theorem held_makeChain (d : Disk) (start : Place) (names : List String) :
    (d.makeChain start names).2.held = d.held := by
  induction names generalizing d start with
  | nil => rfl
  | cons name rest ih =>
      rw [makeChain]
      split
      · exact ih d _
      · split
        · rfl
        · dsimp only
          split
          · exact ih d _
          · rfl
          · exact ih _ _

/-- Making folders leaves held what was held. -/
theorem held_makeFolders (d : Disk) (path : String) :
    (d.makeFolders path).2.held = d.held := by
  rw [makeFolders]
  split
  · rfl
  · exact held_makeChain d _ _

/-- Copying leaves held what was held. -/
theorem held_copy {d d' : Disk} {source target : String} (h : d.copy source target = .ok d') :
    d'.held = d.held := by
  obtain ⟨content, -, hwrite⟩ := copy_eq_write h
  obtain ⟨-, -, rfl⟩ := write_eq_set hwrite
  rfl

end Disk

end SceneRender
