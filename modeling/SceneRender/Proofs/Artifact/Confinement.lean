import SceneRender.Proofs.Artifact.Calls
import Mathlib.Data.List.Infix

/-!
# Confined to the folder

Job ids come from anywhere.  One that is empty, has a slash of either kind or two dots side
by side gets no path, and a call that would need its path fails before the disk is touched.
Every other id gets a name in the folder of the store, its own one
(`ArtifactStore.calls_confined`).

So whatever stands at a place stays, except at the place of the video that the call is
about, at the source of a video that was stored, and on the way to the folder, where the
missing folders are made.  These include the ones above it, not only the folder of the
store itself (`ArtifactStore.folder_above_made`).  A call that fails makes folders at most.
-/

namespace SceneRender

namespace ArtifactStore

variable {store : ArtifactStore} {d : Disk} {id : String}

/-! ## The ids that get a path -/

/-- Two dots side by side are found wherever they are. -/
theorem hasDoubleDot_iff {cs : List Char} : hasDoubleDot cs = true ↔ ['.', '.'] <:+: cs := by
  fun_induction hasDoubleDot cs with
  | case1 rest => exact iff_of_true rfl ⟨[], rest, rfl⟩
  | case2 c rest hdots ih =>
      rw [ih, List.infix_cons_iff]
      refine (or_iff_right ?_).symm
      -- the two dots do not begin here
      rintro ⟨tail, htail⟩
      obtain ⟨rfl, rfl⟩ : '.' = c ∧ '.' :: tail = rest := by simpa using htail
      exact hdots tail rfl rfl
  | case3 => simp

/-- **The ids that get a path.** -/
theorem isValidId_iff : isValidId id = true ↔
    id ≠ "" ∧ '/' ∉ id.toList ∧ '\\' ∉ id.toList ∧ ¬ ['.', '.'] <:+: id.toList := by
  rw [← hasDoubleDot_iff]
  simp only [isValidId, Bool.and_eq_true, Bool.not_eq_true', ← Bool.not_eq_true,
    List.any_eq_true, Bool.or_eq_true, beq_iff_eq, String.isEmpty_iff]
  constructor
  · rintro ⟨⟨hempty, hslash⟩, hdots⟩
    exact ⟨hempty, fun h => hslash ⟨_, h, Or.inl rfl⟩, fun h => hslash ⟨_, h, Or.inr rfl⟩, hdots⟩
  · rintro ⟨hempty, hslash, hback, hdots⟩
    refine ⟨⟨hempty, ?_⟩, hdots⟩
    rintro ⟨c, hc, rfl | rfl⟩
    · exact hslash hc
    · exact hback hc

/-- The jobs whose paths a call has to form.  The target of a copy needs one only if there
is something to copy. -/
def Needs (store : ArtifactStore) (d : Disk) (id : String) : ArtifactCall → Prop
  | .prepare => False
  | .put job _ | .get job | .delete job => job = id
  | .clone source target =>
    source = id ∨ target = id ∧ ∃ path, store.get source d = .ok (some path)

/-- **A call that needs a path for another id fails**, and the disk is as it was. -/
theorem perform_invalid {call : ArtifactCall} (hid : isValidId id = false)
    (hneeds : store.Needs d id call) :
    store.perform call d = (.error (.invalidJobId id), d) := by
  have hpath : store.pathOf id = .error (.invalidJobId id) := by simp [pathOf, hid]
  have hget : store.get id d = .error (.invalidJobId id) := by
    simp [get, hpath, bind, Except.bind]
  cases call with
  | prepare => exact hneeds.elim
  | put job source =>
      obtain rfl : job = id := hneeds
      simp [perform, put, hpath, Except.map]
  | clone source target =>
      rcases hneeds with rfl | ⟨rfl, path, hfound⟩
      · simp [perform, clone, hget]
      · simp [perform, clone, hfound, hpath]
  | get job =>
      obtain rfl : job = id := hneeds
      simp [perform, hget]
  | delete job =>
      obtain rfl : job = id := hneeds
      simp [perform, delete, hpath, Except.map]

/-! ## What may stand elsewhere afterwards -/

/-- Does a call make the folder of the store? -/
def MakesFolder (call : ArtifactCall) : Prop :=
  call = .prepare ∨ ∃ id source, call = .put id source

/-- **Where a call leaves its mark**: at the place of its video, at the source of a video
that was stored, and where a folder was missing on the way to the store. -/
inductive Marks (store : ArtifactStore) (call : ArtifactCall) (d : Disk) (p : Disk.Place) : Prop
  | video {id : String} (htarget : call.target? = some id) (hid : isValidId id = true)
      (hplace : p = store.place d id)
  | source {id source path : String} (hput : call = .put id source)
      (hstored : (store.put id source d).1 = .ok path) (hplace : p = d.placeOf source)
  | folder (hmakes : MakesFolder call) (hway : p ∈ d.way store.root) (hfree : d.node? p = none)
      (hmade : (store.perform call d).2.node? p = some (.folder Node.plainMode))

/-- A mark that a call leaves when it makes the folder of the store and no more. -/
private theorem marks_of_folders {call : ArtifactCall} {p : Disk.Place}
    (hmakes : MakesFolder call) (h : (store.perform call d).2 = (d.makeFolders store.root).2)
    (hp : (store.perform call d).2.node? p ≠ d.node? p) : store.Marks call d p := by
  rw [h] at hp
  rcases d.makeFolders_node? store.root p with hsame | ⟨hway, hfree, hmade⟩
  · exact absurd hsame hp
  · exact .folder hmakes hway hfree (by rw [h, hmade])

/-- **Whatever differs after a call is a mark of it.** -/
theorem marks_of_ne {call : ArtifactCall} {p : Disk.Place}
    (hp : (store.perform call d).2.node? p ≠ d.node? p) : store.Marks call d p := by
  cases call with
  | prepare => exact marks_of_folders (Or.inl rfl) (store.prepare_disk d) hp
  | put id source =>
      have hmakes : MakesFolder (.put id source) := Or.inr ⟨id, source, rfl⟩
      rcases hput : (store.put id source d).1 with fault | path
      · rcases put_error hput with hsame | hfolders
        · exact absurd (by rw [perform, hsame]) hp
        · exact marks_of_folders hmakes hfolders hp
      · obtain ⟨hid, rfl, copied, hcopy, hend⟩ := put_parts hput
        have hmade := d.steady_makeFolders store.root
        have hcopied := Disk.confined_copy hcopy
        have htarget : (d.makeFolders store.root).2.placeOf (store.videoPath id) =
            store.place d id := by rw [hmade.placeOf, placeOf_videoPath store d hid]
        have hsource : copied.placeOf source = d.placeOf source := by
          rw [hcopied.placeOf, hmade.placeOf]
        -- the source goes, or stays where the disk holds it
        have hlast : Disk.Confined (· = d.placeOf source) copied (store.put id source d).2 := by
          rcases hend with ⟨-, hremove⟩ | ⟨-, hkept⟩
          · rw [← hsource]
            exact Disk.confined_remove hremove
          · rw [hkept]
            exact Disk.Confined.refl _ copied
        by_cases hvideo : p = store.place d id
        · exact .video rfl hid hvideo
        · by_cases htaken : p = d.placeOf source
          · exact .source rfl hput htaken
          · -- elsewhere only the folders that were made differ
            have hsame : (store.perform (.put id source) d).2.node? p =
                (d.makeFolders store.root).2.node? p :=
              (hlast.nodes p htaken).trans (hcopied.nodes p (by rwa [htarget]))
            rw [hsame] at hp
            rcases d.makeFolders_node? store.root p with hno | ⟨hway, hfree, hfolder⟩
            · exact absurd hno hp
            · exact .folder hmakes hway hfree (hsame.trans hfolder)
  | clone source target =>
      rcases store.clone_parts d source target with ⟨-, hsame⟩ | ⟨hid, -, -, hcopy⟩
      · exact absurd (by rw [perform, hsame]) hp
      · by_cases hvideo : p = store.place d target
        · exact .video rfl hid hvideo
        · refine absurd ((Disk.confined_copy hcopy).nodes p ?_) hp
          rwa [placeOf_videoPath store d hid]
  | get id => exact absurd rfl hp
  | delete id =>
      rcases store.delete_parts d id with ⟨-, hsame⟩ | ⟨hid, -, hremove⟩
      · exact absurd (by rw [perform, hsame]) hp
      · by_cases hvideo : p = store.place d id
        · exact .video rfl hid hvideo
        · refine absurd ((Disk.confined_remove hremove).nodes p ?_) hp
          rwa [placeOf_videoPath store d hid]

/-- **The store keeps to its folder.**  On every disk:

* an id gets a path exactly if it is not empty and has no slash of either kind and no two
  dots side by side; the path then leads to a name in the folder of the store, and
  different ids get different places;
* a call that needs a path for another id fails and leaves the disk as it was;
* whatever differs after a call is a mark of it;
* a call that fails leaves every file as it was. -/
theorem calls_confined (store : ArtifactStore) (d : Disk) :
    (∀ id, (∃ path, store.pathOf id = .ok path) ↔
      id ≠ "" ∧ '/' ∉ id.toList ∧ '\\' ∉ id.toList ∧ ¬ ['.', '.'] <:+: id.toList) ∧
    (∀ id path, store.pathOf id = .ok path →
      d.placeOf path = d.placeOf store.root ++ [id ++ ".mp4"] ∧
      ∀ id' path', store.pathOf id' = .ok path' → d.placeOf path = d.placeOf path' → id = id') ∧
    (∀ id call, (¬ ∃ path, store.pathOf id = .ok path) → store.Needs d id call →
      store.perform call d = (.error (.invalidJobId id), d)) ∧
    (∀ call p, (store.perform call d).2.node? p ≠ d.node? p → store.Marks call d p) ∧
    (∀ call fault, (store.perform call d).1 = .error fault →
      ∀ p, (store.perform call d).2.fileAt p = d.fileAt p) := by
  have hvalid : ∀ id, (∃ path, store.pathOf id = .ok path) ↔ isValidId id = true := fun id =>
    ⟨fun ⟨path, hpath⟩ => (pathOf_eq_ok.mp hpath).1, fun hid => ⟨_, pathOf_eq_ok.mpr ⟨hid, rfl⟩⟩⟩
  refine ⟨fun id => (hvalid id).trans isValidId_iff, ?_, ?_, fun call p => marks_of_ne, ?_⟩
  · intro id path hpath
    obtain ⟨hid, rfl⟩ := pathOf_eq_ok.mp hpath
    refine ⟨placeOf_videoPath store d hid, fun id' path' hpath' hsame => ?_⟩
    obtain ⟨hid', rfl⟩ := pathOf_eq_ok.mp hpath'
    rw [placeOf_videoPath store d hid, placeOf_videoPath store d hid'] at hsame
    exact place_inj hsame
  · intro id call hno hneeds
    rw [hvalid, Bool.not_eq_true] at hno
    exact perform_invalid hno hneeds
  · intro call fault hfault p
    exact (steady_perform_error hfault).files p nofun

/-- A store whose folder is two steps below the top. -/
def deepStore : ArtifactStore := ⟨"/deep/videos"⟩

/-- **The folder above is made as well**: storing a video succeeds and makes a folder that
is neither the folder of the store, nor the place of the video, nor the source. -/
theorem folder_above_made :
    isValidId "a" = true ∧
      (deepStore.put "a" "/spool/new.mp4" spoolDisk).1.toOption = some "/deep/videos/a.mp4" ∧
      (spoolDisk.node? ["deep"]).isNone ∧
      ((deepStore.put "a" "/spool/new.mp4" spoolDisk).2.node? ["deep"]).isSome ∧
      spoolDisk.placeOf deepStore.root ≠ ["deep"] ∧ deepStore.place spoolDisk "a" ≠ ["deep"] ∧
      spoolDisk.placeOf "/spool/new.mp4" ≠ ["deep"] := by
  decide +kernel

end ArtifactStore

end SceneRender
