import SceneRender.Proofs.Artifact.Videos
import SceneRender.Proofs.Disk.Folders

/-!
# The calls of the artifact store

The calls of the store as data, `ArtifactCall`, so that what all of them have in common can
be said once.  A call that answers with a fault leaves every file as it was
(`ArtifactStore.steady_perform_error`); any other call changes files at the place of its
own job alone, and storing also at the place of its source
(`ArtifactStore.steady_perform`).

A successful call is taken apart once, into the operations of the disk that it came from
(`put_parts`, `clone_parts`, `delete_parts`).
-/

namespace SceneRender

/-- A call of the artifact store. -/
inductive ArtifactCall where
  /-- The store's folder is made. -/
  | prepare
  /-- A file becomes the video of a job. -/
  | put (id source : String)
  /-- The video of one job becomes that of another as well. -/
  | clone (source target : String)
  /-- The video of a job is asked for. -/
  | get (id : String)
  /-- The video of a job is removed. -/
  | delete (id : String)
  deriving DecidableEq, Repr

/-- The job whose video a call may change. -/
def ArtifactCall.target? : ArtifactCall → Option String
  | put id _ => some id
  | clone _ target => some target
  | delete id => some id
  | prepare | get _ => none

namespace ArtifactStore

/-- A call on a disk.  Its answer is a path where the store gives one. -/
def perform (store : ArtifactStore) (call : ArtifactCall) (d : Disk) :
    Except ArtifactFault (Option String) × Disk :=
  match call with
  | .prepare => ((store.prepare d).1.map fun _ => none, (store.prepare d).2)
  | .put id source => ((store.put id source d).1.map some, (store.put id source d).2)
  | .clone source target => store.clone source target d
  | .get id => (store.get id d, d)
  | .delete id => ((store.delete id d).1.map fun _ => none, (store.delete id d).2)

variable {store : ArtifactStore} {d d' : Disk} {id : String}

/-! ## Looking -/

/-- A video can be asked for exactly where its file can be read. -/
theorem get_of_read {content : ByteArray} (hid : isValidId id = true)
    (h : d.read (store.videoPath id) = .ok content) :
    store.get id d = .ok (some (store.videoPath id)) := by
  have hpath : store.pathOf id = .ok (store.videoPath id) := pathOf_eq_ok.mpr ⟨hid, rfl⟩
  obtain ⟨hplace, hfile⟩ := Disk.read_eq_ok.mp h
  have hfind : d.find (store.videoPath id) = .ok (.file content) := by
    simp [Disk.find, hplace, Disk.node?_of_fileAt hfile, bind, Except.bind]
  simp [get, hpath, hfind, bind, Except.bind]

/-! ## Successful calls, taken apart -/

/-- Preparing the store makes its folders and no more. -/
theorem prepare_disk (store : ArtifactStore) (d : Disk) :
    (store.prepare d).2 = (d.makeFolders store.root).2 := by
  rcases hfolders : d.makeFolders store.root with ⟨fault | ⟨⟩, made⟩ <;> simp [prepare, hfolders]

/-- What was just copied can be removed, unless the disk holds it. -/
private theorem remove_copied {d copied : Disk} {source target : String}
    (h : d.copy source target = .ok copied) :
    copied.remove source =
      if d.placeOf source ∈ d.held then .error .notPermitted
      else .ok (copied.erase (d.placeOf source)) := by
  obtain ⟨content, hread, hsteady, htarget⟩ := Disk.copy_eq_ok h
  obtain ⟨hplace, hfile⟩ := Disk.read_eq_ok.mp hread
  -- there is still a file at the source, an emptied one if the target is the same place
  have hthere : ∃ c, copied.fileAt (d.placeOf source) = some c := by
    by_cases hsame : d.placeOf source = d.placeOf target
    · have hemptied := (Disk.read_eq_ok.mp htarget).2
      rw [hsteady.placeOf, ← hsame] at hemptied
      exact ⟨_, hemptied⟩
    · exact ⟨content, (hsteady.files _ hsame).trans hfile⟩
  obtain ⟨c, hc⟩ := hthere
  simp [Disk.remove, hsteady.locate hplace, Disk.node?_of_fileAt hc, Disk.held_copy h, bind,
    Except.bind]

/-- **Storing, taken apart**: the folders were made, the source was copied, and then it was
removed, unless the disk holds it. -/
theorem put_parts {source path : String} (h : (store.put id source d).1 = .ok path) :
    isValidId id = true ∧ path = store.videoPath id ∧ ∃ copied,
      (d.makeFolders store.root).2.copy source path = .ok copied ∧
      (d.placeOf source ∉ d.held ∧ copied.remove source = .ok (store.put id source d).2 ∨
        d.placeOf source ∈ d.held ∧ (store.put id source d).2 = copied) := by
  rcases hpath : store.pathOf id with fault | target
  · simp [put, hpath] at h
  · obtain ⟨hid, rfl⟩ := pathOf_eq_ok.mp hpath
    have hmade := d.steady_makeFolders store.root
    have hheld := d.held_makeFolders store.root
    rcases hfolders : d.makeFolders store.root with ⟨fault | ⟨⟩, made⟩
    · simp [put, hpath, prepare, hfolders] at h
    · rw [hfolders] at hmade hheld
      rcases hcopy : made.copy source (store.videoPath id) with fault | copied
      · simp [put, hpath, prepare, hfolders, hcopy] at h
      · have hremove := remove_copied hcopy
        rw [hmade.placeOf, hheld] at hremove
        split at hremove
        all_goals
          obtain rfl : store.videoPath id = path := by
            simpa [put, hpath, prepare, hfolders, hcopy, hremove] using h
          refine ⟨hid, rfl, copied, hcopy, ?_⟩
        · next hheldSource =>
          exact Or.inr ⟨hheldSource, by simp [put, hpath, prepare, hfolders, hcopy, hremove]⟩
        · next hfree =>
          exact Or.inl ⟨hfree, by simp [put, hpath, prepare, hfolders, hcopy, hremove]⟩

/-- Storing that fails made folders at most. -/
theorem put_error {source : String} {fault : ArtifactFault}
    (h : (store.put id source d).1 = .error fault) :
    (store.put id source d).2 = d ∨
      (store.put id source d).2 = (d.makeFolders store.root).2 := by
  rcases hpath : store.pathOf id with fault' | target
  · exact Or.inl (by simp [put, hpath])
  · refine Or.inr ?_
    rcases hfolders : d.makeFolders store.root with ⟨fault' | ⟨⟩, made⟩
    · simp [put, hpath, prepare, hfolders]
    · rcases hcopy : made.copy source target with fault' | copied
      · simp [put, hpath, prepare, hfolders, hcopy]
      · rcases hremove : copied.remove source with fault' | cleared <;>
          simp [put, hpath, prepare, hfolders, hcopy, hremove] at h

/-- **Copying from job to job, taken apart**: a video was found and its file was copied, or
the disk is as it was. -/
theorem clone_parts (store : ArtifactStore) (d : Disk) (source target : String) :
    ((∃ fault, (store.clone source target d).1 = .error fault) ∨
        (store.clone source target d).1 = .ok none ∧ store.get source d = .ok none) ∧
      (store.clone source target d).2 = d ∨
    isValidId target = true ∧
      (store.clone source target d).1 = .ok (some (store.videoPath target)) ∧
      store.get source d = .ok (some (store.videoPath source)) ∧
      d.copy (store.videoPath source) (store.videoPath target) =
        .ok (store.clone source target d).2 := by
  rcases hget : store.get source d with fault | _ | origin
  · exact Or.inl (by simp [clone, hget])
  · exact Or.inl (by simp [clone, hget])
  · obtain ⟨rfl, -⟩ := get_eq_some hget
    rcases hpath : store.pathOf target with fault | path
    · exact Or.inl (by simp [clone, hget, hpath])
    · obtain ⟨hid, rfl⟩ := pathOf_eq_ok.mp hpath
      rcases hcopy : d.copy (store.videoPath source) (store.videoPath target) with fault | copied
      · exact Or.inl (by simp [clone, hget, hpath, hcopy])
      · exact Or.inr (by simp [clone, hget, hpath, hcopy, hid])

/-- **Removing, taken apart**: the file was removed, or the disk is as it was because there
was nothing to remove or because of a fault. -/
theorem delete_parts (store : ArtifactStore) (d : Disk) (id : String) :
    ((∃ fault, (store.delete id d).1 = .error fault) ∨
        (store.delete id d).1 = .ok () ∧ d.remove (store.videoPath id) = .error .notFound) ∧
      (store.delete id d).2 = d ∨
    isValidId id = true ∧ (store.delete id d).1 = .ok () ∧
      d.remove (store.videoPath id) = .ok (store.delete id d).2 := by
  rcases hpath : store.pathOf id with fault | path
  · exact Or.inl (by simp [delete, hpath])
  · obtain ⟨hid, rfl⟩ := pathOf_eq_ok.mp hpath
    rcases hremove : d.remove (store.videoPath id) with fault | cleared
    · cases fault <;> exact Or.inl (by simp [delete, hpath, hremove])
    · exact Or.inr (by simp [delete, hpath, hremove, hid])

/-! ## What a call leaves alone -/

/-- The places where a call may change a file. -/
def Alters (store : ArtifactStore) (d : Disk) (call : ArtifactCall) (p : Disk.Place) : Prop :=
  (∃ id, call.target? = some id ∧ p = store.place d id) ∨
    ∃ id source, call = .put id source ∧ p = d.placeOf source

/-- **A call changes the video of its own job**, and storing takes the source away; no other
file differs. -/
theorem steady_perform (store : ArtifactStore) (call : ArtifactCall) (d : Disk) :
    Disk.Steady (store.Alters d call) d (store.perform call d).2 := by
  cases call with
  | prepare =>
      have hmade := d.steady_makeFolders store.root
      rw [← store.prepare_disk] at hmade
      exact hmade.mono nofun
  | put id source =>
      refine (store.steady_put d id source).mono fun p hp => ?_
      rcases hp with hp | hp
      · exact Or.inl ⟨id, rfl, hp⟩
      · exact Or.inr ⟨id, source, rfl, hp⟩
  | clone source target =>
      exact (store.steady_clone d source target).mono fun p hp => Or.inl ⟨target, rfl, hp⟩
  | get id => exact Disk.Steady.refl _ d
  | delete id => exact (store.steady_delete d id).mono fun p hp => Or.inl ⟨id, rfl, hp⟩

/-- A mapped answer is a fault only if the answer is. -/
private theorem eq_error_of_map {α β : Type} {f : α → β} {e : Except ArtifactFault α}
    {fault : ArtifactFault} (h : e.map f = .error fault) : e = .error fault := by
  cases e with
  | error e => simpa [Except.map] using h
  | ok a => simp [Except.map] at h

/-- **A call that fails changes no file.** -/
theorem steady_perform_error {call : ArtifactCall} {fault : ArtifactFault}
    (h : (store.perform call d).1 = .error fault) :
    Disk.Steady (fun _ => False) d (store.perform call d).2 := by
  have hrefl := Disk.Steady.refl (fun _ => False) d
  cases call with
  | prepare =>
      have hmade := d.steady_makeFolders store.root
      rwa [← store.prepare_disk] at hmade
  | put id source => exact steady_put_error (eq_error_of_map h)
  | clone source target =>
      rcases store.clone_parts d source target with ⟨-, hsame⟩ | ⟨-, hok, -⟩
      · rwa [perform, hsame]
      · rw [perform, hok] at h
        cases h
  | get id => exact hrefl
  | delete id =>
      rcases store.delete_parts d id with ⟨-, hsame⟩ | ⟨-, hok, -⟩
      · rw [perform]
        dsimp only
        rwa [hsame]
      · have := eq_error_of_map h
        rw [hok] at this
        cases this

/-! ## A disk to call on -/

/-- A disk with a file in a spool folder, and no store yet. -/
def spoolDisk : Disk where
  working := []
  nodes := [(["spool"], .folder Node.plainMode), (["spool", "new.mp4"], .file ⟨#[7]⟩)]

end ArtifactStore

end SceneRender
