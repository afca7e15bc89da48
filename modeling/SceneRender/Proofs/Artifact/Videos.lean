import SceneRender.Artifact.Store
import SceneRender.Proofs.Disk.Files

/-!
# Stored videos, place by place

Each job has one place for its video, a name of its own in the folder of the store
(`ArtifactStore.place`).  Storing, copying and removing a video change the file at the
place of that job, and storing also takes the source away; nothing else on the disk
differs.  So a video is lost or replaced only by an operation on its own job, or by
storing a file that lies in the folder of the store.
-/

namespace SceneRender

namespace ArtifactStore

variable {store : ArtifactStore} {d d' : Disk} {id : String}

/-- The place of a job's video. -/
def place (store : ArtifactStore) (d : Disk) (id : String) : Disk.Place :=
  d.placeOf store.root ++ [fileName id]

/-- The path of a job's video. -/
def videoPath (store : ArtifactStore) (id : String) : String :=
  Disk.join store.root (fileName id)

/-- The stored video of a job. -/
def video? (store : ArtifactStore) (d : Disk) (id : String) : Option ByteArray :=
  if isValidId id then (d.read (store.videoPath id)).toOption else none

/-- Does a path lead into the folder of the store, or to it? -/
def holds (store : ArtifactStore) (d : Disk) (path : String) : Bool :=
  (d.placeOf store.root).isPrefixOf (d.placeOf path)

/-- The name of a video is a plain name, so that it is one step below the folder. -/
theorem isPlainName_fileName (h : isValidId id = true) : IsPlainName (fileName id) := by
  simp only [isValidId, Bool.and_eq_true, Bool.not_eq_true'] at h
  obtain ⟨⟨hempty, hslash⟩, -⟩ := h
  have hlength : 4 ≤ (fileName id).toList.length := by
    simp [fileName]
  refine ⟨?_, ?_, ?_, ?_⟩
  · intro hname
    rw [hname] at hlength
    exact absurd hlength (by decide)
  · intro hname
    rw [hname] at hlength
    exact absurd hlength (by decide)
  · intro hname
    rw [hname] at hlength
    exact absurd hlength (by decide)
  · intro hmem
    have hid : '/' ∈ id.toList := by simpa [fileName] using hmem
    have hany : id.toList.any (fun c => c == '/' || c == '\\') = true :=
      List.any_eq_true.mpr ⟨'/', hid, by decide⟩
    rw [hany] at hslash
    cases hslash

/-- The path of a video leads to its place. -/
theorem placeOf_videoPath (store : ArtifactStore) (d : Disk) (h : isValidId id = true) :
    d.placeOf (store.videoPath id) = store.place d id :=
  d.placeOf_join store.root (isPlainName_fileName h)

/-- **Each job has a place of its own.** -/
theorem place_inj {id' : String} (h : store.place d id = store.place d id') : id = id' := by
  have hnames : [fileName id] = [fileName id'] := List.append_cancel_left h
  have hname : id ++ ".mp4" = id' ++ ".mp4" := by
    simpa [fileName] using hnames
  apply String.toList_injective
  simpa using congrArg String.toList hname

/-- The places of the videos do not change with the files. -/
theorem place_steady {changed : Disk.Place → Prop} (h : Disk.Steady changed d d') (id : String) :
    store.place d' id = store.place d id := by
  rw [place, place, h.placeOf]

/-- Whether a path leads into the folder does not change with the files. -/
theorem holds_steady {changed : Disk.Place → Prop} (h : Disk.Steady changed d d') (path : String) :
    store.holds d' path = store.holds d path := by
  rw [holds, holds, h.placeOf, h.placeOf]

/-- A path outside the folder does not lead to a video. -/
theorem placeOf_ne_place {path : String} (h : store.holds d path = false) (id : String) :
    d.placeOf path ≠ store.place d id := by
  intro heq
  have hinside : store.holds d path = true := by
    rw [holds, heq, List.isPrefixOf_iff_prefix]
    exact List.prefix_append _ _
  rw [hinside] at h
  cases h

/-- The ids that can name a file get the path of their video. -/
theorem pathOf_eq_ok {path : String} :
    store.pathOf id = .ok path ↔ isValidId id = true ∧ path = store.videoPath id := by
  rw [pathOf]
  by_cases hid : isValidId id = true
  · simp [hid, videoPath, eq_comm]
  · simp [hid]

/-- A stored video is a file that can be read at the job's path. -/
theorem video?_eq_some {content : ByteArray} :
    store.video? d id = some content ↔
      isValidId id = true ∧ d.read (store.videoPath id) = .ok content := by
  rw [video?]
  by_cases hid : isValidId id = true
  · rcases d.read (store.videoPath id) with fault | c <;> simp [hid, Except.toOption]
  · simp [hid]

/-- A video whose place is not among the changed ones stays as it is. -/
theorem video?_steady {changed : Disk.Place → Prop} (h : Disk.Steady changed d d')
    (hplace : ¬ changed (store.place d id)) {content : ByteArray}
    (hvideo : store.video? d id = some content) : store.video? d' id = some content := by
  obtain ⟨hid, hread⟩ := video?_eq_some.mp hvideo
  refine video?_eq_some.mpr ⟨hid, h.read ?_ hread⟩
  rwa [placeOf_videoPath store d hid]

/-- A video that is there afterwards at an unchanged place was a file there before,
even if its path could not be walked then. -/
theorem fileAt_of_video? {content : ByteArray} (hvideo : store.video? d id = some content) :
    d.fileAt (store.place d id) = some content := by
  obtain ⟨hid, hread⟩ := video?_eq_some.mp hvideo
  rw [← placeOf_videoPath store d hid]
  exact (Disk.read_eq_ok.mp hread).2

/-! ## Looking -/

/-- The store finds exactly the videos that are there. -/
theorem get_eq_some {path : String} (h : store.get id d = .ok (some path)) :
    path = store.videoPath id ∧ ∃ content, store.video? d id = some content := by
  rcases hpath : store.pathOf id with fault | target
  · simp [get, hpath, bind, Except.bind] at h
  · obtain ⟨hid, rfl⟩ := pathOf_eq_ok.mp hpath
    rcases hfind : d.find (store.videoPath id) with fault | content | mode
    · cases fault <;> simp [get, hpath, hfind, bind, Except.bind] at h
    · refine ⟨?_, content, video?_eq_some.mpr ⟨hid, ?_⟩⟩
      · simpa [get, hpath, hfind, bind, Except.bind] using h.symm
      · simp [Disk.read, hfind, bind, Except.bind]
    · simp [get, hpath, hfind, bind, Except.bind] at h

/-- Where the store finds nothing, there is no video. -/
theorem video?_of_get_eq_none (h : store.get id d = .ok none) : store.video? d id = none := by
  rcases hpath : store.pathOf id with fault | target
  · simp [get, hpath, bind, Except.bind] at h
  · obtain ⟨hid, rfl⟩ := pathOf_eq_ok.mp hpath
    rcases hfind : d.find (store.videoPath id) with fault | content | mode
    · simp [video?, hid, Disk.read, hfind, bind, Except.bind, Except.toOption]
    · simp [get, hpath, hfind, bind, Except.bind] at h
    · simp [video?, hid, Disk.read, hfind, bind, Except.bind, Except.toOption]

/-! ## Storing -/

/-- **What storing may change**: the place of the job's video and the source. -/
theorem steady_put (store : ArtifactStore) (d : Disk) (id source : String) :
    Disk.Steady (fun p => p = store.place d id ∨ p = d.placeOf source) d
      (store.put id source d).2 := by
  have hrefl := Disk.Steady.refl (fun p => p = store.place d id ∨ p = d.placeOf source) d
  rcases hpath : store.pathOf id with fault | target
  · simpa [put, hpath] using hrefl
  · obtain ⟨hid, rfl⟩ := pathOf_eq_ok.mp hpath
    have hmade : Disk.Steady (fun p => p = store.place d id ∨ p = d.placeOf source) d
        (d.makeFolders store.root).2 := (d.steady_makeFolders store.root).mono nofun
    rcases hfolders : d.makeFolders store.root with ⟨fault | ⟨⟩, made⟩
    · rw [hfolders] at hmade
      simpa [put, hpath, prepare, hfolders] using hmade
    · rw [hfolders] at hmade
      rcases hcopy : made.copy source (store.videoPath id) with fault | copied
      · simpa [put, hpath, prepare, hfolders, hcopy] using hmade
      · obtain ⟨content, -, hcopied, -⟩ := Disk.copy_eq_ok hcopy
        have htarget : made.placeOf (store.videoPath id) = store.place d id := by
          rw [placeOf_videoPath store made hid, place_steady hmade]
        have hput := hmade.trans (hcopied.mono fun p hp => Or.inl (hp.trans htarget))
        rcases hremove : copied.remove source with fault | cleared
        · simpa [put, hpath, prepare, hfolders, hcopy, hremove] using hput
        · have hcleared := (Disk.remove_eq_ok hremove).1
          have hsource : copied.placeOf source = d.placeOf source := hput.placeOf source
          have hall := hput.trans (hcleared.mono fun p hp => Or.inr (hp.trans hsource))
          simpa [put, hpath, prepare, hfolders, hcopy, hremove] using hall

/-- Storing that fails changes no file. -/
theorem steady_put_error {source : String} {fault : ArtifactFault}
    (h : (store.put id source d).1 = .error fault) :
    Disk.Steady (fun _ => False) d (store.put id source d).2 := by
  rcases hpath : store.pathOf id with fault' | target
  · simpa [put, hpath] using Disk.Steady.refl (fun _ => False) d
  · have hmade := d.steady_makeFolders store.root
    rcases hfolders : d.makeFolders store.root with ⟨fault' | ⟨⟩, made⟩ <;> rw [hfolders] at hmade
    · simpa [put, hpath, prepare, hfolders] using hmade
    · rcases hcopy : made.copy source target with fault' | copied
      · simpa [put, hpath, prepare, hfolders, hcopy] using hmade
      · rcases hremove : copied.remove source with fault' | cleared <;>
          simp [put, hpath, prepare, hfolders, hcopy, hremove] at h

/-- **What storing achieves**: the content of the source is the job's video, provided
that the source lies outside the folder of the store. -/
theorem put_eq_ok {source target : String} (h : (store.put id source d).1 = .ok target)
    (houtside : store.holds d source = false) :
    target = store.videoPath id ∧ ∃ content, d.fileAt (d.placeOf source) = some content ∧
      store.video? (store.put id source d).2 id = some content := by
  rcases hpath : store.pathOf id with fault | target'
  · simp [put, hpath] at h
  · obtain ⟨hid, rfl⟩ := pathOf_eq_ok.mp hpath
    have hmade := d.steady_makeFolders store.root
    rcases hfolders : d.makeFolders store.root with ⟨fault | ⟨⟩, made⟩
    · simp [put, hpath, prepare, hfolders] at h
    · rw [hfolders] at hmade
      rcases hcopy : made.copy source (store.videoPath id) with fault | copied
      · simp [put, hpath, prepare, hfolders, hcopy] at h
      · obtain ⟨content, hread, hcopied, hvideo⟩ := Disk.copy_eq_ok hcopy
        have hapart : made.placeOf source ≠ made.placeOf (store.videoPath id) := by
          rw [placeOf_videoPath store made hid]
          exact placeOf_ne_place (by rwa [holds_steady hmade]) id
        rw [if_neg hapart.symm] at hvideo
        have hfile : d.fileAt (d.placeOf source) = some content := by
          have := (Disk.read_eq_ok.mp hread).2
          rwa [hmade.files _ nofun, hmade.placeOf] at this
        rcases hremove : copied.remove source with fault | cleared
        · refine ⟨?_, content, hfile, video?_eq_some.mpr ⟨hid, ?_⟩⟩
          · simpa [put, hpath, prepare, hfolders, hcopy, hremove] using h.symm
          · simpa [put, hpath, prepare, hfolders, hcopy, hremove] using hvideo
        · have hcleared := (Disk.remove_eq_ok hremove).1
          have hkept : cleared.read (store.videoPath id) = .ok content := by
            refine hcleared.read ?_ hvideo
            rw [hcopied.placeOf, hcopied.placeOf]
            exact hapart.symm
          refine ⟨?_, content, hfile, video?_eq_some.mpr ⟨hid, ?_⟩⟩
          · simpa [put, hpath, prepare, hfolders, hcopy, hremove] using h.symm
          · simpa [put, hpath, prepare, hfolders, hcopy, hremove] using hkept

/-! ## Copying from job to job -/

/-- Copying changes the place of the target only. -/
theorem steady_clone (store : ArtifactStore) (d : Disk) (source target : String) :
    Disk.Steady (· = store.place d target) d (store.clone source target d).2 := by
  have hrefl := Disk.Steady.refl (· = store.place d target) d
  rcases hget : store.get source d with fault | _ | origin
  · simpa [clone, hget] using hrefl
  · simpa [clone, hget] using hrefl
  · rcases hpath : store.pathOf target with fault | path
    · simpa [clone, hget, hpath] using hrefl
    · obtain ⟨hid, rfl⟩ := pathOf_eq_ok.mp hpath
      rcases hcopy : d.copy origin (store.videoPath target) with fault | copied
      · simpa [clone, hget, hpath, hcopy] using hrefl
      · obtain ⟨content, -, hcopied, -⟩ := Disk.copy_eq_ok hcopy
        rw [placeOf_videoPath store d hid] at hcopied
        simpa [clone, hget, hpath, hcopy] using hcopied

/-- **What copying achieves**: the other job has the same video. -/
theorem clone_eq_some {source target path : String}
    (h : (store.clone source target d).1 = .ok (some path)) (hother : source ≠ target) :
    path = store.videoPath target ∧ ∃ content, store.video? d source = some content ∧
      store.video? (store.clone source target d).2 target = some content := by
  rcases hget : store.get source d with fault | _ | origin
  · simp [clone, hget] at h
  · simp [clone, hget] at h
  · obtain ⟨rfl, content, hsource⟩ := get_eq_some hget
    obtain ⟨hsid, hread⟩ := video?_eq_some.mp hsource
    rcases hpath : store.pathOf target with fault | path'
    · simp [clone, hget, hpath] at h
    · obtain ⟨hid, rfl⟩ := pathOf_eq_ok.mp hpath
      rcases hcopy : d.copy (store.videoPath source) (store.videoPath target) with fault | copied
      · simp [clone, hget, hpath, hcopy] at h
      · obtain ⟨content', hread', -, hvideo⟩ := Disk.copy_eq_ok hcopy
        obtain rfl : content = content' := by simpa [hread] using hread'
        have hapart : d.placeOf (store.videoPath target) ≠ d.placeOf (store.videoPath source) := by
          rw [placeOf_videoPath store d hid, placeOf_videoPath store d hsid]
          exact fun heq => hother (place_inj heq).symm
        rw [if_neg hapart] at hvideo
        refine ⟨?_, content, hsource, video?_eq_some.mpr ⟨hid, ?_⟩⟩
        · simpa [clone, hget, hpath, hcopy] using h.symm
        · simpa [clone, hget, hpath, hcopy] using hvideo

/-- There is nothing to copy only where there is no video. -/
theorem clone_eq_none {source target : String}
    (h : (store.clone source target d).1 = .ok none) : store.video? d source = none := by
  rcases hget : store.get source d with fault | _ | origin
  · simp [clone, hget] at h
  · exact video?_of_get_eq_none hget
  · rcases hpath : store.pathOf target with fault | path
    · simp [clone, hget, hpath] at h
    · rcases hcopy : d.copy origin path with fault | copied <;>
        simp [clone, hget, hpath, hcopy] at h

/-! ## Removing -/

/-- Removing a video changes its place only. -/
theorem steady_delete (store : ArtifactStore) (d : Disk) (id : String) :
    Disk.Steady (· = store.place d id) d (store.delete id d).2 := by
  have hrefl := Disk.Steady.refl (· = store.place d id) d
  rcases hpath : store.pathOf id with fault | path
  · simpa [delete, hpath] using hrefl
  · obtain ⟨hid, rfl⟩ := pathOf_eq_ok.mp hpath
    rcases hremove : d.remove (store.videoPath id) with fault | cleared
    · cases fault <;> simpa [delete, hpath, hremove] using hrefl
    · have hcleared := (Disk.remove_eq_ok hremove).1
      rw [placeOf_videoPath store d hid] at hcleared
      simpa [delete, hpath, hremove] using hcleared

/-- Removing a video leaves no file that was not there before. -/
theorem fileAt_delete {p : Disk.Place} {content : ByteArray}
    (h : (store.delete id d).2.fileAt p = some content) : d.fileAt p = some content := by
  rcases hpath : store.pathOf id with fault | path
  · simpa [delete, hpath] using h
  · rcases hremove : d.remove path with fault | cleared
    · cases fault <;> simpa [delete, hpath, hremove] using h
    · obtain ⟨hsteady, hgone⟩ := Disk.remove_eq_ok hremove
      have hcleared : cleared.fileAt p = some content := by
        simpa [delete, hpath, hremove] using h
      by_cases hp : p = d.placeOf path
      · rw [hp, hgone] at hcleared
        cases hcleared
      · rwa [hsteady.files p hp] at hcleared

end ArtifactStore

end SceneRender
