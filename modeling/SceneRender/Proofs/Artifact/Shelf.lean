import SceneRender.Proofs.Artifact.Calls
import Mathlib.Logic.Relation

/-!
# The store as a map from jobs to videos

Calls of the store, folders in the place of a video, and any change of other files may
follow each other in every order (`ArtifactStore.Moves`).  What is stored for a job is then
always a file that its path leads to (`ArtifactStore.Settled`): a video gets to its place
by a call that walked there, and no folder on the way ever goes.

From this the store can be read as a map (`videos_kept_as_map`).  It has one flaw: a copy
empties its target before it reads its source, so that a video that is copied onto itself
is lost, and so is one that is stored from its own place
(`video_copied_onto_itself_lost`).
-/

namespace SceneRender

namespace ArtifactStore

/-- What is stored for a job. -/
def stored? (store : ArtifactStore) (d : Disk) (id : String) : Option ByteArray :=
  d.fileAt (store.place d id)

/-- The path of a job leads to what is stored for it. -/
def Settled (store : ArtifactStore) (d : Disk) : Prop :=
  ∀ id, isValidId id = true → (store.stored? d id).isSome →
    d.locate (store.videoPath id) = .ok (store.place d id)

/-- What may happen around the store. -/
inductive Moves (store : ArtifactStore) : Disk → Disk → Prop
  /-- The store is called. -/
  | called (d : Disk) (call : ArtifactCall) : Moves store d (store.perform call d).2
  /-- Somebody makes a folder where the video of a job would be. -/
  | folderMade (d : Disk) (id : String) : Moves store d (d.makeFolders (store.videoPath id)).2
  /-- Other files come, change and go. -/
  | elsewhere {d d' : Disk} (h : Disk.Steady (fun p => ∀ id, p ≠ store.place d id) d d') :
      Moves store d d'

variable {store : ArtifactStore} {d d' : Disk} {id : String}

/-- What is stored at an unchanged place stays as it is. -/
theorem stored?_steady {changed : Disk.Place → Prop} (h : Disk.Steady changed d d')
    (hplace : ¬ changed (store.place d id)) : store.stored? d' id = store.stored? d id := by
  rw [stored?, stored?, place_steady h, h.files _ hplace]

/-- A store without videos is settled. -/
theorem settled_of_none (h : ∀ id, store.stored? d id = none) : store.Settled d := by
  intro id _ hsome
  rw [h] at hsome
  cases hsome

/-! ## Staying settled -/

/-- A path leads to what could be read there, also when other places have changed since. -/
theorem locate_of_read {changed : Disk.Place → Prop} {content : ByteArray}
    (hid : isValidId id = true) (hread : d.read (store.videoPath id) = .ok content)
    (h : Disk.Steady changed d d') :
    d'.locate (store.videoPath id) = .ok (store.place d' id) := by
  rw [h.locate (Disk.read_eq_ok.mp hread).1, placeOf_videoPath store d hid, place_steady h]

/-- Changes keep the store settled if their new videos can be reached. -/
theorem Settled.steady {changed : Disk.Place → Prop} (h : store.Settled d)
    (hsteady : Disk.Steady changed d d')
    (hnew : ∀ id, isValidId id = true → changed (store.place d id) →
      (store.stored? d' id).isSome → d'.locate (store.videoPath id) = .ok (store.place d' id)) :
    store.Settled d' := by
  intro id hid hsome
  by_cases hplace : changed (store.place d id)
  · exact hnew id hid hplace hsome
  · rw [stored?_steady hsteady hplace] at hsome
    rw [hsteady.locate (h id hid hsome), place_steady hsteady]

/-- Files that are gone need no path. -/
theorem Settled.removed {path : String} (h : store.Settled d) (hremove : d.remove path = .ok d') :
    store.Settled d' := by
  obtain ⟨hsteady, hgone⟩ := Disk.remove_eq_ok hremove
  refine h.steady hsteady fun id _ hplace hsome => ?_
  rw [stored?, place_steady hsteady, hplace, hgone] at hsome
  cases hsome

/-- A file that was copied to the place of a video was copied along its path. -/
theorem Settled.copied {source : String} (h : store.Settled d) (hid : isValidId id = true)
    (hcopy : d.copy source (store.videoPath id) = .ok d') : store.Settled d' := by
  obtain ⟨content, -, hsteady, hread⟩ := Disk.copy_eq_ok hcopy
  refine h.steady hsteady fun id' _ hplace _ => ?_
  rw [placeOf_videoPath store d hid] at hplace
  obtain rfl := place_inj hplace
  exact locate_of_read hid hread (Disk.Steady.refl (fun _ => False) d')

/-- A store whose files did not change stays settled. -/
theorem Settled.untouched (h : store.Settled d)
    (hsteady : Disk.Steady (fun _ => False) d d') : store.Settled d' :=
  h.steady hsteady fun _ _ hplace => hplace.elim

/-- **Each call keeps the store settled.** -/
theorem Settled.perform (h : store.Settled d) (call : ArtifactCall) :
    store.Settled (store.perform call d).2 := by
  cases call with
  | prepare =>
      refine h.untouched ?_
      rw [ArtifactStore.perform]
      dsimp only
      rw [prepare_disk]
      exact d.steady_makeFolders store.root
  | put id source =>
      rcases hput : (store.put id source d).1 with fault | path
      · exact h.untouched (steady_put_error hput)
      · obtain ⟨hid, rfl, copied, hcopy, hend⟩ := put_parts hput
        have hcopied := (h.untouched (d.steady_makeFolders store.root)).copied hid hcopy
        rcases hend with ⟨-, hremove⟩ | ⟨-, hkept⟩
        · exact hcopied.removed hremove
        · rw [ArtifactStore.perform]
          dsimp only
          rwa [hkept]
  | clone source target =>
      rcases store.clone_parts d source target with ⟨-, hsame⟩ | ⟨hid, -, -, hcopy⟩
      · rwa [ArtifactStore.perform, hsame]
      · exact h.copied hid hcopy
  | get id => exact h
  | delete id =>
      rcases store.delete_parts d id with ⟨-, hsame⟩ | ⟨-, -, hremove⟩
      · rw [ArtifactStore.perform]
        dsimp only
        rwa [hsame]
      · exact h.removed hremove

/-- **The store stays settled**, whatever happens around it. -/
theorem Settled.reached (h : store.Settled d) (hmoves : Relation.ReflTransGen store.Moves d d') :
    store.Settled d' := by
  induction hmoves with
  | refl => exact h
  | tail _ hmove ih =>
      cases hmove with
      | called call => exact ih.perform call
      | folderMade id => exact ih.untouched (Disk.steady_makeFolders _ _)
      | elsewhere hsteady => exact ih.steady hsteady fun id _ hplace => absurd rfl (hplace id)

/-! ## The calls on a settled store -/

/-- What is stored can be read. -/
theorem Settled.read {content : ByteArray} (h : store.Settled d) (hid : isValidId id = true)
    (hstored : store.stored? d id = some content) :
    d.read (store.videoPath id) = .ok content := by
  have hplace := placeOf_videoPath store d hid
  have hlocate := h id hid (by simp [hstored])
  exact Disk.read_eq_ok.mpr ⟨by rw [hlocate, hplace], by rw [hplace]; exact hstored⟩

/-- **The store finds what is stored.** -/
theorem Settled.get_iff (h : store.Settled d) (hid : isValidId id = true) {path : String} :
    store.get id d = .ok (some path) ↔
      path = store.videoPath id ∧ (store.stored? d id).isSome := by
  constructor
  · intro hget
    obtain ⟨hpath, content, hvideo⟩ := get_eq_some hget
    exact ⟨hpath, by rw [stored?, fileAt_of_video? hvideo]; rfl⟩
  · rintro ⟨rfl, hsome⟩
    obtain ⟨content, hstored⟩ := Option.isSome_iff_exists.mp hsome
    exact get_of_read hid (h.read hid hstored)

/-- What the copying of a source leaves: its content, at the place of the video and at its
own, or an emptied file where both are one place. -/
theorem fileAt_copied {source : String} {copied : Disk} (hid : isValidId id = true)
    (hcopy : (d.makeFolders store.root).2.copy source (store.videoPath id) = .ok copied) :
    copied.placeOf source = d.placeOf source ∧ store.place copied id = store.place d id ∧
      ∃ content, d.fileAt (d.placeOf source) = some content ∧
        copied.fileAt (store.place d id) =
          some (if d.placeOf source = store.place d id then .empty else content) ∧
        copied.fileAt (d.placeOf source) =
          some (if d.placeOf source = store.place d id then .empty else content) := by
  have hmade := d.steady_makeFolders store.root
  obtain ⟨content, hread, hcopied, htarget⟩ := Disk.copy_eq_ok hcopy
  have hfile := (Disk.read_eq_ok.mp hread).2
  rw [hmade.placeOf, hmade.files _ nofun] at hfile
  have hvideo := (Disk.read_eq_ok.mp htarget).2
  rw [hcopied.placeOf, hmade.placeOf, hmade.placeOf, placeOf_videoPath store d hid] at hvideo
  refine ⟨by rw [hcopied.placeOf, hmade.placeOf],
    by rw [place_steady hcopied, place_steady hmade], content, hfile, ?_⟩
  by_cases hsame : d.placeOf source = store.place d id
  · rw [if_pos hsame.symm] at hvideo
    rw [if_pos hsame, hsame]
    exact ⟨hvideo, hvideo⟩
  · rw [if_neg (Ne.symm hsame)] at hvideo
    rw [if_neg hsame]
    refine ⟨hvideo, ?_⟩
    rw [hcopied.files, hmade.files _ nofun, hfile]
    rwa [hmade.placeOf, placeOf_videoPath store d hid]

/-- **What is stored comes from the source**, which is gone afterwards; so nothing is
stored if the source was the video itself.  A source that the disk holds stays and has
the same content as the video then. -/
theorem stored?_put {source path : String} (h : (store.put id source d).1 = .ok path) :
    ∃ content, d.fileAt (d.placeOf source) = some content ∧
      (d.placeOf source ∉ d.held →
        (store.put id source d).2.fileAt (d.placeOf source) = none ∧
        store.stored? (store.put id source d).2 id =
          if d.placeOf source = store.place d id then none else some content) ∧
      (d.placeOf source ∈ d.held →
        (store.put id source d).2.fileAt (d.placeOf source) =
          some (if d.placeOf source = store.place d id then .empty else content) ∧
        store.stored? (store.put id source d).2 id =
          some (if d.placeOf source = store.place d id then .empty else content)) := by
  obtain ⟨hid, rfl, copied, hcopy, hend⟩ := put_parts h
  obtain ⟨hsource, hplace, content, hfile, hvideo, hleft⟩ := fileAt_copied hid hcopy
  refine ⟨content, hfile, ?_⟩
  rcases hend with ⟨hfree, hremove⟩ | ⟨hheld, hkept⟩
  · refine ⟨fun _ => ?_, fun hheld => absurd hheld hfree⟩
    obtain ⟨hremoved, hgone⟩ := Disk.remove_eq_ok hremove
    rw [hsource] at hgone
    refine ⟨hgone, ?_⟩
    rw [stored?, place_steady hremoved, hplace]
    by_cases hsame : d.placeOf source = store.place d id
    · rw [if_pos hsame, ← hsame, hgone]
    · rw [if_neg hsame] at hvideo
      rw [if_neg hsame, hremoved.files, hvideo]
      rwa [hsource, eq_comm]
  · refine ⟨fun hfree => absurd hheld hfree, fun _ => ?_⟩
    rw [hkept]
    exact ⟨hleft, by rw [stored?, hplace, hvideo]⟩

/-- A source that the disk holds is still there when its video is stored. -/
example :
    let d := { spoolDisk with held := [["spool", "new.mp4"]] }
    let store : ArtifactStore := ⟨"/videos"⟩
    (store.put "a" "/spool/new.mp4" d).1.toOption = some "/videos/a.mp4" ∧
      (store.put "a" "/spool/new.mp4" d).2.isFile "/spool/new.mp4" = true := by
  decide +kernel

/-- **A copy is what is stored for the other job**, unless both jobs are one. -/
theorem Settled.clone_ok (h : store.Settled d) {a b : String} {answer : Option String}
    (ha : isValidId a = true) (hclone : (store.clone a b d).1 = .ok answer) :
    answer = (store.stored? d a).map (fun _ => store.videoPath b) ∧
      (∀ content, store.stored? d a = some content →
        store.stored? (store.clone a b d).2 b = if a = b then some .empty else some content) ∧
      (store.stored? d a = none → (store.clone a b d).2 = d) := by
  rcases store.clone_parts d a b with ⟨⟨fault, hfault⟩ | ⟨hnone, hget⟩, hsame⟩ |
    ⟨hb, hsome, hget, hcopy⟩
  · rw [hfault] at hclone
    cases hclone
  · -- nothing was found, so nothing is stored
    obtain rfl : none = answer := by
      rw [hnone] at hclone
      exact Except.ok.inj hclone
    have hstored : store.stored? d a = none := by
      rcases hcase : store.stored? d a with _ | content
      · rfl
      · have hfound := (h.get_iff ha).mpr ⟨rfl, by rw [hcase]; rfl⟩
        rw [hget] at hfound
        cases hfound
    refine ⟨by rw [hstored]; rfl, ?_, fun _ => hsame⟩
    intro content hcontent
    rw [hstored] at hcontent
    cases hcontent
  · obtain rfl : some (store.videoPath b) = answer := by
      rw [hsome] at hclone
      exact Except.ok.inj hclone
    obtain ⟨content, hread, hsteady, htarget⟩ := Disk.copy_eq_ok hcopy
    have hstored : store.stored? d a = some content := by
      have hfile := (Disk.read_eq_ok.mp hread).2
      rwa [placeOf_videoPath store d ha] at hfile
    refine ⟨by rw [hstored]; rfl, ?_, fun hnone => ?_⟩
    · intro content' hcontent
      obtain rfl : content = content' := Option.some.inj (hstored.symm.trans hcontent)
      have hfile := (Disk.read_eq_ok.mp htarget).2
      rw [hsteady.placeOf, placeOf_videoPath store d hb, placeOf_videoPath store d ha] at hfile
      rw [stored?, place_steady hsteady, hfile]
      by_cases hab : a = b
      · rw [if_pos hab, if_pos (by rw [hab])]
      · rw [if_neg hab, if_neg fun hplace => hab (place_inj hplace).symm]
    · rw [hstored] at hnone
      cases hnone

/-- **A removed video is absent**, and can be removed again. -/
theorem Settled.delete_ok (h : store.Settled d) (hdelete : (store.delete id d).1 = .ok ()) :
    store.stored? (store.delete id d).2 id = none ∧
      store.delete id (store.delete id d).2 = (.ok (), (store.delete id d).2) := by
  have hvalid : isValidId id = true := by
    rcases hpath : store.pathOf id with fault | path
    · simp [delete, hpath] at hdelete
    · exact (pathOf_eq_ok.mp hpath).1
  have hpath : store.pathOf id = .ok (store.videoPath id) := pathOf_eq_ok.mpr ⟨hvalid, rfl⟩
  rcases store.delete_parts d id with ⟨⟨fault, hfault⟩ | ⟨-, hmissing⟩, hsame⟩ |
    ⟨-, -, hremove⟩
  · rw [hfault] at hdelete
    cases hdelete
  · rw [hsame]
    refine ⟨?_, by simp [delete, hpath, hmissing]⟩
    rcases hstored : store.stored? d id with _ | content
    · rfl
    · -- what is stored could have been removed, or is held, which is another fault
      have hlocate := h id hvalid (by simp [hstored])
      by_cases hheld : store.place d id ∈ d.held <;>
        simp [Disk.remove, hlocate, Disk.node?_of_fileAt hstored, hheld, bind, Except.bind]
          at hmissing
  · obtain ⟨hsteady, hgone⟩ := Disk.remove_eq_ok hremove
    have hagain := Disk.remove_again hremove
    refine ⟨?_, ?_⟩
    · rwa [placeOf_videoPath store d hvalid, ← place_steady hsteady] at hgone
    · generalize (store.delete id d).2 = cleared at hagain
      simp [delete, hpath, hagain]

/-! ## The map -/

/-- **The store as a map.**  In every state that calls, folders in the way and changes
elsewhere lead to, and for all jobs `a` and `b`:

* `a` is found exactly if something is stored for it;
* storing makes the content of the source what is stored, and the source is gone, unless
  the disk refuses to remove it: then it stays, and the call succeeds all the same;
* copying, if it does not fail, answers with a path exactly if something is stored for
  `a`, and the same is then stored for `b`;
* after removing, nothing is stored for `a`, and removing once more changes nothing;
* a call leaves alone what is stored for a job that it is not about, unless the file of
  that job is the source that is taken away.

Where source and target are one file, the content is lost: a copy of `a` to `a` leaves an
empty file, and storing `a` from its own place leaves nothing, or an empty file that the
disk holds. -/
theorem videos_kept_as_map {d₀ : Disk} (hstart : store.Settled d₀)
    (hreached : Relation.ReflTransGen store.Moves d₀ d) {a b : String}
    (ha : isValidId a = true) :
    (∀ path, store.get a d = .ok (some path) ↔
      path = store.videoPath a ∧ (store.stored? d a).isSome) ∧
    (∀ source path, (store.put a source d).1 = .ok path →
      path = store.videoPath a ∧ ∃ content, d.fileAt (d.placeOf source) = some content ∧
        (d.placeOf source ∉ d.held →
          (store.put a source d).2.fileAt (d.placeOf source) = none ∧
          store.stored? (store.put a source d).2 a =
            if d.placeOf source = store.place d a then none else some content) ∧
        (d.placeOf source ∈ d.held →
          (store.put a source d).2.fileAt (d.placeOf source) =
            some (if d.placeOf source = store.place d a then .empty else content) ∧
          store.stored? (store.put a source d).2 a =
            some (if d.placeOf source = store.place d a then .empty else content))) ∧
    (∀ answer, (store.clone a b d).1 = .ok answer →
      answer = (store.stored? d a).map (fun _ => store.videoPath b) ∧
      (∀ content, store.stored? d a = some content →
        store.stored? (store.clone a b d).2 b = if a = b then some .empty else some content) ∧
      (store.stored? d a = none → (store.clone a b d).2 = d)) ∧
    ((store.delete a d).1 = .ok () → store.stored? (store.delete a d).2 a = none ∧
      store.delete a (store.delete a d).2 = (.ok (), (store.delete a d).2)) ∧
    (∀ call id, call.target? ≠ some id →
      (∀ job source, call = .put job source → d.placeOf source ≠ store.place d id) →
      store.stored? (store.perform call d).2 id = store.stored? d id) := by
  have h := hstart.reached hreached
  refine ⟨fun path => h.get_iff ha, ?_, fun answer => h.clone_ok ha, h.delete_ok, ?_⟩
  · intro source path hput
    obtain ⟨-, hpath, -⟩ := put_parts hput
    exact ⟨hpath, stored?_put hput⟩
  · intro call id htarget hsource
    refine stored?_steady (store.steady_perform call d) ?_
    rintro (⟨job, hjob, hplace⟩ | ⟨job, source, rfl, hplace⟩)
    · obtain rfl := place_inj hplace
      exact htarget hjob
    · exact hsource job source rfl hplace.symm

/-! ## A video on a disk -/

/-- A value that is there was answered. -/
private theorem eq_ok_of_toOption {ε α : Type} {e : Except ε α} {a : α}
    (h : e.toOption = some a) : e = .ok a := by
  cases e with
  | error fault => cases h
  | ok b => rw [Option.some.inj h]

/-- The store of the disk. -/
def shelf : ArtifactStore := ⟨"/videos"⟩

/-- The disk after the file was stored as the video of `a`. -/
def shelfDisk : Disk := (shelf.perform (.put "a" "/spool/new.mp4") spoolDisk).2

/-- The shelf has no videos at first, so it is settled. -/
theorem shelf_settled : shelf.Settled spoolDisk := by
  refine settled_of_none fun id => ?_
  have hplace : shelf.place spoolDisk id = ["videos", fileName id] := by
    rw [place, show spoolDisk.placeOf shelf.root = ["videos"] by decide +kernel]
    rfl
  rw [stored?, hplace]
  simp [spoolDisk, Disk.fileAt, Disk.node?, List.lookup_cons]

/-- The disk with the video is reached by one call. -/
theorem shelf_reached : Relation.ReflTransGen shelf.Moves spoolDisk shelfDisk :=
  Relation.ReflTransGen.single (.called spoolDisk (.put "a" "/spool/new.mp4"))

/-- The video of `a` is found and can be copied to `b`. -/
theorem video_on_shelf :
    shelf.get "a" shelfDisk = .ok (some "/videos/a.mp4") ∧
      shelf.stored? (shelf.clone "a" "b" shelfDisk).2 "b" = some ⟨#[7]⟩ := by
  obtain ⟨hget, -, hclone, -⟩ :=
    videos_kept_as_map (a := "a") (b := "b") shelf_settled shelf_reached (by decide)
  refine ⟨(hget _).mpr (by decide +kernel), ?_⟩
  have hcopied := hclone (some "/videos/b.mp4") (eq_ok_of_toOption (by decide +kernel))
  exact hcopied.2.1 ⟨#[7]⟩ (by decide +kernel)

/-- **A video that is copied onto itself is lost**: the call succeeds and leaves an empty
file.  Storing a video from its own place loses it altogether. -/
theorem video_copied_onto_itself_lost :
    shelf.Settled spoolDisk ∧ Relation.ReflTransGen shelf.Moves spoolDisk shelfDisk ∧
      shelf.stored? shelfDisk "a" = some ⟨#[7]⟩ ∧
      (shelf.clone "a" "a" shelfDisk).1 = .ok (some "/videos/a.mp4") ∧
      shelf.stored? (shelf.clone "a" "a" shelfDisk).2 "a" = some ⟨#[]⟩ ∧
      (shelf.put "a" "/videos/a.mp4" shelfDisk).1 = .ok "/videos/a.mp4" ∧
      shelf.stored? (shelf.put "a" "/videos/a.mp4" shelfDisk).2 "a" = none := by
  refine ⟨shelf_settled, shelf_reached, ?_, eq_ok_of_toOption ?_, ?_, eq_ok_of_toOption ?_, ?_⟩
    <;> decide +kernel

end ArtifactStore

end SceneRender
