import SceneRender.Proofs.Pipeline.JobFiles
import SceneRender.Proofs.Pipeline.Undated

/-!
# Distinct jobs do not interfere

A *site* is a studio with a ledger of the calls that were made for each job, of the renderer
and of the repair.  A *staff* answers such a call by the job, by the earlier calls for that
job and by what is asked; it knows nothing of other jobs.

The *file* of a job is its record without moments, its video and its calls.  The work at a
job is determined by its file alone (`Staff.process_determined`): the job store says what
the record is, the staff answers by the calls, and a video is stored from where the latest
call left it.  As the work also changes no other file (`Staff.process_file`), it does not
matter which of two jobs is worked off first.
-/

namespace SceneRender

open Plan Pipeline ServiceExchange

/-! ## Sites -/

/-- A call that was made for a job, with what came of it. -/
inductive JobCall where
  | render (code : String) (quality : Quality) (left : Rendering)
  | repair (code diagnostic reply : String)

namespace JobCall

/-- The exchange in which a call is made. -/
def exchange (id : String) : JobCall → ServiceExchange
  | render code quality left => rendered id code quality left.outcome
  | repair code diagnostic reply => repaired code diagnostic reply

/-- What a call says that it left on the disk is what lies there. -/
def LeftOn (d : Disk) : JobCall → Prop
  | render _ _ (.video path content) => d.fileAt (d.placeOf path) = content
  | render _ _ .timeout | render _ _ (.failure _) | repair .. => True

end JobCall

/-- A renderer and a repair that answer by the job, by the earlier calls for that job, the
latest first, and by what is asked. -/
structure Staff where
  /-- What the renderer leaves behind. -/
  film : String → List JobCall → String → Quality → Rendering
  /-- What code is repaired to. -/
  mend : String → List JobCall → String → String → String
  /-- What the disk says of a path at which nothing was left. -/
  loss : String → DiskFault

/-- A studio, and for each job the calls that were made for it, the latest first. -/
structure Site where
  studio : Studio
  ledger : List (String × JobCall)

/-- What there is of one job. -/
structure JobFile where
  /-- The record of the job, without its moments. -/
  record : Option Job
  video : Option ByteArray
  /-- The calls that were made for the job, the latest first. -/
  calls : List JobCall

namespace Site

/-- The calls that were made for a job. -/
def callsOf (x : Site) (id : String) : List JobCall :=
  x.ledger.filterMap fun entry => if entry.1 = id then some entry.2 else none

/-- The file of a job. -/
def file (x : Site) (id : String) : JobFile :=
  ⟨x.studio.jobs.stored? id, x.studio.film? id, x.callsOf id⟩

end Site

namespace Staff

/-- The call that a question makes of the staff, with what comes of it. -/
def call? (staff : Staff) (id : String) (earlier : List JobCall) : ServiceQuestion → Option JobCall
  | .render _ code quality => some (.render code quality (staff.film id earlier code quality))
  | .repair code diagnostic =>
    some (.repair code diagnostic (staff.mend id earlier code diagnostic))
  | _ => none

/-- An exchange for a job in which no store fails and the staff answers. -/
structure Serves (staff : Staff) (id : String) (x : Site) (e : ServiceExchange) (x' : Site) :
    Prop where
  works : ∃ crew, x.studio.Works crew e x'.studio
  /-- The job store does not fail. -/
  succeeds : x.studio.Succeeds e
  /-- Of an id under which a video can be stored, the store of the videos refuses only a path
  at which there is nothing. -/
  keeps : ArtifactStore.isValidId id = true → ∀ path fault, e = videoKept id path (.error fault) →
    x.studio.disk.fileAt (x.studio.disk.placeOf path) = none ∧
      fault = .disk (x.studio.videos.videoPath id) (staff.loss path)
  /-- The staff answers by the job and by its earlier calls. -/
  answers : ∀ call, staff.call? id (x.callsOf id) e.question = some call →
    e = call.exchange id ∧ call.LeftOn x'.studio.disk
  /-- Each call is noted. -/
  notes : x'.ledger =
    ((staff.call? id (x.callsOf id) e.question).map (id, ·)).toList ++ x.ledger

variable {staff : Staff} {id id' path : String} {x x' y y' : Site} {e : ServiceExchange}

/-- The calls of a job grow by the one that is made, if one is. -/
theorem Serves.callsOf (h : staff.Serves id x e x') :
    x'.callsOf id = (staff.call? id (x.callsOf id) e.question).toList ++ x.callsOf id := by
  rw [Site.callsOf, h.notes, List.filterMap_append]
  cases staff.call? id (x.callsOf id) e.question <;> simp [Site.callsOf]

/-- The calls of other jobs stay. -/
theorem Serves.callsOf_other (h : staff.Serves id x e x') (hne : id' ≠ id) :
    x'.callsOf id' = x.callsOf id' := by
  rw [Site.callsOf, h.notes, List.filterMap_append]
  cases staff.call? id (x.callsOf id) e.question <;> simp [Site.callsOf, Ne.symm hne]

/-! ## Other files -/

variable {n : Nat} {task : RenderTask} {r r' : Except PipelineFault JobStatus}

/-- Work at a task changes nothing that belongs to other jobs. -/
theorem process_apart (h : Runs (staff.Serves task.jobId) (process n task) x r x') :
    Studio.Apart task.jobId x.studio x'.studio :=
  Studio.process_apart (h.map Site.studio fun _ _ _ hserves => hserves.works)

/-- **The work at a job leaves the files of the other jobs as they are.** -/
theorem process_file (h : Runs (staff.Serves task.jobId) (process n task) x r x')
    (hne : id' ≠ task.jobId) : x'.file id' = x.file id' := by
  have hapart := process_apart h
  have hcalls : x'.callsOf id' = x.callsOf id' := by
    apply Runs.invariant h
    · rfl
    · intro y e y' hserves hy
      exact (hserves.callsOf_other hne).trans hy
  rw [Site.file, Site.file, hcalls, hapart.films id' hne,
    JobStore.stored?_congr (hapart.records id' hne)]

/-! ## The own file -/

/-- The latest call for the job left its video at the path, outside the folder of the stored
videos. -/
def LeftLast (id path : String) (x : Site) : Prop :=
  x.studio.videos.holds x.studio.disk path = false ∧
    ∃ code quality content earlier,
      x.callsOf id = .render code quality (.video path content) :: earlier ∧
        x.studio.disk.fileAt (x.studio.disk.placeOf path) = content

/-- An exchange in the work at a job that the staff serves.  A video is stored from where the
latest call left it. -/
structure ServesOwn (staff : Staff) (id : String) (x : Site) (e : ServiceExchange) (x' : Site) :
    Prop where
  serves : staff.Serves id x e x'
  own : e.question.isFor id = true
  filmed : ∀ path, e.question = .keepVideo id path → LeftLast id path x

/-- Where a render was reported, its video was left last. -/
def FilmedLast (id : String) (stage : WorkStage) (x : Site) : Prop :=
  ∀ path, stage = .filmed path → LeftLast id path x

/-- Every exchange of the work keeps this. -/
theorem FilmedLast.turn {stage stage' : WorkStage} (hturn : WorkTurn task stage e stage')
    (h : staff.Serves task.jobId x e x') : FilmedLast task.jobId stage' x' := by
  rintro path rfl
  cases hturn with
  | @filmed progress code =>
      obtain ⟨crew, hworks⟩ := h.works
      obtain ⟨-, -, -, -, hheld⟩ := hworks.render_steady
      have hcalls := h.callsOf
      obtain ⟨hexchange, hleft⟩ := h.answers (.render code task.quality
        (staff.film task.jobId (x.callsOf task.jobId) code task.quality)) rfl
      rcases hfilm : staff.film task.jobId (x.callsOf task.jobId) code task.quality
        with ⟨path', content⟩ | _ | _ <;> rw [hfilm] at hexchange hleft <;> cases hexchange
      refine ⟨hheld path rfl, code, task.quality, content, x.callsOf task.jobId, ?_, hleft⟩
      rw [hcalls, ← hfilm]
      rfl

/-- **The exchanges of the work at a task are its job's own.** -/
theorem runs_servesOwn (h : Runs (staff.Serves task.jobId) (process n task) x r x') :
    Runs (staff.ServesOwn task.jobId) (process n task) x r x' := by
  have hstart : FilmedLast task.jobId .begun x := nofun
  have hboth : Runs (staff.ServesOwn task.jobId) (process n task) x r x' ∧
      ∃ stage, stage = WorkStage.complete ∧ FilmedLast task.jobId stage x' := by
    refine (follows_process n task).runs h hstart ?_
    intro stage e stage' x x' hturn hserves hx
    refine ⟨FilmedLast.turn hturn hserves, hserves, hturn.isFor, ?_⟩
    intro path hkeep
    cases hturn <;> cases hkeep
    · exact hx path rfl
    · exact hx path rfl
  exact hboth.1

/-! ### The record -/

/-- The record after a question about its job. -/
def recordAfter : ServiceQuestion → Option Job → Option Job
  | .updateJob _ u, record => record.map (·.apply u .epoch)
  | _, record => record

/-- The job store says what a record is, moments aside. -/
def Says (record : Option Job) (reply : JobReply) : Prop :=
  match record with
  | none => reply = .ok none
  | some job => ∃ job', reply = .ok (some job') ∧ job'.undated = job

/-- Two replies that say the same record are alike. -/
theorem Says.alike {record : Option Job} {reply reply' : JobReply} (h : Says record reply)
    (h' : Says record reply') : JobReplyAlike reply reply' := by
  cases record with
  | none =>
      obtain rfl : reply = .ok none := h
      obtain rfl : reply' = .ok none := h'
      exact .missing
  | some job =>
      obtain ⟨job₁, rfl, hfirst⟩ := h
      obtain ⟨job₂, rfl, hsecond⟩ := h'
      exact .found (hfirst.trans hsecond.symm)

/-- There is no record of a job that is not there. -/
theorem stored?_of_not_has {jobs : JobStore} (h : ¬ jobs.Has id) : jobs.stored? id = none := by
  cases hrecord : jobs.stored? id with
  | none => rfl
  | some job => exact absurd (JobStore.has_of_stored? hrecord) h

/-- **The record after an exchange** is the one before it, with the update if there is one. -/
theorem ServesOwn.record (h : staff.ServesOwn id x e x') :
    x'.studio.jobs.stored? id = recordAfter e.question (x.studio.jobs.stored? id) := by
  obtain ⟨crew, hworks⟩ := h.serves.works
  have hown := h.own
  have hsucceeds := h.serves.succeeds
  have hwrites := Studio.writes_of_falters hworks.falters
  cases hwrites with
  | made => cases hown
  | @updated id' u job old _ found new stored others count =>
      obtain rfl : id' = id := by simpa [ServiceQuestion.isFor, jobUpdated] using hown
      rw [stored]
      simp [jobUpdated, recordAfter, found]
  | nothing unwritten jobs count =>
      rw [jobs]
      obtain ⟨q, reply⟩ := e
      cases q with
      | updateJob id' u =>
          obtain rfl : id' = id := by simpa [ServiceQuestion.isFor] using hown
          rcases hsucceeds with ⟨job, rfl⟩ | ⟨rfl, hnot⟩
          · cases unwritten
          · simp [recordAfter, stored?_of_not_has hnot]
      | _ => rfl

/-- What is said of a job when it was looked up. -/
theorem ServesOwn.read {reply : JobReply} (h : staff.ServesOwn id x (jobRead id reply) x') :
    Says (x.studio.jobs.stored? id) reply := by
  obtain ⟨crew, hworks⟩ := h.serves.works
  have hsucceeds : Studio.RightlySaid x.studio.jobs id reply := h.serves.succeeds
  rcases hsucceeds with ⟨job, rfl⟩ | ⟨rfl, hnot⟩
  · rw [JobStore.stored?_of_get hworks.falters.read]
    exact ⟨job, rfl, rfl⟩
  · rw [stored?_of_not_has hnot]
    rfl

/-- What is said of a job when it was updated. -/
theorem ServesOwn.updated {u : JobUpdate} {reply : JobReply}
    (h : staff.ServesOwn id x (jobUpdated id u reply) x') :
    Says ((x.studio.jobs.stored? id).map (·.apply u .epoch)) reply := by
  obtain ⟨crew, hworks⟩ := h.serves.works
  have hsucceeds : Studio.RightlySaid x.studio.jobs id reply := h.serves.succeeds
  have hwrites := Studio.writes_of_falters hworks.falters
  rcases hsucceeds with ⟨job, rfl⟩ | ⟨rfl, hnot⟩
  · cases hwrites with
    | nothing unwritten => cases unwritten
    | updated found new stored others count =>
        rw [found]
        exact ⟨job, rfl, new⟩
  · rw [stored?_of_not_has hnot]
    rfl

/-! ### The video -/

/-- Only storing a video changes the video of a job. -/
theorem ServesOwn.film (h : staff.ServesOwn id x e x')
    (hkeep : ∀ path, e.question ≠ .keepVideo id path) : x'.studio.film? id = x.studio.film? id := by
  obtain ⟨crew, hworks⟩ := h.serves.works
  by_cases hrender : ∃ code quality, e.question = .render id code quality
  · obtain ⟨code, quality, hquestion⟩ := hrender
    obtain ⟨q, reply⟩ := e
    cases hquestion
    obtain ⟨hvideos, -, -, hsteady, -⟩ := Studio.Works.render_steady hworks
    exact Studio.film?_steady hvideos hsteady fun hother => hother id rfl
  · obtain ⟨hdisk, hvideos, -⟩ := hworks.quiet h.own
      (fun code quality heq => hrender ⟨code, quality, heq⟩) hkeep
    rw [Studio.film?, Studio.film?, hdisk, hvideos]

/-- What the store of the videos says of a content that is to be stored. -/
def keptReply (staff : Staff) (videos : ArtifactStore) (id path : String)
    (content : Option ByteArray) : Except ArtifactFault String :=
  match ArtifactStore.isValidId id, content with
  | false, _ => .error (.invalidJobId id)
  | true, none => .error (.disk (videos.videoPath id) (staff.loss path))
  | true, some _ => .ok (videos.videoPath id)

/-- The video of a job after a content was to be stored. -/
def keptFilm (id : String) (content film : Option ByteArray) : Option ByteArray :=
  if ArtifactStore.isValidId id then content.or film else film

/-- **Storing a video is determined by what lies at the path**, and by what was stored. -/
theorem ServesOwn.kept {reply : Except ArtifactFault String} {content : Option ByteArray}
    (h : staff.ServesOwn id x (videoKept id path reply) x')
    (hheld : x.studio.videos.holds x.studio.disk path = false)
    (hcontent : x.studio.disk.fileAt (x.studio.disk.placeOf path) = content) :
    reply = staff.keptReply x.studio.videos id path content ∧
      x'.studio.film? id = keptFilm id content (x.studio.film? id) := by
  obtain ⟨crew, hworks⟩ := h.serves.works
  obtain ⟨hreply, -, hvideos, -, hdisk⟩ := hworks.keep_eq
  -- a refusal changes no file
  have hrefused : ∀ fault, reply = .error fault → x'.studio.film? id = x.studio.film? id := by
    rintro fault rfl
    have hsteady := ArtifactStore.steady_put_error hreply.symm
    rw [← hdisk] at hsteady
    exact Studio.film?_steady hvideos hsteady not_false
  cases hid : ArtifactStore.isValidId id with
  | false =>
      have hinvalid : reply = .error (.invalidJobId id) := by
        rw [hreply]
        simp [ArtifactStore.put, ArtifactStore.pathOf, hid]
      refine ⟨by simp [hinvalid, keptReply, hid], ?_⟩
      rw [hrefused _ hinvalid]
      simp [keptFilm, hid]
  | true =>
      rcases reply with fault | target
      · obtain ⟨hnone, rfl⟩ := h.serves.keeps hid path fault rfl
        rw [hcontent] at hnone
        subst hnone
        refine ⟨by simp [keptReply, hid], ?_⟩
        rw [hrefused _ rfl]
        simp [keptFilm, hid]
      · obtain ⟨rfl, stored, hfile, hvideo⟩ := ArtifactStore.put_eq_ok hreply.symm hheld
        rw [hcontent] at hfile
        subst hfile
        refine ⟨by simp [keptReply, hid], ?_⟩
        rw [← hdisk] at hvideo
        rw [Studio.film?, hvideos, ArtifactStore.fileAt_of_video? hvideo]
        simp [keptFilm, hid]

/-! ### Two sites -/

/-- Two sites have the same file of a job, and keep videos in the same folder. -/
structure Agree (id : String) (x y : Site) : Prop where
  videos : x.studio.videos = y.studio.videos
  file : x.file id = y.file id

/-- The call that is made is the same where the earlier calls are. -/
theorem exchange_eq {q : ServiceQuestion} {r r' : q.Reply} (h : staff.Serves id x ⟨q, r⟩ x')
    (h' : staff.Serves id y ⟨q, r'⟩ y') (hcalls : x.callsOf id = y.callsOf id)
    (hcall : (staff.call? id (x.callsOf id) q).isSome = true) : r = r' := by
  obtain ⟨call, hsome⟩ := Option.isSome_iff_exists.mp hcall
  have hfirst := (h.answers call hsome).1
  have hsecond := (h'.answers call (by rw [← hcalls]; exact hsome)).1
  exact eq_of_heq (Answered.mk.inj (hfirst.trans hsecond.symm)).2

/-- **An exchange in the work at a job is determined by the file of the job.** -/
theorem ServesOwn.agree {q : ServiceQuestion} {r r' : q.Reply}
    (h : staff.ServesOwn id x ⟨q, r⟩ x') (h' : staff.ServesOwn id y ⟨q, r'⟩ y')
    (hxy : Agree id x y) : ReplyAlike q r r' ∧ Agree id x' y' := by
  obtain ⟨hvideos, hfile⟩ := hxy
  obtain ⟨hrecord, hfilm, hcalls⟩ := JobFile.mk.inj hfile
  have hown := h.own
  have hapart := Studio.OwnExchange.apart
    ⟨h.serves.works, h.own, fun path hkeep => (h.filmed path hkeep).1⟩
  have hapart' := Studio.OwnExchange.apart
    ⟨h'.serves.works, h'.own, fun path hkeep => (h'.filmed path hkeep).1⟩
  have hvideosAfter : x'.studio.videos = y'.studio.videos := by
    rw [hapart.videos, hapart'.videos, hvideos]
  have hrecordAfter : x'.studio.jobs.stored? id = y'.studio.jobs.stored? id := by
    rw [h.record, h'.record, hrecord]
  have hcallsAfter : x'.callsOf id = y'.callsOf id := by
    rw [h.serves.callsOf, h'.serves.callsOf, hcalls]
  suffices hrest : ReplyAlike q r r' ∧ x'.studio.film? id = y'.studio.film? id by
    refine ⟨hrest.1, hvideosAfter, ?_⟩
    rw [Site.file, Site.file, hrecordAfter, hrest.2, hcallsAfter]
  by_cases hkeep : ∃ path, q = .keepVideo id path
  · obtain ⟨path, rfl⟩ := hkeep
    obtain ⟨hheld, code, quality, content, earlier, hlatest, hleft⟩ := h.filmed path rfl
    obtain ⟨hheld', code', quality', content', earlier', hlatest', hleft'⟩ := h'.filmed path rfl
    -- both calls left the same video, as the latest call is the same
    obtain rfl : content = content' := by
      rw [hcalls, hlatest'] at hlatest
      cases hlatest
      rfl
    obtain ⟨hreply, hafter⟩ := ServesOwn.kept h hheld hleft
    obtain ⟨hreply', hafter'⟩ := ServesOwn.kept h' hheld' hleft'
    refine ⟨?_, ?_⟩
    · rw [hreply, hreply', hvideos]
      rfl
    · rw [hafter, hafter', hfilm]
  · have hother : ∀ path, q ≠ .keepVideo id path := fun path heq => hkeep ⟨path, heq⟩
    refine ⟨?_, by rw [h.film hother, h'.film hother, hfilm]⟩
    cases q with
    | getJob id' =>
        obtain rfl : id' = id := by simpa [ServiceQuestion.isFor] using hown
        have hsays := ServesOwn.read h'
        rw [← hrecord] at hsays
        exact (ServesOwn.read h).alike hsays
    | updateJob id' u =>
        obtain rfl : id' = id := by simpa [ServiceQuestion.isFor] using hown
        have hsays := ServesOwn.updated h'
        rw [← hrecord] at hsays
        exact (ServesOwn.updated h).alike hsays
    | render id' code quality => exact exchange_eq h.serves h'.serves hcalls rfl
    | repair code diagnostic => exact exchange_eq h.serves h'.serves hcalls rfl
    | release id' => rfl
    | keepVideo id' path =>
        obtain rfl : id' = id := by simpa [ServiceQuestion.isFor] using hown
        exact absurd rfl (hother path)
    | _ => cases hown

/-- **The work at a job is determined by its file**: from two sites that agree on it, the work
ends with the same answer in sites that agree on it. -/
theorem process_determined (h : Runs (staff.Serves task.jobId) (process n task) x r x')
    (h' : Runs (staff.Serves task.jobId) (process n task) y r' y') (hxy : Agree task.jobId x y) :
    r = r' ∧ Agree task.jobId x' y' :=
  (alike_process n task).runs (runs_servesOwn h) (runs_servesOwn h') hxy ServesOwn.agree

/-- Work at another job makes no difference to what a site holds of a job. -/
theorem agree_of_other (h : Runs (staff.Serves task.jobId) (process n task) x r x')
    (hne : id ≠ task.jobId) : Agree id x x' :=
  ⟨(process_apart h).videos.symm, (process_file h hne).symm⟩

end Staff

/-! ## Two jobs -/

/-- **Distinct jobs do not interfere.**  Whichever of two tasks of different jobs is worked off
first, all jobs end with the same records, moments aside, the same videos and the same calls of
the renderer and of the repair.  And whatever fails, the work at one task changes no record, no
video and no entry of the cache but the record and the video of its own job. -/
theorem distinct_jobs_apart (staff : Staff) (n : Nat) (a b : RenderTask) (hne : a.jobId ≠ b.jobId)
    {x xa xab xb xba : Site} {ra rb ra' rb' : Except PipelineFault JobStatus}
    (hfirst : Runs (staff.Serves a.jobId) (process n a) x ra xa)
    (hsecond : Runs (staff.Serves b.jobId) (process n b) xa rb xab)
    (hother : Runs (staff.Serves b.jobId) (process n b) x rb' xb)
    (hback : Runs (staff.Serves a.jobId) (process n a) xb ra' xba) :
    (∀ id, xab.file id = xba.file id) ∧
      ∀ {task : RenderTask} {s s' : Studio} {r : Except PipelineFault JobStatus},
        Runs (fun s e s' => ∃ crew, s.Works crew e s') (process n task) s r s' →
          Studio.Apart task.jobId s s' := by
  refine ⟨?_, Studio.process_apart⟩
  intro id
  by_cases ha : id = a.jobId
  · -- the other work comes after it in one order, and before it in the other
    subst ha
    have hagree := (Staff.process_determined hfirst hback (Staff.agree_of_other hother hne)).2
    rw [Staff.process_file hsecond hne, hagree.file]
  · by_cases hb : id = b.jobId
    · subst hb
      have hagree := (Staff.process_determined hother hsecond
        (Staff.agree_of_other hfirst (Ne.symm hne))).2
      rw [Staff.process_file hback (Ne.symm hne), hagree.file]
    · rw [Staff.process_file hsecond hb, Staff.process_file hfirst ha,
        Staff.process_file hback ha, Staff.process_file hother hb]

/-! ## A rehearsal -/

instance (call : JobCall) (d : Disk) : Decidable (call.LeftOn d) :=
  match call with
  | .render _ _ (.video path content) =>
    inferInstanceAs (Decidable (d.fileAt (d.placeOf path) = content))
  | .render _ _ .timeout | .render _ _ (.failure _) | .repair .. => .isTrue trivial

namespace Staff

/-- The crew that answers the next call as the staff does. -/
def crew (staff : Staff) (id : String) (x : Site) : Crew where
  freshId := letterId
  now := fun _ => default
  storeFailure := fun _ _ => none
  render := fun _ _ code quality => staff.film id (x.callsOf id) code quality
  repair := fun _ code diagnostic => staff.mend id (x.callsOf id) code diagnostic
  complete := fun _ _ => .error .emptyResponse

/-- The site replies, and notes the call. -/
def reply (staff : Staff) (id : String) (q : ServiceQuestion) (x : Site) : q.Reply × Site :=
  let (r, studio) := Studio.reply (staff.crew id x) q x.studio
  (r, ⟨studio, ((staff.call? id (x.callsOf id) q).map (id, ·)).toList ++ x.ledger⟩)

/-- Is the question served? -/
def attends (staff : Staff) (id : String) (x : Site) (q : ServiceQuestion) : Bool :=
  q.isFor id && x.studio.keepsOut (staff.crew id x) q &&
    x.studio.isWellAnswered (staff.crew id x) q &&
    (staff.call? id (x.callsOf id) q).all fun call =>
      decide (call.LeftOn (staff.reply id q x).2.studio.disk)

variable {staff : Staff} {id : String} {x : Site} {q : ServiceQuestion}

/-- The staff serves the questions that it attends to. -/
theorem serves_of_attends (h : staff.attends id x q = true) :
    staff.Serves id x ⟨q, (staff.reply id q x).1⟩ (staff.reply id q x).2 := by
  simp only [attends, Bool.and_eq_true] at h
  obtain ⟨⟨⟨hown, hout⟩, hwell⟩, hleft⟩ := h
  have hreplies : x.studio.Replies (staff.crew id x) ⟨q, (staff.reply id q x).1⟩
      (staff.reply id q x).2.studio := rfl
  refine ⟨⟨_, hout, _, hreplies⟩, (Studio.attends_of_isWellAnswered hwell hreplies).2, ?_, ?_, rfl⟩
  · intro _ path fault heq
    have hserved : served ⟨q, (staff.reply id q x).1⟩ = true := (Bool.and_eq_true_iff.mp hwell).1
    rw [heq] at hserved
    cases hserved
  · intro call hcall
    change staff.call? id (x.callsOf id) q = some call at hcall
    rw [hcall] at hleft
    refine ⟨?_, of_decide_eq_true hleft⟩
    cases q with
    | render id' code quality =>
        obtain rfl : id' = id := by simpa [ServiceQuestion.isFor] using hown
        obtain rfl := Option.some.inj hcall
        have hrender : x.studio.render (staff.crew id' x) id' code quality =
            ((staff.reply id' (.render id' code quality) x).1,
              (staff.reply id' (.render id' code quality) x).2.studio) := rfl
        exact congrArg (rendered id' code quality) (Studio.render_eq hrender).1
    | repair code diagnostic =>
        obtain rfl := Option.some.inj hcall
        rfl
    | _ => cases hcall

end Staff

/-- One job has its first render fail; every other render succeeds, and repairs change nothing. -/
def troubledStaff : Staff where
  film := fun id earlier _ _ =>
    if id == "b" && earlier.isEmpty then .failure "boom"
    else .video (Disk.join "spool" (id ++ ".mp4")) (some ("video for " ++ id).toUTF8)
  mend := fun _ _ code _ => code
  loss := fun _ => .notFound

/-- Two fresh jobs in a studio with a folder for fresh videos. -/
def twoJobs : Site :=
  ⟨{ filmStudio with jobs := .memory [("a", .fresh "a" default), ("b", .fresh "b" default)] }, []⟩

/-- The task whose first render succeeds. -/
def plainTask : RenderTask := ⟨"a", emptyScene, .low, false⟩

/-- The task whose first render fails. -/
def troubledTask : RenderTask := ⟨"b", emptyScene, .high, true⟩

/-- The work at a task, as a run. -/
def worked (task : RenderTask) (x : Site) : Except PipelineFault JobStatus × Site :=
  (process 1 task).run (troubledStaff.reply task.jobId) x

/-- The questions of the work at a task are all served. -/
def isAttended (task : RenderTask) (x : Site) : Bool :=
  (process 1 task).holdsAlong (troubledStaff.reply task.jobId) (troubledStaff.attends task.jobId) x

/-- The attended work at a task is a run of it. -/
theorem runs_worked {task : RenderTask} {x : Site} (h : isAttended task x = true) :
    Runs (troubledStaff.Serves task.jobId) (process 1 task) x (worked task x).1
      (worked task x).2 := by
  refine (runs_run_of_holdsAlong h).mono ?_
  rintro y ⟨q, r⟩ y' ⟨hattends, hreply⟩
  have hserves := Staff.serves_of_attends hattends
  rw [show troubledStaff.reply task.jobId q y = (r, y') from hreply] at hserves
  exact hserves

/-- The site after both tasks, the plain one first. -/
def bothWorked : Site := (worked troubledTask (worked plainTask twoJobs).2).2

/-- The site after both tasks, from any site. -/
def workedBoth (x : Site) : Site := (worked troubledTask (worked plainTask x).2).2

/-- The two jobs are worked off in both orders, and end alike: the one has its video after one
render, the other one after a failed render and a repair. -/
theorem two_jobs_end_alike :
    plainTask.jobId ≠ troubledTask.jobId ∧
      (∀ id, bothWorked.file id = (worked plainTask (worked troubledTask twoJobs).2).2.file id) ∧
      (bothWorked.file "a").calls.length = 1 ∧ (bothWorked.file "b").calls.length = 3 := by
  -- one evaluation of the runs in both orders
  have hruns : (isAttended plainTask twoJobs = true ∧
      isAttended troubledTask (worked plainTask twoJobs).2 = true ∧
      isAttended troubledTask twoJobs = true ∧
      isAttended plainTask (worked troubledTask twoJobs).2 = true) ∧
      (bothWorked.file "a").calls.length = 1 ∧ (bothWorked.file "b").calls.length = 3 := by
    decide +kernel
  obtain ⟨⟨hfirst, hsecond, hother, hback⟩, hcalls⟩ := hruns
  have hne : plainTask.jobId ≠ troubledTask.jobId := by decide
  -- from any site, as at the site of the rehearsal the runs would be evaluated once more
  have hapart : ∀ x : Site, isAttended plainTask x = true →
      isAttended troubledTask (worked plainTask x).2 = true → isAttended troubledTask x = true →
      isAttended plainTask (worked troubledTask x).2 = true →
      ∀ id, (workedBoth x).file id = (worked plainTask (worked troubledTask x).2).2.file id := by
    intro x hfirst hsecond hother hback
    exact (distinct_jobs_apart troubledStaff 1 plainTask troubledTask hne (runs_worked hfirst)
      (runs_worked hsecond) (runs_worked hother) (runs_worked hback)).1
  exact ⟨hne, hapart twoJobs hfirst hsecond hother hback, hcalls⟩

end SceneRender
