import SceneRender.Proofs.Pipeline.Chronicle

/-!
# What the records say is true

Every record in the store keeps the law of its status: a finished job has its video and
no error, a job that ended badly has an error and no video, and an unfinished job has
neither come to its end nor got a video.  The law ties records to files, and records are
written in parts that can go wrong one by one, so it is carried through every exchange:
the stages of the work at a task and of a submission say what is known of the job in
question, and every other record is left alone.

Beside the law, jobs that wait for their task to be worked off are not done yet; this is
what makes giving such a job up harmless.  `record_law` is the result for a whole
chronicle.
-/

namespace SceneRender

open Plan Pipeline ServiceExchange

/-! ## The law -/

/-- What the record of a job has to say, with the store of videos on a disk. -/
structure RecordLaw (videos : ArtifactStore) (d : Disk) (id : String) (job : Job) : Prop where
  done : job.status = .done → job.progress = 100 ∧ job.error = none ∧
    job.videoPath = some (videos.videoPath id) ∧ ∃ content, videos.video? d id = some content
  ended : job.status = .failed ∨ job.status = .timeout →
    job.progress = 100 ∧ job.error.isSome = true ∧ job.videoPath = none
  unfinished : job.status.isTerminal = false → job.progress < 100 ∧ job.videoPath = none

namespace RecordLaw

variable {videos : ArtifactStore} {d d' : Disk} {id : String} {old : Job} {u : JobUpdate}

/-- Only a finished job has a video. -/
theorem videoPath_eq_none (law : RecordLaw videos d id old) (h : old.status ≠ .done) :
    old.videoPath = none := by
  cases hterminal : old.status.isTerminal
  · exact (law.unfinished hterminal).2
  · refine (law.ended ?_).2.2
    cases hstatus : old.status <;> simp_all [JobStatus.isTerminal]

/-- The law of a new record. -/
theorem fresh (id' : String) (now : Timestamp) : RecordLaw videos d id (.fresh id' now) where
  done := nofun
  ended := by rintro (h | h) <;> cases h
  unfinished _ := ⟨Nat.zero_lt_succ 99, rfl⟩

/-- The law stays when the job is moved on. -/
theorem moved {before after : Nat} (moves : MovesOn u before after) (hbefore : before < 100)
    (law : RecordLaw videos d id old) (hold : old.status.isTerminal = false) :
    RecordLaw videos d id (old.apply u .epoch) := by
  obtain ⟨status, hstatus, hlive⟩ := moves.status
  have hnew : (old.apply u .epoch).status = status := by
    simp [Job.apply, hstatus]
  refine ⟨?_, ?_, fun _ => ⟨?_, ?_⟩⟩
  · intro h
    rw [hnew] at h
    rw [h] at hlive
    cases hlive
  · intro h
    rw [hnew] at h
    rcases h with h | h <;> rw [h] at hlive <;> cases hlive
  · have := moves.bounded
    simp only [Job.apply, moves.progress, Option.map_some, Option.getD_some]
    omega
  · simp only [Job.apply, moves.videoPath, Option.getD_none]
    exact (law.unfinished hold).2

/-- The law holds when a job that has no video is ended with an error. -/
theorem endedBadly {status : JobStatus} {stage error : String}
    (bad : status = .failed ∨ status = .timeout) (hold : old.videoPath = none) :
    RecordLaw videos d id (old.apply (endingUpdate status stage error) .epoch) := by
  have hnew : (old.apply (endingUpdate status stage error) .epoch).status = status := rfl
  refine ⟨?_, fun _ => ⟨rfl, rfl, hold⟩, ?_⟩
  · intro h
    rw [hnew] at h
    rcases bad with rfl | rfl <;> cases h
  · intro h
    rw [hnew] at h
    rcases bad with rfl | rfl <;> cases h

/-- A job without a video that fails keeps the law. -/
theorem failed {reason : String} (hold : old.videoPath = none) :
    RecordLaw videos d id (old.apply (failedUpdate reason) .epoch) :=
  endedBadly (Or.inl rfl) hold

/-- The law holds when a job without an error is finished with its video. -/
theorem finished {path : String} (herror : (old.apply u .epoch).error = none)
    (hstatus : (old.apply u .epoch).status = .done)
    (hprogress : (old.apply u .epoch).progress = 100)
    (hpath : (old.apply u .epoch).videoPath = some path) (htarget : path = videos.videoPath id)
    (hvideo : ∃ content, videos.video? d id = some content) :
    RecordLaw videos d id (old.apply u .epoch) := by
  refine ⟨fun _ => ⟨hprogress, herror, ?_, hvideo⟩, ?_, ?_⟩
  · rw [hpath, htarget]
  · intro h
    rw [hstatus] at h
    rcases h with h | h <;> cases h
  · intro h
    rw [hstatus] at h
    cases h

/-- The law stays while the video does. -/
theorem onDisk {job : Job} (law : RecordLaw videos d id job)
    (hstays : job.status = .done → ∀ content, videos.video? d id = some content →
      ∃ content, videos.video? d' id = some content) : RecordLaw videos d' id job where
  done h := by
    obtain ⟨hprogress, herror, hpath, content, hvideo⟩ := law.done h
    exact ⟨hprogress, herror, hpath, hstays h content hvideo⟩
  ended := law.ended
  unfinished := law.unfinished

end RecordLaw

/-! ## Between two exchanges -/

/-- What holds of the records between two exchanges.  Some jobs wait for their task. -/
structure RecordsHold (crew : Crew) (waiting : String → Bool) (s : Studio) : Prop where
  law : ∀ id job, s.jobs.record? id = some job → RecordLaw s.videos s.disk id job
  order : Studio.IdsInOrder crew s
  waits : ∀ id, waiting id = true →
    s.jobs.Has id ∧ ∀ job, s.jobs.record? id = some job → job.status ≠ .done

/-- The record of the job is unfinished, as far as there is one. -/
def Studio.Unfinished (s : Studio) (id : String) : Prop :=
  ∀ job, s.jobs.record? id = some job → job.status.isTerminal = false

/-- The record of the job is a fresh one. -/
def Studio.IsFreshJob (s : Studio) (id : String) : Prop :=
  s.jobs.Has id ∧ ∀ job, s.jobs.record? id = some job → job = .fresh id .epoch

namespace RecordsHold

variable {crew : Crew} {waiting waiting' : String → Bool} {s s' : Studio} {refusal : Option String}

/-- The records hold with fewer jobs that wait. -/
theorem mono (h : RecordsHold crew waiting s) (hless : ∀ id, waiting' id = true → waiting id = true) :
    RecordsHold crew waiting' s where
  law := h.law
  order := h.order
  waits id hid := h.waits id (hless id hid)

/-- One more job may wait when it is there and not done. -/
theorem more (h : RecordsHold crew waiting s)
    (hmore : ∀ id, waiting' id = true → waiting id = true ∨
      s.jobs.Has id ∧ ∀ job, s.jobs.record? id = some job → job.status ≠ .done) :
    RecordsHold crew waiting' s where
  law := h.law
  order := h.order
  waits id hid := (hmore id hid).elim (h.waits id) fun hnew => hnew

/-- Only jobs, videos and counts matter. -/
theorem congr (h : RecordsHold crew waiting s) (hjobs : s'.jobs = s.jobs)
    (hvideos : s'.videos = s.videos) (hdisk : s'.disk = s.disk)
    (hmade : s'.counts.made = s.counts.made) : RecordsHold crew waiting s' where
  law := by
    rw [hjobs, hvideos, hdisk]
    exact h.law
  order := by
    refine ⟨?_, ?_⟩
    · rw [hjobs, hmade]
      exact h.order.given
    · rw [hjobs]
      exact h.order.own
  waits := by
    rw [hjobs]
    exact h.waits

/-- The files may change as long as finished jobs keep their videos. -/
theorem onDisk (h : RecordsHold crew waiting s) (d : Disk)
    (hstays : ∀ id job, s.jobs.record? id = some job → job.status = .done →
      ∀ content, s.videos.video? s.disk id = some content →
        ∃ content, s.videos.video? d id = some content) :
    RecordsHold crew waiting { s with disk := d } where
  law id job hjob := (h.law id job hjob).onDisk (hstays id job hjob)
  order := ⟨h.order.given, h.order.own⟩
  waits := h.waits

/-- Looking a job up changes nothing. -/
theorem read (h : RecordsHold crew waiting s) {id : String} {r : JobReply}
    (hreply : Studio.reply crew (.getJob id) (s.withRefusal refusal) = (r, s')) :
    RecordsHold crew waiting s' ∧ s'.jobs = s.jobs ∧
      ∀ job, r = .ok (some job) → s.jobs.record? id = some job.undated := by
  obtain ⟨⟨n, rfl⟩, hfound⟩ := Studio.getJob_eq hreply
  exact ⟨h.congr rfl rfl rfl rfl, rfl, fun job hjob => JobStore.record?_of_get (hfound job hjob)⟩

/-- An update keeps the law if the updated record does. -/
theorem update (h : RecordsHold crew waiting s) {id : String} {u : JobUpdate} {r : JobReply}
    (hreply : Studio.reply crew (.updateJob id u) (s.withRefusal refusal) = (r, s'))
    (hlaw : ∀ old, s.jobs.record? id = some old →
      RecordLaw s.videos s.disk id (old.apply u .epoch) ∧
        (waiting id = true → (old.apply u .epoch).status ≠ .done)) :
    RecordsHold crew waiting s' ∧ s.jobs.Updates id u r s'.jobs ∧ s'.videos = s.videos ∧
      s'.disk = s.disk := by
  have horder : Studio.IdsInOrder crew (s.withRefusal refusal) := ⟨h.order.given, h.order.own⟩
  have horder' := horder.reply hreply
  obtain ⟨jobs, counts, record, rfl, -, -, hupdates⟩ := Studio.updateJob_eq hreply
  refine ⟨⟨?_, horder', ?_⟩, hupdates, rfl, rfl⟩
  · intro id' job hjob
    rcases hupdates.record_cases hjob with hold | ⟨rfl, -, old, hold, rfl⟩
    · exact h.law id' job hold
    · exact (hlaw old hold).1
  · intro id' hid
    obtain ⟨hhas, hdone⟩ := h.waits id' hid
    refine ⟨hupdates.has_iff.mpr hhas, ?_⟩
    intro job hjob
    rcases hupdates.record_cases hjob with hold | ⟨rfl, -, old, hold, rfl⟩
    · exact hdone job hold
    · exact (hlaw old hold).2 hid

/-- A job that is made is a fresh one and waits for nothing. -/
theorem create (h : RecordsHold crew waiting s) (hfresh : Function.Injective crew.freshId)
    {r : Except StoreFault Job}
    (hreply : Studio.reply crew .createJob (s.withRefusal refusal) = (r, s')) :
    RecordsHold crew waiting s' ∧
      ∀ job, r = .ok job → ¬ s.jobs.Has job.id ∧ waiting job.id = false ∧ s'.IsFreshJob job.id := by
  have horder : Studio.IdsInOrder crew (s.withRefusal refusal) := ⟨h.order.given, h.order.own⟩
  have horder' := horder.reply hreply
  have hnew : ¬ s.jobs.Has (crew.freshId s.counts.made) := h.order.next_new hfresh
  obtain ⟨jobs, counts, record, rfl, -, -, -, hcreates⟩ := Studio.createJob_eq hreply
  have hwaits : waiting (crew.freshId s.counts.made) = false := by
    cases hid : waiting (crew.freshId s.counts.made)
    · rfl
    · exact absurd (h.waits _ hid).1 hnew
  refine ⟨⟨?_, horder', ?_⟩, ?_⟩
  · intro id job hjob
    rcases hcreates.record_cases hjob with hold | ⟨-, rfl⟩
    · exact h.law id job hold
    · exact .fresh _ _
  · intro id hid
    obtain ⟨hhas, hdone⟩ := h.waits id hid
    refine ⟨hcreates.has hhas, ?_⟩
    intro job hjob
    rcases hcreates.record_cases hjob with hold | ⟨-, rfl⟩
    · exact hdone job hold
    · nofun
  · rintro job rfl
    cases hcreates with
    | made fresh has record others =>
        have hid : job.id = crew.freshId s.counts.made := congrArg Job.id fresh
        rw [hid]
        exact ⟨hnew, hwaits, has, record⟩

/-- A render keeps the law, and reports only videos outside the folder of the stored ones. -/
theorem render (h : RecordsHold crew waiting s) {id code : String} {quality : Quality}
    {outcome : RenderOutcome} (hserves : s.Serves crew (rendered id code quality outcome) s') :
    RecordsHold crew waiting s' ∧ s'.jobs = s.jobs ∧
      ∀ path, outcome = .success path → s'.videos.holds s'.disk path = false := by
  obtain ⟨refusal, hs', hsteady, hpath⟩ := Studio.serves_render hserves
  have hdisk : RecordsHold crew waiting { s with disk := s'.disk } := by
    refine h.onDisk s'.disk ?_
    intro id' job _ _ content hvideo
    refine ⟨content, ArtifactStore.video?_steady hsteady ?_ hvideo⟩
    intro hother
    exact hother id' rfl
  have hjobs : s'.jobs = s.jobs := by rw [hs']; rfl
  have hvideos : s'.videos = s.videos := by rw [hs']; rfl
  have hmade : s'.counts.made = s.counts.made := by rw [hs']; rfl
  refine ⟨hdisk.congr hjobs hvideos rfl hmade, hjobs, ?_⟩
  intro path hsuccess
  rw [hvideos]
  exact (hpath path hsuccess).1

end RecordsHold

/-! ## The work at a task -/

section Work

variable {crew : Crew} {waiting : String → Bool} {task : RenderTask}

/-- What is known in each stage of the work at a task that waits no more. -/
def WorkFact (crew : Crew) (waiting : String → Bool) (task : RenderTask) :
    WorkStage → Studio → Prop
  | .begun, s | .settled, s | .lost, s | .cleaning, s | .complete, s => RecordsHold crew waiting s
  | .live progress, s =>
    RecordsHold crew waiting s ∧ s.Unfinished task.jobId ∧ progress < 100
  | .filmed path, s =>
    RecordsHold crew waiting s ∧ s.Unfinished task.jobId ∧ s.videos.holds s.disk path = false
  | .stored target, s =>
    RecordsHold crew waiting s ∧ s.Unfinished task.jobId ∧
      target = s.videos.videoPath task.jobId ∧
      ∃ content, s.videos.video? s.disk task.jobId = some content
  | .unstored, s | .doubted, s => RecordsHold crew waiting s ∧ s.Unfinished task.jobId

/-- Storing the video of a render keeps the law of the other jobs, and the job has its
video if that succeeds. -/
theorem RecordsHold.store {s s' : Studio} (h : RecordsHold crew waiting s)
    (hlive : s.Unfinished task.jobId) {path : String}
    (houtside : s.videos.holds s.disk path = false) {reply : Except ArtifactFault String}
    (hserves : s.Serves crew (videoKept task.jobId path reply) s') :
    RecordsHold crew waiting s' ∧ s'.Unfinished task.jobId ∧
      ∀ target, reply = .ok target → target = s'.videos.videoPath task.jobId ∧
        ∃ content, s'.videos.video? s'.disk task.jobId = some content := by
  obtain ⟨refusal, -, hreply⟩ := hserves
  cases hreply
  have hsteady := s.videos.steady_put s.disk task.jobId path
  have hdisk := h.onDisk (s.videos.put task.jobId path s.disk).2 (by
    intro id job hjob hdone content hvideo
    refine ⟨content, ArtifactStore.video?_steady hsteady ?_ hvideo⟩
    rintro (hplace | hplace)
    · -- the job of the task is unfinished, so that it is another one
      rw [ArtifactStore.place_inj hplace] at hjob
      have hunfinished := hlive job hjob
      rw [hdone] at hunfinished
      cases hunfinished
    · exact ArtifactStore.placeOf_ne_place houtside id hplace.symm)
  refine ⟨hdisk.congr rfl rfl rfl rfl, hlive, ?_⟩
  intro target htarget
  obtain ⟨hpath, content, -, hvideo⟩ := ArtifactStore.put_eq_ok htarget houtside
  exact ⟨hpath, content, hvideo⟩

/-- **Every turn of the work keeps the law.** -/
theorem workFact_turn {stage stage' : WorkStage} {e : ServiceExchange} {s s' : Studio}
    (hwaits : waiting task.jobId = false) (hturn : WorkTurn task stage e stage')
    (hserves : s.Serves crew e s') (h : WorkFact crew waiting task stage s) :
    WorkFact crew waiting task stage' s' := by
  have hnever : ∀ {P : Prop}, waiting task.jobId = true → P := by
    intro P hw
    rw [hwaits] at hw
    cases hw
  have hserved := hserves
  obtain ⟨refusal, promise, hreply⟩ := hserves
  cases hturn with
  | unseen fault => exact (h.read hreply).1
  | missing => exact (h.read hreply).1
  | closed terminal => exact (h.read hreply).1
  | @found job unfinished =>
      obtain ⟨hs, hjobs, hread⟩ := h.read hreply
      have hjob := hread job rfl
      refine ⟨hs, ?_, ((h.law _ _ hjob).unfinished unfinished).1⟩
      intro job' hjob'
      rw [hjobs, hjob] at hjob'
      cases hjob'
      exact unfinished
  | @moved before after u moves job =>
      obtain ⟨h, hlive, hprogress⟩ := h
      obtain ⟨hs, hupdates, -, -⟩ := h.update hreply fun old hold =>
        ⟨.moved moves hprogress (h.law _ _ hold) (hlive _ hold), hnever⟩
      refine ⟨hs, ?_, ?_⟩
      · intro job' hjob'
        rcases hupdates.record_cases hjob' with hold | ⟨-, -, old, hold, rfl⟩
        · exact hlive job' hold
        · obtain ⟨status, hstatus, hnot⟩ := moves.status
          simpa [Job.apply, hstatus] using hnot
      · have := moves.bounded
        omega
  | stuck moves unkept =>
      obtain ⟨h, hlive, hprogress⟩ := h
      exact (h.update hreply fun old hold =>
        ⟨.moved moves hprogress (h.law _ _ hold) (hlive _ hold), hnever⟩).1
  | filmed =>
      obtain ⟨h, hlive, hprogress⟩ := h
      obtain ⟨hs, hjobs, hpath⟩ := h.render hserved
      refine ⟨hs, ?_, hpath _ rfl⟩
      rwa [Studio.Unfinished, hjobs]
  | unfilmed failed =>
      obtain ⟨h, hlive, hprogress⟩ := h
      obtain ⟨hs, hjobs, -⟩ := h.render hserved
      refine ⟨hs, ?_, hprogress⟩
      rwa [Studio.Unfinished, hjobs]
  | repaired =>
      obtain ⟨h, hlive, hprogress⟩ := h
      cases hreply
      exact ⟨h.congr rfl rfl rfl rfl, hlive, hprogress⟩
  | ended bad =>
      obtain ⟨h, hlive, -⟩ := h
      exact (h.update hreply fun old hold =>
        ⟨.endedBadly bad ((h.law _ _ hold).unfinished (hlive _ hold)).2, hnever⟩).1
  | unended bad unkept =>
      obtain ⟨h, hlive, -⟩ := h
      exact (h.update hreply fun old hold =>
        ⟨.endedBadly bad ((h.law _ _ hold).unfinished (hlive _ hold)).2, hnever⟩).1
  | stored =>
      obtain ⟨h, hlive, houtside⟩ := h
      obtain ⟨hs, hlive', hstored⟩ := h.store hlive houtside hserved
      exact ⟨hs, hlive', hstored _ rfl⟩
  | unstored =>
      obtain ⟨h, hlive, houtside⟩ := h
      obtain ⟨hs, hlive', -⟩ := h.store hlive houtside hserved
      exact ⟨hs, hlive'⟩
  | finished =>
      obtain ⟨h, -, htarget, hvideo⟩ := h
      exact (h.update hreply fun old hold =>
        ⟨.finished rfl rfl rfl rfl htarget hvideo, hnever⟩).1
  | unfinished unkept =>
      obtain ⟨h, -, htarget, hvideo⟩ := h
      exact (h.update hreply fun old hold =>
        ⟨.finished rfl rfl rfl rfl htarget hvideo, hnever⟩).1
  | failed =>
      obtain ⟨h, hlive⟩ := h
      exact (h.update hreply fun old hold =>
        ⟨.endedBadly (Or.inl rfl) ((h.law _ _ hold).unfinished (hlive _ hold)).2, hnever⟩).1
  | released =>
      cases hreply
      exact RecordsHold.congr h rfl rfl rfl rfl
  | dropped =>
      cases hreply
      exact RecordsHold.congr h rfl rfl rfl rfl
  | clean closed => exact (h.read hreply).1
  | @doubted job unfinished =>
      obtain ⟨hs, hjobs, hread⟩ := h.read hreply
      refine ⟨hs, ?_⟩
      intro job' hjob'
      rw [hjobs, hread job rfl] at hjob'
      cases hjob'
      exact unfinished
  | cleaned =>
      obtain ⟨h, hlive⟩ := h
      exact (h.update hreply fun old hold =>
        ⟨.endedBadly (Or.inl rfl) ((h.law _ _ hold).unfinished (hlive _ hold)).2, hnever⟩).1

end Work

/-! ## A submission -/

section Submission

variable {crew : Crew} {waiting : String → Bool}

/-- A job that was just made: it waits for nothing, and its record is a fresh one. -/
structure NewJob (waiting : String → Bool) (s : Studio) (id : String) : Prop where
  waits : waiting id = false
  fresh : s.IsFreshJob id

/-- What is known in each stage of a submission. -/
def SubmitFact (crew : Crew) (waiting : String → Bool) : SubmitStage → Studio → Prop
  | .asked, s | .known _, s | .doubtful _, s | .wanting, s => RecordsHold crew waiting s
  | .finished job, s => RecordsHold crew waiting s ∧ s.jobs.Has job.id
  | .copying source, s => RecordsHold crew waiting s ∧ s.jobs.Has source
  | .made source job, s =>
    RecordsHold crew waiting s ∧ NewJob waiting s job.id ∧ source ≠ job.id
  | .copied job path, s =>
    RecordsHold crew waiting s ∧ NewJob waiting s job.id ∧ path = s.videos.videoPath job.id ∧
      ∃ content, s.videos.video? s.disk job.id = some content
  | .vanished job, s | .created job, s | .taken job, s =>
    RecordsHold crew waiting s ∧ NewJob waiting s job.id
  | .answered answer, s =>
    RecordsHold crew waiting s ∧
      ∀ job task, answer = .ok (.enqueued job task) → s.IsFreshJob task.jobId

/-- Copying a video to a new job keeps the law, and the new job has its video if that
succeeds. -/
theorem RecordsHold.clone {s s' : Studio} (h : RecordsHold crew waiting s) {source target : String}
    (hnew : NewJob waiting s target) (hother : source ≠ target)
    {reply : Except ArtifactFault (Option String)}
    (hserves : s.Serves crew (videoCloned source target reply) s') :
    RecordsHold crew waiting s' ∧ NewJob waiting s' target ∧
      ∀ path, reply = .ok (some path) → path = s'.videos.videoPath target ∧
        ∃ content, s'.videos.video? s'.disk target = some content := by
  obtain ⟨refusal, -, hreply⟩ := hserves
  cases hreply
  have hsteady := s.videos.steady_clone s.disk source target
  have hdisk := h.onDisk (s.videos.clone source target s.disk).2 (by
    intro id job hjob hdone content hvideo
    refine ⟨content, ArtifactStore.video?_steady hsteady ?_ hvideo⟩
    intro hplace
    -- the new job is not done, so that it is another one
    rw [ArtifactStore.place_inj hplace] at hjob
    rw [hnew.fresh.2 job hjob] at hdone
    cases hdone)
  refine ⟨hdisk.congr rfl rfl rfl rfl, ⟨hnew.waits, hnew.fresh⟩, ?_⟩
  intro path hpath
  obtain ⟨htarget, content, -, hvideo⟩ := ArtifactStore.clone_eq_some hpath hother
  exact ⟨htarget, content, hvideo⟩

/-- What is known of the known job once its record is read. -/
theorem submitFact_read {s : Studio} {id : String} {job : Job} (h : RecordsHold crew waiting s)
    (hjob : s.jobs.record? id = some job.undated) :
    SubmitFact crew waiting (stageOfKnown job) s := by
  have hid : job.undated.id = id := h.order.own id job.undated hjob
  rw [stageOfKnown]
  split
  · refine ⟨h, ?_⟩
    rw [← hid] at hjob
    exact JobStore.has_of_record? hjob
  · split
    · exact h
    · exact h

/-- **Every turn of a submission keeps the law.** -/
theorem submitFact_turn {code : String} {quality : Quality} {allowRetry : Bool}
    {stage stage' : SubmitStage} {e : ServiceExchange} {s s' : Studio}
    (hfresh : Function.Injective crew.freshId)
    (hturn : SubmitTurn code quality allowRetry stage e stage') (hserves : s.Serves crew e s')
    (h : SubmitFact crew waiting stage s) : SubmitFact crew waiting stage' s' := by
  have hserved := hserves
  obtain ⟨refusal, promise, hreply⟩ := hserves
  have hsame : ∀ {s'' : Studio}, s''.jobs = s.jobs → s''.videos = s.videos →
      s''.disk = s.disk → s''.counts.made = s.counts.made → RecordsHold crew waiting s →
        RecordsHold crew waiting s'' :=
    fun hjobs hvideos hdisk hmade h => h.congr hjobs hvideos hdisk hmade
  have hfailed : ∀ {s'' : Studio} {fault : PipelineFault}, RecordsHold crew waiting s'' →
      SubmitFact crew waiting (.answered (.error fault)) s'' :=
    fun h => ⟨h, fun _ _ heq => by cases heq⟩
  cases hturn with
  | unknown =>
      obtain rfl := (Prod.mk.inj hreply).2
      exact hsame rfl rfl rfl rfl h
  | known id =>
      obtain rfl := (Prod.mk.inj hreply).2
      exact hsame rfl rfl rfl rfl h
  | unread fault => exact hfailed (RecordsHold.read h hreply).1
  | missing => exact (RecordsHold.read h hreply).1
  | @read id job =>
      obtain ⟨hs, hjobs, hread⟩ := RecordsHold.read h hreply
      have hjob : s'.jobs.record? id = some job.undated := by
        rw [hjobs]
        exact hread job rfl
      exact submitFact_read hs hjob
  | owned =>
      obtain rfl := (Prod.mk.inj hreply).2
      exact ⟨hsame rfl rfl rfl rfl h, fun _ _ heq => by cases heq⟩
  | foreign =>
      obtain rfl := (Prod.mk.inj hreply).2
      exact hsame rfl rfl rfl rfl h
  | unsought fault =>
      obtain rfl := (Prod.mk.inj hreply).2
      exact hfailed (hsame rfl rfl rfl rfl h.1)
  | lost =>
      obtain rfl := (Prod.mk.inj hreply).2
      exact hsame rfl rfl rfl rfl h.1
  | seen path =>
      obtain rfl := (Prod.mk.inj hreply).2
      exact ⟨hsame rfl rfl rfl rfl h.1, h.2⟩
  | unmade fault => exact hfailed (h.1.create hfresh hreply).1
  | made job =>
      obtain ⟨hs, hmade⟩ := h.1.create hfresh hreply
      obtain ⟨hnew, hwaits, hrecord⟩ := hmade job rfl
      refine ⟨hs, ⟨hwaits, hrecord⟩, ?_⟩
      rintro rfl
      exact hnew h.2
  | uncopied fault =>
      obtain ⟨h, hnew, hother⟩ := h
      exact hfailed (h.clone hnew hother hserved).1
  | vanished =>
      obtain ⟨h, hnew, hother⟩ := h
      obtain ⟨hs, hnew', -⟩ := h.clone hnew hother hserved
      exact ⟨hs, hnew'⟩
  | copied path =>
      obtain ⟨h, hnew, hother⟩ := h
      obtain ⟨hs, hnew', hpath⟩ := h.clone hnew hother hserved
      exact ⟨hs, hnew', hpath path rfl⟩
  | @discarded job last =>
      obtain ⟨h, hnew⟩ := h
      refine (h.update hreply fun old hold => ⟨.failed ?_, nofun⟩).1
      rw [hnew.fresh.2 old hold]
      rfl
  | undiscarded unkept =>
      obtain ⟨h, hnew⟩ := h
      refine hfailed (h.update hreply fun old hold => ⟨.failed ?_, nofun⟩).1
      rw [hnew.fresh.2 old hold]
      rfl
  | cached last =>
      obtain ⟨h, hnew, hpath, hvideo⟩ := h
      refine ⟨(h.update hreply fun old hold =>
        ⟨.finished ?_ rfl rfl rfl hpath hvideo, ?_⟩).1, fun _ _ heq => by cases heq⟩
      · rw [hnew.fresh.2 old hold]
        rfl
      · intro hw
        rw [hnew.waits] at hw
        cases hw
  | uncached unkept =>
      obtain ⟨h, hnew, hpath, hvideo⟩ := h
      refine hfailed (h.update hreply fun old hold =>
        ⟨.finished ?_ rfl rfl rfl hpath hvideo, ?_⟩).1
      · rw [hnew.fresh.2 old hold]
        rfl
      · intro hw
        rw [hnew.waits] at hw
        cases hw
  | uncreated fault => exact hfailed (RecordsHold.create h hfresh hreply).1
  | created job =>
      obtain ⟨hs, hmade⟩ := RecordsHold.create h hfresh hreply
      obtain ⟨-, hwaits, hrecord⟩ := hmade job rfl
      exact ⟨hs, hwaits, hrecord⟩
  | claimed =>
      cases hreply
      exact ⟨hsame rfl rfl rfl rfl h.1, h.2.waits, h.2.fresh⟩
  | remembered =>
      cases hreply
      refine ⟨hsame rfl rfl rfl rfl h.1, ?_⟩
      intro job task heq
      cases heq
      exact h.2.fresh

end Submission

/-! ## Giving a job up -/

/-- What is known in each stage of giving a job up that is not done. -/
def AbandonFact (crew : Crew) (waiting : String → Bool) (id : String) :
    AbandonStage → Studio → Prop
  | .begun, s | .freed, s =>
    RecordsHold crew waiting s ∧ ∀ job, s.jobs.record? id = some job → job.status ≠ .done
  | .complete, s => RecordsHold crew waiting s

/-- **Every turn of giving a job up keeps the law.** -/
theorem abandonFact_turn {crew : Crew} {waiting : String → Bool} {id reason : String}
    {stage stage' : AbandonStage} {e : ServiceExchange} {s s' : Studio}
    (hturn : AbandonTurn id reason stage e stage') (hserves : s.Serves crew e s')
    (h : AbandonFact crew waiting id stage s) : AbandonFact crew waiting id stage' s' := by
  obtain ⟨refusal, -, hreply⟩ := hserves
  cases hturn with
  | released =>
      cases hreply
      exact ⟨h.1.congr rfl rfl rfl rfl, h.2⟩
  | ended reply =>
      obtain ⟨h, hdone⟩ := h
      exact (h.update hreply fun old hold =>
        ⟨.endedBadly (Or.inl rfl) ((h.law _ _ hold).videoPath_eq_none (hdone old hold)), nofun⟩).1

/-! ## Whole chronicles -/

/-- Does a job wait?  It was enqueued, and its task was never worked off. -/
def isWaiting (past : List Entry) (id : String) : Bool :=
  past.any (fun e => e.deed.enqueued?.any (·.jobId == id)) && !past.any (·.deed.processes id)

/-- Any task may be worked off at any time, but only a job that waits may be given up, and
no video is deleted. -/
def GivesUpWaiting (past : List Entry) : Deed → Prop
  | .abandoned id _ _ => isWaiting past id = true
  | .deleted _ => False
  | .submitted .. | .processed .. | .restarted => True

section Chronicles

variable {crew : Crew} {start s s' : Studio} {past : List Entry}

/-- A deed that enqueues nothing lets no new job wait. -/
theorem isWaiting_next {deed : Deed} {id : String} (h : isWaiting (⟨deed, s, s'⟩ :: past) id = true) :
    (isWaiting past id = true ∨ ∃ task, deed.enqueued? = some task ∧ task.jobId = id) ∧
      deed.processes id = false := by
  simp only [isWaiting, List.any_cons, Bool.and_eq_true, Bool.or_eq_true, Bool.not_eq_true',
    Bool.or_eq_false_iff, Option.any_eq_true, beq_iff_eq] at h ⊢
  obtain ⟨hnew | hold, hprocesses, hnone⟩ := h
  · exact ⟨Or.inr hnew, hprocesses⟩
  · exact ⟨Or.inl ⟨hold, hnone⟩, hprocesses⟩

/-- **The records hold after every chronicle.** -/
theorem recordsHold_chronicle (hstart : start.IsNew) (hfresh : Function.Injective crew.freshId)
    (h : Chronicle (Studio.Serves crew) GivesUpWaiting start past s) :
    RecordsHold crew (isWaiting past) s := by
  induction h with
  | start =>
      refine ⟨?_, hstart.idsInOrder, nofun⟩
      intro id job hjob
      rw [hstart.record?] at hjob
      cases hjob
  | @next past s s' deed before allows takes ih =>
      cases deed with
      | submitted code quality allowRetry answer =>
          have hrun : Runs (Studio.Serves crew) (submit code quality allowRetry).run s answer s' :=
            takes
          have hend : ∃ stage', SubmitEnd stage' answer ∧
              SubmitFact crew (isWaiting past) stage' s' :=
            (follows_submit code quality allowRetry).run hrun ih (submitFact_turn hfresh)
          obtain ⟨_, rfl, hs, hnew⟩ := hend
          refine hs.more fun id hid => ?_
          rcases (isWaiting_next hid).1 with hold | ⟨task, htask, rfl⟩
          · exact Or.inl hold
          · rcases answer with fault | ⟨job | job | ⟨job, task'⟩⟩ <;> cases htask
            obtain ⟨has, hrecord⟩ := hnew job task rfl
            refine Or.inr ⟨has, fun job' hjob => ?_⟩
            rw [hrecord job' hjob]
            nofun
      | processed maxRetries task answer =>
          have hless : ∀ id, isWaiting (⟨.processed maxRetries task answer, s, s'⟩ :: past) id = true →
              isWaiting past id = true := by
            intro id hid
            rcases (isWaiting_next hid).1 with hold | ⟨task', htask, -⟩
            · exact hold
            · cases htask
          have hwaits : isWaiting (⟨.processed maxRetries task answer, s, s'⟩ :: past) task.jobId =
              false := by
            cases hid : isWaiting (⟨.processed maxRetries task answer, s, s'⟩ :: past) task.jobId
            · rfl
            · have hnot := (isWaiting_next hid).2
              simp [Deed.processes] at hnot
          have hrun : Runs (Studio.Serves crew) (process maxRetries task) s answer s' := takes
          have hend : ∃ stage', stage' = WorkStage.complete ∧ WorkFact crew
              (isWaiting (⟨.processed maxRetries task answer, s, s'⟩ :: past)) task stage' s' :=
            (follows_process maxRetries task).run hrun (ih.mono hless) (workFact_turn hwaits)
          obtain ⟨_, rfl, hs⟩ := hend
          exact hs
      | abandoned id reason answer =>
          have hrun : Runs (Studio.Serves crew) (abandon id reason).run s answer s' := takes
          have hend : ∃ stage', stage' = AbandonStage.complete ∧
              AbandonFact crew (isWaiting past) id stage' s' :=
            (follows_abandon id reason).run hrun ⟨ih, (ih.waits id allows).2⟩ abandonFact_turn
          obtain ⟨_, rfl, hs⟩ := hend
          refine RecordsHold.mono hs fun id' hid => ?_
          rcases (isWaiting_next hid).1 with hold | ⟨task, htask, -⟩
          · exact hold
          · cases htask
      | deleted id => cases allows
      | restarted =>
          obtain rfl : s' = { s with owned := [] } := takes
          have hs : RecordsHold crew (isWaiting past) { s with owned := [] } :=
            ih.congr rfl rfl rfl rfl
          refine hs.mono fun id hid => ?_
          rcases (isWaiting_next hid).1 with hold | ⟨task, htask, -⟩
          · exact hold
          · cases htask

/-- **The records say what is true.**  Take a new studio and any chronicle of it: code is
submitted, any task is worked off, any number of times, jobs that wait are given up, and
the service is started anew; the calls of the job store and of the cache may go wrong as
they like, and the renderer reports only fresh paths outside the folder of the stored
videos.  Then every record in the store keeps the law of its status. -/
theorem record_law (hstart : start.IsNew) (hfresh : Function.Injective crew.freshId)
    (h : Chronicle (Studio.Serves crew) GivesUpWaiting start past s)
    {id : String} {job : Job} (hjob : s.jobs.get id = .ok (some job)) :
    (job.status = .done → job.progress = 100 ∧ job.error = none ∧
      job.videoPath = some (Disk.join s.videos.root (id ++ ".mp4")) ∧
      s.disk.isFile (Disk.join s.videos.root (id ++ ".mp4")) = true) ∧
    (job.status = .failed ∨ job.status = .timeout →
      job.progress = 100 ∧ job.error.isSome = true ∧ job.videoPath = none) ∧
    (job.status.isTerminal = false → job.progress < 100 ∧ job.videoPath = none) := by
  have hold := recordsHold_chronicle hstart hfresh h
  have law := hold.law id _ (JobStore.record?_of_get hjob)
  refine ⟨fun hdone => ?_, law.ended, law.unfinished⟩
  obtain ⟨hprogress, herror, hpath, content, hvideo⟩ := law.done hdone
  obtain ⟨-, hread⟩ := ArtifactStore.video?_eq_some.mp hvideo
  exact ⟨hprogress, herror, hpath, Disk.isFile_iff.mpr ⟨content, hread⟩⟩

end Chronicles

/-- In the rehearsal the record of the filmed job keeps the law of a finished one. -/
theorem filmed_record_law :
    ∃ job, filmedStudio.jobs.get "a" = .ok (some job) ∧ job.status = .done ∧
      job.progress = 100 ∧ job.error = none ∧
      job.videoPath = some (Disk.join "videos" ("a" ++ ".mp4")) ∧
      filmedStudio.disk.isFile (Disk.join "videos" ("a" ++ ".mp4")) = true := by
  have hchronicle : Chronicle (Studio.Serves filmCrew) GivesUpWaiting filmStudio filmPast
      filmedStudio :=
    filmPast_chronicle (fun _ _ _ => Studio.serves_of_replies) trivial trivial
  obtain ⟨-, hroot, record, hrecord, hdone⟩ := film_rehearsed
  obtain ⟨job, hjob, rfl⟩ := JobStore.get_of_record? hrecord
  have law := record_law filmStudio_isNew letterId_injective hchronicle hjob
  rw [hroot] at law
  obtain ⟨hprogress, herror, hpath, hfile⟩ := law.1 hdone
  exact ⟨job, hjob, hdone, hprogress, herror, hpath, hfile⟩

end SceneRender
