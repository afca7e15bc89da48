import SceneRender.Proofs.Pipeline.Chronicle
import SceneRender.Proofs.Pipeline.Exchanges

/-!
# Where a video comes from

A video that a render leaves goes through several hands: it is stored under the job of the
task that is worked off, found again through the cache, and copied to other jobs, any
number of times.

So three things are carried through every exchange: what the cache names for a
fingerprint was returned for an input with that fingerprint; each job was returned for
one input only; and if a job is done, the file in its place was filmed for its input.
`filmFact_turn` and `sourceFact_turn` say that neither the work at a task nor a submission
does harm to this.
-/

namespace SceneRender

open Plan Pipeline ServiceExchange

/-! ## Inputs and videos -/

/-- While one studio became another one, a render for a task left a video with a
content. -/
def Studio.Filmed (crew : Crew) (s s' : Studio) (task : RenderTask) (content : ByteArray) : Prop :=
  ∃ later earlier code path,
    s'.record.rendered = later ++ (task.jobId, code, task.quality) :: earlier ∧
      s.record.rendered.length ≤ earlier.length ∧
      crew.render earlier.length task.jobId code task.quality = .video path (some content)

/-- A job was returned for an input. -/
def Returned (past : List Entry) (id : String) (quality : Quality) (code : String) : Prop :=
  ∃ e ∈ past, ∃ allowRetry submission,
    e.deed = .submitted code quality allowRetry (.ok submission) ∧ submission.job.id = id

/-- A video was filmed for an input: a task with that input was worked off, and meanwhile a
render left the video. -/
def FilmedFor (crew : Crew) (past : List Entry) (quality : Quality) (code : String)
    (content : ByteArray) : Prop :=
  ∃ e ∈ past, ∃ maxRetries task answer,
    e.deed = .processed maxRetries task answer ∧ task.quality = quality ∧ task.code = code ∧
      Studio.Filmed crew e.before e.after task content

/-- The file in the place of a job's video. -/
def Studio.file? (s : Studio) (id : String) : Option ByteArray :=
  s.disk.fileAt (s.videos.place s.disk id)

/-- What holds of cache, records and videos between two exchanges, where `origin` says which
input a job was returned for and `shown` which videos were filmed for an input. -/
structure Provenance (crew : Crew) (origin : String → Quality → String → Prop)
    (shown : Quality → String → ByteArray → Prop) (s : Studio) : Prop where
  order : Studio.IdsInOrder crew s
  there : ∀ id quality code, origin id quality code → s.jobs.Has id
  unique : ∀ id quality code quality' code', origin id quality code →
    origin id quality' code' → quality = quality' ∧ code = code'
  recalled : ∀ print id, s.cache.remembered? .render print = some id →
    ∃ quality code, origin id quality code ∧ inputPrint quality code = print
  videos : ∀ id quality code, origin id quality code → ∀ job, s.jobs.record? id = some job →
    job.status = .done → ∀ content, s.file? id = some content → shown quality code content

namespace Provenance

variable {crew : Crew} {origin : String → Quality → String → Prop}
  {shown shown' : Quality → String → ByteArray → Prop} {s s' : Studio} {refusal : Option String}

/-- More videos may have been filmed. -/
theorem mono (h : Provenance crew origin shown s)
    (hmore : ∀ quality code content, shown quality code content → shown' quality code content) :
    Provenance crew origin shown' s where
  order := h.order
  there := h.there
  unique := h.unique
  recalled := h.recalled
  videos id quality code hid job hjob hdone content hfile :=
    hmore _ _ _ (h.videos id quality code hid job hjob hdone content hfile)

/-- Only jobs, entries of the cache, videos and counts matter. -/
theorem congr (h : Provenance crew origin shown s) (hjobs : s'.jobs = s.jobs)
    (hcache : s'.cache.store.entries = s.cache.store.entries) (hvideos : s'.videos = s.videos)
    (hdisk : s'.disk = s.disk) (hmade : s'.counts.made = s.counts.made) :
    Provenance crew origin shown s' where
  order := by
    refine ⟨?_, ?_⟩
    · rw [hjobs, hmade]
      exact h.order.given
    · rw [hjobs]
      exact h.order.own
  there := by
    rw [hjobs]
    exact h.there
  unique := h.unique
  recalled := by
    simp only [ResultCache.remembered?, hcache]
    exact h.recalled
  videos := by
    simp only [Studio.file?, hjobs, hvideos, hdisk]
    exact h.videos

/-- The files may change as long as what is found for a finished job was filmed for it. -/
theorem onDisk (h : Provenance crew origin shown s) (d : Disk)
    (hfiles : ∀ id quality code, origin id quality code → ∀ job, s.jobs.record? id = some job →
      job.status = .done → ∀ content, d.fileAt (s.videos.place d id) = some content →
        shown quality code content) :
    Provenance crew origin shown { s with disk := d } where
  order := ⟨h.order.given, h.order.own⟩
  there := h.there
  unique := h.unique
  recalled := h.recalled
  videos := hfiles

/-- Files that stay as they are do no harm. -/
theorem steady (h : Provenance crew origin shown s) {changed : Disk.Place → Prop} {d : Disk}
    (hsteady : Disk.Steady changed s.disk d)
    (hother : ∀ id quality code, origin id quality code → ∀ job, s.jobs.record? id = some job →
      job.status = .done → ¬ changed (s.videos.place s.disk id)) :
    Provenance crew origin shown { s with disk := d } := by
  refine h.onDisk d ?_
  intro id quality code hid job hjob hdone content hfile
  rw [ArtifactStore.place_steady hsteady,
    hsteady.files _ (hother id quality code hid job hjob hdone)] at hfile
  exact h.videos id quality code hid job hjob hdone content hfile

/-- Looking a job up changes nothing. -/
theorem read (h : Provenance crew origin shown s) {id : String} {r : JobReply}
    (hreply : Studio.reply crew (.getJob id) (s.withRefusal refusal) = (r, s')) :
    Provenance crew origin shown s' ∧ s'.jobs = s.jobs ∧
      ∀ job, r = .ok (some job) → s.jobs.record? id = some job.undated := by
  obtain ⟨⟨n, rfl⟩, hfound⟩ := Studio.getJob_eq hreply
  exact ⟨h.congr rfl rfl rfl rfl rfl, rfl,
    fun job hjob => JobStore.record?_of_get (hfound job hjob)⟩

/-- An update does no harm unless it says that a job is done whose video is not the right
one. -/
theorem update (h : Provenance crew origin shown s) {id : String} {u : JobUpdate} {r : JobReply}
    (hreply : Studio.reply crew (.updateJob id u) (s.withRefusal refusal) = (r, s'))
    (hdone : ∀ old : Job, (old.apply u .epoch).status = .done → ∀ quality code,
      origin id quality code → ∀ content, s.file? id = some content →
        shown quality code content) :
    Provenance crew origin shown s' ∧ s.jobs.Updates id u r s'.jobs ∧ s'.videos = s.videos ∧
      s'.disk = s.disk := by
  have horder : Studio.IdsInOrder crew (s.withRefusal refusal) := ⟨h.order.given, h.order.own⟩
  have horder' := horder.reply hreply
  obtain ⟨jobs, counts, record, rfl, -, -, hupdates⟩ := Studio.updateJob_eq hreply
  refine ⟨⟨horder', ?_, h.unique, h.recalled, ?_⟩, hupdates, rfl, rfl⟩
  · intro id' quality code hid
    exact hupdates.has_iff.mpr (h.there id' quality code hid)
  · intro id' quality code hid job hjob hstatus content hfile
    rcases hupdates.record_cases hjob with hold | ⟨rfl, -, old, hold, rfl⟩
    · exact h.videos id' quality code hid job hold hstatus content hfile
    · exact hdone old hstatus quality code hid content hfile

/-- An update that does not say that a job is done does no harm. -/
theorem update_other (h : Provenance crew origin shown s) {id : String} {u : JobUpdate}
    {r : JobReply}
    (hreply : Studio.reply crew (.updateJob id u) (s.withRefusal refusal) = (r, s'))
    (hu : ∃ status, u.status = some status ∧ status ≠ .done) :
    Provenance crew origin shown s' := by
  obtain ⟨status, hstatus, hdone⟩ := hu
  refine (h.update hreply ?_).1
  intro old hnew
  have hkept : (old.apply u .epoch).status = status := by simp [Job.apply, hstatus]
  exact absurd (hkept.symm.trans hnew) hdone

/-- A job that is made was returned for nothing yet and is not done. -/
theorem create (h : Provenance crew origin shown s) (hfresh : Function.Injective crew.freshId)
    {r : Except StoreFault Job}
    (hreply : Studio.reply crew .createJob (s.withRefusal refusal) = (r, s')) :
    Provenance crew origin shown s' ∧ s'.videos = s.videos ∧ s'.disk = s.disk ∧
      (∀ id, s.jobs.Has id → ∀ job, s'.jobs.record? id = some job ↔ s.jobs.record? id = some job) ∧
      ∀ job, r = .ok job → ¬ s.jobs.Has job.id ∧ s'.jobs.Has job.id ∧
        ∀ job', s'.jobs.record? job.id = some job' → job'.status ≠ .done := by
  have horder : Studio.IdsInOrder crew (s.withRefusal refusal) := ⟨h.order.given, h.order.own⟩
  have horder' := horder.reply hreply
  have hnew : ¬ s.jobs.Has (crew.freshId s.counts.made) := h.order.next_new hfresh
  obtain ⟨jobs, counts, record, rfl, -, -, -, hcreates⟩ := Studio.createJob_eq hreply
  have hkept : ∀ id, s.jobs.Has id → ∀ job, jobs.record? id = some job ↔
      s.jobs.record? id = some job := by
    intro id hid job
    cases hcreates with
    | refused fault => exact Iff.rfl
    | made fresh has record others =>
        have hne : id ≠ crew.freshId s.counts.made := by
          rintro rfl
          exact hnew hid
        rw [JobStore.record?_congr (others id hne)]
        exact Iff.rfl
  refine ⟨⟨horder', ?_, h.unique, h.recalled, ?_⟩, rfl, rfl, hkept, ?_⟩
  · intro id quality code hid
    exact hcreates.has (h.there id quality code hid)
  · intro id quality code hid job hjob hstatus content hfile
    have hold := (hkept id (h.there id quality code hid) job).mp hjob
    exact h.videos id quality code hid job hold hstatus content hfile
  · rintro job rfl
    cases hcreates with
    | made fresh has record others =>
        have hid : job.id = crew.freshId s.counts.made := congrArg Job.id fresh
        rw [hid]
        refine ⟨hnew, has, ?_⟩
        intro job' hjob'
        rw [record job' hjob']
        nofun

end Provenance

/-! ## The work at a task -/

section Work

variable {crew : Crew} {origin : String → Quality → String → Prop}
  {known : Quality → String → ByteArray → Prop} {start s s' : Studio} {task : RenderTask}

/-- A video is known to be filmed for an input, or was filmed for the task that is being
worked off since the work began. -/
def ShownBy (crew : Crew) (known : Quality → String → ByteArray → Prop) (start s : Studio)
    (task : RenderTask) (quality : Quality) (code : String) (content : ByteArray) : Prop :=
  known quality code content ∨
    task.quality = quality ∧ task.code = code ∧ Studio.Filmed crew start s task content

/-- What holds throughout the work at a task. -/
structure Filming (crew : Crew) (origin : String → Quality → String → Prop)
    (known : Quality → String → ByteArray → Prop) (start : Studio) (task : RenderTask)
    (s : Studio) : Prop where
  provenance : Provenance crew origin (ShownBy crew known start s task) s
  later : start.record.rendered.length ≤ s.record.rendered.length

/-- The calls of the renderer are kept. -/
theorem Studio.Serves.rendered {e : ServiceExchange} (h : s.Serves crew e s') :
    ∃ more, s'.record.rendered = more ++ s.record.rendered := by
  obtain ⟨refusal, -, hreply⟩ := h
  have hrecord := (Studio.record_reply crew e.question (s.withRefusal refusal)).2.1
  rw [hreply] at hrecord
  exact ⟨_, hrecord⟩

/-- What was filmed stays filmed. -/
theorem Studio.Filmed.next {e : ServiceExchange} {content : ByteArray}
    (h : Studio.Filmed crew start s task content) (hserves : s.Serves crew e s') :
    Studio.Filmed crew start s' task content := by
  obtain ⟨later, earlier, code, path, hrendered, hlength, hrender⟩ := h
  obtain ⟨more, hmore⟩ := hserves.rendered
  refine ⟨more ++ later, earlier, code, path, ?_, hlength, hrender⟩
  rw [hmore, hrendered, List.append_assoc]

/-- An exchange that does no harm to what is known goes on with the work. -/
theorem Filming.next {e : ServiceExchange} (h : Filming crew origin known start task s)
    (hserves : s.Serves crew e s')
    (hs' : Provenance crew origin (ShownBy crew known start s task) s') :
    Filming crew origin known start task s' where
  provenance := hs'.mono fun quality code content hshown =>
    hshown.imp id fun ⟨hquality, hcode, hfilmed⟩ => ⟨hquality, hcode, hfilmed.next hserves⟩
  later := by
    obtain ⟨more, hmore⟩ := hserves.rendered
    rw [hmore, List.length_append]
    exact Nat.le_trans h.later (Nat.le_add_left _ _)

/-- What is known in each stage of the work at a task. -/
def FilmFact (crew : Crew) (origin : String → Quality → String → Prop)
    (known : Quality → String → ByteArray → Prop) (start : Studio) (task : RenderTask) :
    WorkStage → Studio → Prop
  | .filmed path, s =>
    Filming crew origin known start task s ∧ s.videos.holds s.disk path = false ∧
      ∀ content, s.disk.fileAt (s.disk.placeOf path) = some content →
        Studio.Filmed crew start s task content
  | .stored _, s =>
    Filming crew origin known start task s ∧
      ∀ content, s.file? task.jobId = some content → Studio.Filmed crew start s task content
  | _, s => Filming crew origin known start task s

/-- A render does no harm, and the file at the path that it reports was filmed. -/
theorem Filming.render {code : String} {outcome : RenderOutcome}
    (h : Filming crew origin known start task s)
    (hserves : s.Serves crew (ServiceExchange.rendered task.jobId code task.quality outcome) s') :
    Filming crew origin known start task s' ∧ ∀ path, outcome = .success path →
      s'.videos.holds s'.disk path = false ∧
      ∀ content, s'.disk.fileAt (s'.disk.placeOf path) = some content →
        Studio.Filmed crew start s' task content := by
  obtain ⟨refusal, hs', hsteady, hpath⟩ := Studio.serves_render hserves
  have hvideos : s'.videos = s.videos := by rw [hs']; rfl
  have hrendered : s'.record.rendered = (task.jobId, code, task.quality) :: s.record.rendered := by
    rw [hs']
  have hdisk : Provenance crew origin (ShownBy crew known start s task)
      { s with disk := s'.disk } :=
    h.provenance.steady hsteady fun id _ _ _ _ _ _ hother => hother id rfl
  refine ⟨h.next hserves (hdisk.congr ?_ ?_ hvideos rfl ?_), ?_⟩
  · rw [hs']; rfl
  · rw [hs']; rfl
  · rw [hs']; rfl
  · intro path hsuccess
    obtain ⟨houtside, hfile⟩ := hpath path hsuccess
    rw [hvideos]
    refine ⟨houtside, ?_⟩
    intro content hcontent
    exact ⟨[], s.record.rendered, code, path, hrendered, h.later, hfile content hcontent⟩

/-- Storing a filmed video does no harm, and the file of the job was filmed if it
succeeds. -/
theorem Filming.store {path : String} {reply : Except ArtifactFault String}
    (h : Filming crew origin known start task s)
    (hown : origin task.jobId task.quality task.code)
    (houtside : s.videos.holds s.disk path = false)
    (hfilmed : ∀ content, s.disk.fileAt (s.disk.placeOf path) = some content →
      Studio.Filmed crew start s task content)
    (hserves : s.Serves crew (videoKept task.jobId path reply) s') :
    Filming crew origin known start task s' ∧ ∀ target, reply = .ok target →
      ∀ content, s'.file? task.jobId = some content →
        Studio.Filmed crew start s' task content := by
  have hserved := hserves
  obtain ⟨refusal, -, hreply⟩ := hserves
  cases hreply
  rcases hput : (s.videos.put task.jobId path s.disk).1 with fault | target
  · have hdisk := h.provenance.steady (ArtifactStore.steady_put_error hput)
      fun _ _ _ _ _ _ _ hfalse => hfalse
    refine ⟨h.next hserved (hdisk.congr rfl rfl rfl rfl rfl), ?_⟩
    intro target htarget
    change (s.videos.put task.jobId path s.disk).1 = _ at htarget
    rw [hput] at htarget
    cases htarget
  · obtain ⟨-, content, hsource, hvideo⟩ := ArtifactStore.put_eq_ok hput houtside
    have hsteady := s.videos.steady_put s.disk task.jobId path
    have hstored := ArtifactStore.fileAt_of_video? hvideo
    have hnew : ∀ found, (s.videos.put task.jobId path s.disk).2.fileAt
        (s.videos.place (s.videos.put task.jobId path s.disk).2 task.jobId) = some found →
        Studio.Filmed crew start s task found := by
      intro found hfound
      rw [hstored] at hfound
      exact hfilmed found (hsource.trans hfound)
    have hdisk := h.provenance.onDisk (s.videos.put task.jobId path s.disk).2 (by
      intro id quality code hid job hjob hdone found hfound
      by_cases hother : id = task.jobId
      · subst hother
        obtain ⟨hquality, hcode⟩ := h.provenance.unique _ _ _ _ _ hown hid
        exact Or.inr ⟨hquality, hcode, hnew found hfound⟩
      · rw [ArtifactStore.place_steady hsteady, hsteady.files] at hfound
        · exact h.provenance.videos id quality code hid job hjob hdone found hfound
        · rintro (hplace | hplace)
          · exact hother (ArtifactStore.place_inj hplace)
          · exact ArtifactStore.placeOf_ne_place houtside id hplace.symm)
    refine ⟨h.next hserved (hdisk.congr rfl rfl rfl rfl rfl), ?_⟩
    intro _ _ found hfound
    exact (hnew found hfound).next hserved

/-- **Every turn of the work does no harm.** -/
theorem filmFact_turn {stage stage' : WorkStage} {e : ServiceExchange}
    (hown : origin task.jobId task.quality task.code) (hturn : WorkTurn task stage e stage')
    (hserves : s.Serves crew e s') (h : FilmFact crew origin known start task stage s) :
    FilmFact crew origin known start task stage' s' := by
  have hserved := hserves
  obtain ⟨refusal, promise, hreply⟩ := hserves
  have hread : ∀ {id : String} {r : JobReply}, Filming crew origin known start task s →
      Studio.reply crew (.getJob id) (s.withRefusal refusal) = (r, s') →
      Filming crew origin known start task s' :=
    fun h hreply => h.next hserved (h.provenance.read hreply).1
  have hother : ∀ {id : String} {u : JobUpdate} {r : JobReply},
      Filming crew origin known start task s →
      Studio.reply crew (.updateJob id u) (s.withRefusal refusal) = (r, s') →
      (∃ status, u.status = some status ∧ status ≠ .done) →
      Filming crew origin known start task s' :=
    fun h hreply hu => h.next hserved (h.provenance.update_other hreply hu)
  have hmoves : ∀ {u : JobUpdate} {before after : Nat}, MovesOn u before after →
      ∃ status, u.status = some status ∧ status ≠ .done := by
    rintro u before after ⟨⟨status, hstatus, hlive⟩, -, -, -⟩
    refine ⟨status, hstatus, ?_⟩
    rintro rfl
    cases hlive
  have hbad : ∀ {status : JobStatus}, status = .failed ∨ status = .timeout → status ≠ .done := by
    rintro status (rfl | rfl) <;> nofun
  cases hturn with
  | unseen fault => exact hread h hreply
  | missing => exact hread h hreply
  | closed terminal => exact hread h hreply
  | found unfinished => exact hread h hreply
  | moved moves => exact hother h hreply (hmoves moves)
  | stuck moves unkept => exact hother h hreply (hmoves moves)
  | filmed =>
      obtain ⟨hs, hpath⟩ := Filming.render h hserved
      exact ⟨hs, hpath _ rfl⟩
  | unfilmed failed => exact (Filming.render h hserved).1
  | repaired =>
      cases hreply
      exact Filming.next h hserved (h.provenance.congr rfl rfl rfl rfl rfl)
  | ended bad => exact hother h hreply ⟨_, rfl, hbad bad⟩
  | unended bad unkept => exact hother h hreply ⟨_, rfl, hbad bad⟩
  | stored =>
      obtain ⟨h, houtside, hfilmed⟩ := h
      obtain ⟨hs, hstored⟩ := h.store hown houtside hfilmed hserved
      exact ⟨hs, hstored _ rfl⟩
  | unstored =>
      obtain ⟨h, houtside, hfilmed⟩ := h
      exact (h.store hown houtside hfilmed hserved).1
  | finished =>
      obtain ⟨h, hfilmed⟩ := h
      refine h.next hserved (h.provenance.update hreply ?_).1
      intro old _ quality code hid content hfile
      obtain ⟨hquality, hcode⟩ := h.provenance.unique _ _ _ _ _ hown hid
      exact Or.inr ⟨hquality, hcode, hfilmed content hfile⟩
  | unfinished unkept =>
      obtain ⟨h, hfilmed⟩ := h
      refine h.next hserved (h.provenance.update hreply ?_).1
      intro old _ quality code hid content hfile
      obtain ⟨hquality, hcode⟩ := h.provenance.unique _ _ _ _ _ hown hid
      exact Or.inr ⟨hquality, hcode, hfilmed content hfile⟩
  | failed => exact hother h hreply ⟨_, rfl, nofun⟩
  | released =>
      cases hreply
      exact Filming.next h hserved (h.provenance.congr rfl rfl rfl rfl rfl)
  | dropped =>
      cases hreply
      exact Filming.next h hserved (h.provenance.congr rfl rfl rfl rfl rfl)
  | clean closed => exact hread h hreply
  | doubted unfinished => exact hread h hreply
  | cleaned => exact hother h hreply ⟨_, rfl, nofun⟩

end Work

/-! ## A submission -/

section Submission

variable {crew : Crew} {origin origin' : String → Quality → String → Prop}
  {shown : Quality → String → ByteArray → Prop} {s s' : Studio} {code : String}
  {quality : Quality} {refusal : Option String}

/-- The jobs that were returned once a submission of an input has its answer. -/
def OriginAfter (origin : String → Quality → String → Prop) (quality : Quality) (code : String)
    (answer : Except PipelineFault Submission) (id : String) (q : Quality) (c : String) : Prop :=
  origin id q c ∨
    (∃ submission, answer = .ok submission ∧ submission.job.id = id) ∧ quality = q ∧ code = c

/-- The record says that the job is done. -/
def Studio.IsDone (s : Studio) (id : String) : Prop :=
  ∃ job, s.jobs.record? id = some job ∧ job.status = .done

/-- The job is there and was returned for nothing yet. -/
structure Unreturned (origin : String → Quality → String → Prop) (s : Studio) (id : String) :
    Prop where
  unknown : ∀ quality code, ¬ origin id quality code
  there : s.jobs.Has id

namespace Provenance

/-- Only what the origins say matters. -/
theorem origin_congr (h : Provenance crew origin shown s)
    (hsame : ∀ id quality code, origin' id quality code ↔ origin id quality code) :
    Provenance crew origin' shown s := by
  have heq : origin' = origin := by
    funext id quality code
    exact propext (hsame id quality code)
  rw [heq]
  exact h

/-- A submission that ends in a fault returns no job. -/
theorem answerFault (h : Provenance crew origin shown s) (fault : PipelineFault) :
    Provenance crew (OriginAfter origin quality code (.error fault)) shown s := by
  refine h.origin_congr fun id q c => ⟨?_, Or.inl⟩
  rintro (hold | ⟨⟨submission, heq, -⟩, -⟩)
  · exact hold
  · cases heq

/-- A job may be returned again for its own input. -/
theorem answerKnown (h : Provenance crew origin shown s) (submission : Submission)
    (hknown : origin submission.job.id quality code) :
    Provenance crew (OriginAfter origin quality code (.ok submission)) shown s := by
  refine h.origin_congr fun id q c => ⟨?_, Or.inl⟩
  rintro (hold | ⟨⟨submission', heq, rfl⟩, rfl, rfl⟩)
  · exact hold
  · cases heq
    exact hknown

/-- A new job may be returned for an input when it is not done, or has a video that was
filmed for it. -/
theorem answerNew (h : Provenance crew origin shown s) (submission : Submission)
    (hnew : Unreturned origin s submission.job.id)
    (hvideo : s.IsDone submission.job.id → ∀ content,
      s.file? submission.job.id = some content → shown quality code content) :
    Provenance crew (OriginAfter origin quality code (.ok submission)) shown s where
  order := h.order
  there := by
    rintro id q c (hold | ⟨⟨submission', heq, rfl⟩, -⟩)
    · exact h.there id q c hold
    · cases heq
      exact hnew.there
  unique := by
    rintro id q c q' c' (hold | ⟨⟨submission', heq, rfl⟩, rfl, rfl⟩)
      (hold' | ⟨⟨submission'', heq', hid⟩, rfl, rfl⟩)
    · exact h.unique id q c q' c' hold hold'
    · cases heq'
      rw [← hid] at hold
      exact absurd hold (hnew.unknown _ _)
    · cases heq
      exact absurd hold' (hnew.unknown _ _)
    · exact ⟨rfl, rfl⟩
  recalled print id hid := by
    obtain ⟨q, c, hold, hprint⟩ := h.recalled print id hid
    exact ⟨q, c, Or.inl hold, hprint⟩
  videos := by
    rintro id q c (hold | ⟨⟨submission', heq, rfl⟩, rfl, rfl⟩) job hjob hdone content hfile
    · exact h.videos id q c hold job hjob hdone content hfile
    · cases heq
      exact hvideo ⟨job, hjob, hdone⟩ content hfile

/-- What is remembered for an input was returned for it. -/
theorem remember (h : Provenance crew origin shown s) {id : String}
    (hid : origin id quality code) :
    Provenance crew origin shown
      { s.withRefusal refusal with
        cache := (s.withRefusal refusal).cache.put .render (inputPrint quality code) id } where
  order := ⟨h.order.given, h.order.own⟩
  there := h.there
  unique := h.unique
  recalled print found hfound := by
    rcases ResultCache.remembered?_put_cases hfound with hold | ⟨rfl, rfl⟩
    · exact h.recalled print found hold
    · exact ⟨quality, code, hid, rfl⟩
  videos := h.videos

end Provenance

/-- What is known in each stage of a submission. -/
def SourceFact (crew : Crew) (origin : String → Quality → String → Prop)
    (shown : Quality → String → ByteArray → Prop) (quality : Quality) (code : String) :
    SubmitStage → Studio → Prop
  | .asked, s | .wanting, s | .vanished _, s => Provenance crew origin shown s
  | .known id, s => Provenance crew origin shown s ∧ origin id quality code
  | .doubtful job, s => Provenance crew origin shown s ∧ origin job.id quality code
  | .finished job, s =>
    Provenance crew origin shown s ∧ origin job.id quality code ∧ s.IsDone job.id
  | .copying source, s =>
    Provenance crew origin shown s ∧ origin source quality code ∧ s.IsDone source
  | .made source job, s =>
    Provenance crew origin shown s ∧ origin source quality code ∧ s.IsDone source ∧
      Unreturned origin s job.id
  | .copied job _, s =>
    Provenance crew origin shown s ∧ Unreturned origin s job.id ∧
      ∀ content, s.file? job.id = some content → shown quality code content
  | .created job, s | .taken job, s =>
    Provenance crew origin shown s ∧ Unreturned origin s job.id ∧ ¬ s.IsDone job.id
  | .answered answer, s => Provenance crew (OriginAfter origin quality code answer) shown s

/-- Copying a video to a new job does no harm, and the new job has a video that was filmed
for its input. -/
theorem Provenance.clone {source target : String} (h : Provenance crew origin shown s)
    (hsource : origin source quality code) (hdone : s.IsDone source)
    (hnew : Unreturned origin s target) {reply : Except ArtifactFault (Option String)}
    (hserves : s.Serves crew (videoCloned source target reply) s') :
    Provenance crew origin shown s' ∧ Unreturned origin s' target ∧
      ∀ path, reply = .ok (some path) →
        ∀ content, s'.file? target = some content → shown quality code content := by
  obtain ⟨refusal, -, hreply⟩ := hserves
  cases hreply
  have hsteady := s.videos.steady_clone s.disk source target
  have hdisk := h.steady hsteady (by
    intro id q c hid job hjob hdone hplace
    rw [ArtifactStore.place_inj hplace] at hid
    exact hnew.unknown q c hid)
  refine ⟨hdisk.congr rfl rfl rfl rfl rfl, ⟨hnew.unknown, hnew.there⟩, ?_⟩
  intro path hpath content hfile
  have hother : source ≠ target := by
    rintro rfl
    exact hnew.unknown _ _ hsource
  obtain ⟨-, found, hfound, hcopy⟩ := ArtifactStore.clone_eq_some hpath hother
  have hcontent : content = found :=
    Option.some.inj (hfile.symm.trans (ArtifactStore.fileAt_of_video? hcopy))
  obtain ⟨job, hjob, hstatus⟩ := hdone
  rw [hcontent]
  exact h.videos source quality code hsource job hjob hstatus found
    (ArtifactStore.fileAt_of_video? hfound)

/-- **Every turn of a submission does no harm**, if no other input has its fingerprint. -/
theorem sourceFact_turn {allowRetry : Bool} {stage stage' : SubmitStage} {e : ServiceExchange}
    (hfresh : Function.Injective crew.freshId)
    (hdistinct : ∀ id q c, origin id q c → inputPrint q c = inputPrint quality code →
      q = quality ∧ c = code)
    (hturn : SubmitTurn code quality allowRetry stage e stage') (hserves : s.Serves crew e s')
    (h : SourceFact crew origin shown quality code stage s) :
    SourceFact crew origin shown quality code stage' s' := by
  have hserved := hserves
  obtain ⟨refusal, promise, hreply⟩ := hserves
  cases hturn with
  | unknown =>
      obtain rfl := (Prod.mk.inj hreply).2
      exact Provenance.congr h rfl rfl rfl rfl rfl
  | known id =>
      obtain ⟨hget, rfl⟩ := Prod.mk.inj hreply
      have hrecall := ResultCache.remembered?_of_get hget
      obtain ⟨q, c, hid, hprint⟩ := Provenance.recalled h _ _ hrecall
      obtain ⟨rfl, rfl⟩ := hdistinct id q c hid hprint
      exact ⟨Provenance.congr h rfl rfl rfl rfl rfl, hid⟩
  | unread fault => exact (h.1.read hreply).1.answerFault _
  | missing => exact (h.1.read hreply).1
  | @read id job =>
      obtain ⟨h, hid⟩ := h
      obtain ⟨hs, hjobs, hread⟩ := h.read hreply
      have hjob := hread job rfl
      have hown : job.undated.id = id := h.order.own id _ hjob
      have hid' : origin job.id quality code := by
        rw [show job.id = id from hown]
        exact hid
      rw [stageOfKnown]
      split
      · next hdone =>
          refine ⟨hs, hid', job.undated, ?_, hdone⟩
          rw [hjobs, show job.id = id from hown]
          exact hjob
      · split
        · exact hs
        · exact ⟨hs, hid'⟩
  | owned =>
      obtain rfl := (Prod.mk.inj hreply).2
      have hs : Provenance crew origin shown (s.withRefusal refusal) :=
        h.1.congr rfl rfl rfl rfl rfl
      exact hs.answerKnown (.inFlight _) h.2
  | foreign =>
      obtain rfl := (Prod.mk.inj hreply).2
      exact h.1.congr rfl rfl rfl rfl rfl
  | unsought fault =>
      obtain rfl := (Prod.mk.inj hreply).2
      have hs : Provenance crew origin shown (s.withRefusal refusal) :=
        h.1.congr rfl rfl rfl rfl rfl
      exact hs.answerFault (.artifact fault)
  | lost =>
      obtain rfl := (Prod.mk.inj hreply).2
      exact h.1.congr rfl rfl rfl rfl rfl
  | seen path =>
      obtain rfl := (Prod.mk.inj hreply).2
      exact ⟨h.1.congr rfl rfl rfl rfl rfl, h.2.1, h.2.2⟩
  | unmade fault => exact (h.1.create hfresh hreply).1.answerFault _
  | made job =>
      obtain ⟨h, hsource, hdone⟩ := h
      obtain ⟨hs, -, -, hkept, hmade⟩ := h.create hfresh hreply
      obtain ⟨hnew, hthere, -⟩ := hmade job rfl
      refine ⟨hs, hsource, ?_, ⟨fun q c hid => hnew (h.there _ q c hid), hthere⟩⟩
      obtain ⟨known, hknown, hstatus⟩ := hdone
      exact ⟨known, (hkept _ (JobStore.has_of_record? hknown) known).mpr hknown, hstatus⟩
  | uncopied fault =>
      obtain ⟨h, hsource, hdone, hnew⟩ := h
      exact (h.clone hsource hdone hnew hserved).1.answerFault _
  | vanished =>
      obtain ⟨h, hsource, hdone, hnew⟩ := h
      exact (h.clone hsource hdone hnew hserved).1
  | copied path =>
      obtain ⟨h, hsource, hdone, hnew⟩ := h
      obtain ⟨hs, hnew', hvideo⟩ := h.clone hsource hdone hnew hserved
      exact ⟨hs, hnew', hvideo path rfl⟩
  | discarded last => exact Provenance.update_other h hreply ⟨.failed, rfl, by decide⟩
  | undiscarded unkept =>
      exact (Provenance.update_other h hreply ⟨.failed, rfl, by decide⟩).answerFault _
  | @cached job path last =>
      obtain ⟨h, hnew, hvideo⟩ := h
      obtain ⟨hs, hupdates, hvideos, hdisk⟩ := h.update hreply
        fun old _ q c hid => absurd hid (hnew.unknown q c)
      obtain ⟨old, hold, hlast⟩ := hupdates.answer
      have hown : old.id = job.id := h.order.own _ old hold
      have hid : last.id = job.id := (congrArg Job.id hlast).trans hown
      have hfile : ∀ id, s'.file? id = s.file? id := by
        intro id
        rw [Studio.file?, Studio.file?, hvideos, hdisk]
      refine hs.answerNew (.cached last) ⟨?_, ?_⟩ ?_
      · intro q c hreturned
        rw [show (Submission.cached last).job.id = job.id from hid] at hreturned
        exact hnew.unknown q c hreturned
      · rw [show (Submission.cached last).job.id = job.id from hid]
        exact hupdates.has_iff.mpr hnew.there
      · intro _ content hcontent
        rw [show (Submission.cached last).job.id = job.id from hid, hfile] at hcontent
        exact hvideo content hcontent
  | uncached unkept =>
      obtain ⟨h, hnew, -⟩ := h
      exact (h.update hreply fun old _ q c hid => absurd hid (hnew.unknown q c)).1.answerFault _
  | uncreated fault => exact (Provenance.create h hfresh hreply).1.answerFault _
  | created job =>
      obtain ⟨hs, -, -, -, hmade⟩ := Provenance.create h hfresh hreply
      obtain ⟨hnew, hthere, hrecord⟩ := hmade job rfl
      refine ⟨hs, ⟨fun q c hid => hnew (Provenance.there h _ q c hid), hthere⟩, ?_⟩
      rintro ⟨job', hjob', hdone⟩
      exact hrecord job' hjob' hdone
  | claimed =>
      obtain ⟨h, hnew, hdone⟩ := h
      cases hreply
      exact ⟨h.congr rfl rfl rfl rfl rfl, ⟨hnew.unknown, hnew.there⟩, hdone⟩
  | @remembered job =>
      obtain ⟨h, hnew, hdone⟩ := h
      cases hreply
      have hanswered : Provenance crew (OriginAfter origin quality code
          (.ok (.enqueued job ⟨job.id, code, quality, allowRetry⟩))) shown s :=
        h.answerNew _ hnew fun his => absurd his hdone
      exact hanswered.remember (Or.inr ⟨⟨_, rfl, rfl⟩, rfl, rfl⟩)

end Submission

end SceneRender
