import SceneRender.Proofs.Artifact.Videos
import SceneRender.Proofs.Cache.Keys
import SceneRender.Proofs.Pipeline.Effects
import SceneRender.Proofs.Pipeline.Screening
import SceneRender.Proofs.Pipeline.SubmitTurns
import SceneRender.Proofs.Pipeline.WorkTurns

/-!
# Chronicles

A chronicle is what was done with a studio since it was new: code was submitted, tasks
were worked off, jobs were given up, videos were deleted, and the service was started
anew over the same stores.  Each entry keeps what came of the deed and the studio before
and after it; the latest entry comes first.

How the studio replies is left open: it may reply as `Studio.reply` has it, or its cache
may fail from call to call, or its renderer may be held to a promise.  Which deeds are
allowed after which entries is left open as well, so that each result names the rules
that it needs.
-/

namespace SceneRender

open Plan Pipeline ServiceExchange

/-- Something that is done with a studio, with what came of it. -/
inductive Deed where
  /-- Code was submitted. -/
  | submitted (code : String) (quality : Quality) (allowRetry : Bool)
      (answer : Except PipelineFault Submission)
  /-- A task was worked off. -/
  | processed (maxRetries : Nat) (task : RenderTask) (answer : Except PipelineFault JobStatus)
  /-- A job was given up. -/
  | abandoned (id reason : String) (answer : Except PipelineFault Unit)
  /-- The video of a job was deleted. -/
  | deleted (id : String)
  /-- The service was started anew: it owns nothing yet. -/
  | restarted

/-- An entry of a chronicle. -/
structure Entry where
  deed : Deed
  before : Studio
  after : Studio

namespace Deed

/-- The deed leads from one studio to another one, with exchanges of a given kind. -/
def Takes (exchange : Studio → ServiceExchange → Studio → Prop) : Deed → Studio → Studio → Prop
  | submitted code quality allowRetry answer, s, s' =>
    Runs exchange (submit code quality allowRetry).run s answer s'
  | processed maxRetries task answer, s, s' => Runs exchange (process maxRetries task) s answer s'
  | abandoned id reason answer, s, s' => Runs exchange (abandon id reason).run s answer s'
  | deleted id, s, s' => s' = { s with disk := (s.videos.delete id s.disk).2 }
  | restarted, s, s' => s' = { s with owned := [] }

/-- The task of the job that the deed enqueued. -/
def enqueued? : Deed → Option RenderTask
  | submitted _ _ _ (.ok (.enqueued _ task)) => some task
  | _ => none

/-- Does the deed work the task of a job off? -/
def processes (id : String) : Deed → Bool
  | processed _ task _ => task.jobId == id
  | submitted .. | abandoned .. | deleted _ | restarted => false

/-- Does the deed let go of a job? -/
def letsGo (id : String) : Deed → Bool
  | processed _ task _ => task.jobId == id
  | abandoned id' _ _ => id' == id
  | restarted => true
  | submitted .. | deleted _ => false

end Deed

/-- **A chronicle** from a studio on: every deed is allowed after the entries before it,
and leads from the studio of the last one to the next. -/
inductive Chronicle (exchange : Studio → ServiceExchange → Studio → Prop)
    (allowed : List Entry → Deed → Prop) (start : Studio) : List Entry → Studio → Prop
  | start : Chronicle exchange allowed start [] start
  | next {past : List Entry} {s s' : Studio} {deed : Deed}
      (before : Chronicle exchange allowed start past s) (allows : allowed past deed)
      (takes : deed.Takes exchange s s') :
      Chronicle exchange allowed start (⟨deed, s, s'⟩ :: past) s'

/-- Every entry of a chronicle tells where its deed led. -/
theorem Chronicle.takes_of_mem {exchange : Studio → ServiceExchange → Studio → Prop}
    {allowed : List Entry → Deed → Prop} {start s : Studio} {past : List Entry} {e : Entry}
    (h : Chronicle exchange allowed start past s) (he : e ∈ past) :
    e.deed.Takes exchange e.before e.after := by
  induction h with
  | start => cases he
  | next before allows takes ih =>
      rcases List.mem_cons.mp he with rfl | hold
      · exact takes
      · exact ih hold

/-- A task that was enqueued has the input of the submission and the id of its job. -/
theorem Chronicle.submitted_of_enqueued {exchange : Studio → ServiceExchange → Studio → Prop}
    {allowed : List Entry → Deed → Prop} {start s : Studio} {past : List Entry} {e : Entry}
    {task : RenderTask} (h : Chronicle exchange allowed start past s) (he : e ∈ past)
    (htask : e.deed.enqueued? = some task) :
    ∃ allowRetry job, job.id = task.jobId ∧
      e.deed = .submitted task.code task.quality allowRetry (.ok (.enqueued job task)) := by
  have htakes := h.takes_of_mem he
  obtain ⟨deed, before, after⟩ := e
  rcases deed with ⟨code, quality, allowRetry, _ | job | job | ⟨job, task'⟩⟩ | _ | _ | _ | _ <;>
    cases htask
  obtain rfl := task_of_enqueued (show Runs exchange (submit code quality allowRetry).run before
    (.ok (.enqueued job task)) after from htakes)
  exact ⟨allowRetry, job, rfl, rfl⟩

/-- A new studio: no jobs, nothing remembered, nothing owned. -/
structure Studio.IsNew (s : Studio) : Prop where
  jobs : ∃ backend, s.jobs = .empty backend
  cache : s.cache.store.entries = []
  owned : s.owned = []

/-- A new studio has no job. -/
theorem Studio.IsNew.not_has {s : Studio} (h : s.IsNew) (id : String) : ¬ s.jobs.Has id := by
  obtain ⟨backend, hjobs⟩ := h.jobs
  rw [JobStore.Has, hjobs, Classical.not_not]
  cases backend <;> rfl

/-- A new studio has no record. -/
theorem Studio.IsNew.record? {s : Studio} (h : s.IsNew) (id : String) :
    s.jobs.record? id = none := by
  obtain ⟨backend, hjobs⟩ := h.jobs
  rw [hjobs]
  cases backend <;> rfl

/-- A new studio remembers nothing. -/
theorem Studio.IsNew.remembered? {s : Studio} (h : s.IsNew) (ns : CacheNamespace) (print : String) :
    s.cache.remembered? ns print = none := by
  rw [ResultCache.remembered?, h.cache]
  rfl

/-- The ids of a new studio are in order, as there are none. -/
theorem Studio.IsNew.idsInOrder {crew : Crew} {s : Studio} (h : s.IsNew) :
    Studio.IdsInOrder crew s := by
  refine ⟨fun id hid => absurd hid (h.not_has id), fun id job hjob => ?_⟩
  rw [h.record?] at hjob
  cases hjob

/-! ## Exchanges -/

/-- The studio replies. -/
def Studio.Replies (crew : Crew) (s : Studio) (e : ServiceExchange) (s' : Studio) : Prop :=
  reply crew e.question s = (e.reply, s')

/-- The studio with a cache whose store refuses every call for some reason, or none. -/
def Studio.withRefusal (s : Studio) (refusal : Option String) : Studio :=
  { s with cache.store.refusal := refusal }

/-- May the renderer leave a video at the path?  Nothing is there yet, and it is not in
the folder of the stored videos. -/
def Studio.isFree (s : Studio) (path : String) : Bool :=
  (s.disk.node? (s.disk.placeOf path)).isNone && !s.videos.holds s.disk path

/-- Does the renderer keep its promise at the next call?  Whatever it reports as a video is
a fresh path outside the folder of the stored videos. -/
def Studio.keepsPromise (crew : Crew) (s : Studio) : ServiceQuestion → Bool
  | .render id code quality =>
    match s.nextRendering crew id code quality with
    | .video path _ => s.isFree path
    | .timeout | .failure _ => true
  | _ => true

/-- The studio replies, with a cache that may fail from call to call and a renderer that
keeps its promise. -/
def Studio.Serves (crew : Crew) (s : Studio) (e : ServiceExchange) (s' : Studio) : Prop :=
  ∃ refusal, s.keepsPromise crew e.question = true ∧
    reply crew e.question (s.withRefusal refusal) = (e.reply, s')

/-- The studio serves what it replies to while the renderer keeps its promise. -/
theorem Studio.serves_of_replies {crew : Crew} {s s' : Studio} {e : ServiceExchange}
    (promise : s.keepsPromise crew e.question = true) (h : s.Replies crew e s') :
    s.Serves crew e s' :=
  ⟨s.cache.store.refusal, promise, h⟩

/-- **A render that is served** leaves the stored videos alone.  What it reports as a video
lies outside their folder, and a file that is found there is the one that it left. -/
theorem Studio.serves_render {crew : Crew} {s s' : Studio} {id code : String} {quality : Quality}
    {outcome : RenderOutcome} (h : s.Serves crew (rendered id code quality outcome) s') :
    ∃ refusal, s' = { s.withRefusal refusal with
        disk := s'.disk, record.rendered := (id, code, quality) :: s.record.rendered } ∧
      Disk.Steady (fun p => ∀ id, p ≠ s.videos.place s.disk id) s.disk s'.disk ∧
      ∀ path, outcome = .success path → s.videos.holds s'.disk path = false ∧
        ∀ content, s'.disk.fileAt (s'.disk.placeOf path) = some content →
          s.nextRendering crew id code quality = .video path (some content) := by
  obtain ⟨refusal, promise, hreply⟩ := h
  obtain ⟨rfl, disk, rfl, hdisk⟩ := Studio.render_eq hreply
  have hnext : (s.withRefusal refusal).nextRendering crew id code quality =
      s.nextRendering crew id code quality := rfl
  rw [hnext] at hdisk ⊢
  have hfree : ∀ path content, s.nextRendering crew id code quality = .video path content →
      s.disk.node? (s.disk.placeOf path) = none ∧ s.videos.holds s.disk path = false := by
    intro path content hpath
    have hpromise : s.isFree path = true := by
      simpa [Studio.keepsPromise, rendered, hpath] using promise
    simpa [Studio.isFree] using hpromise
  refine ⟨refusal, rfl, ?_⟩
  rcases hdisk with rfl | ⟨path, content, hpath, hwrite⟩
  · refine ⟨Disk.Steady.refl _ _, ?_⟩
    intro path hsuccess
    rcases hleft : s.nextRendering crew id code quality with ⟨path', content⟩ | _ | _ <;>
      rw [hleft] at hsuccess <;> cases hsuccess
    obtain ⟨hnode, hheld⟩ := hfree path content hleft
    refine ⟨hheld, ?_⟩
    intro found hfound
    change s.disk.fileAt (s.disk.placeOf path) = some found at hfound
    rw [Disk.fileAt, hnode] at hfound
    cases hfound
  · obtain ⟨-, hheld⟩ := hfree path (some content) hpath
    obtain ⟨hread, hsteady⟩ := Disk.write_eq_ok hwrite
    refine ⟨hsteady.mono ?_, ?_⟩
    · rintro p rfl id'
      exact ArtifactStore.placeOf_ne_place hheld id'
    · intro path' hsuccess
      rw [hpath] at hsuccess ⊢
      cases hsuccess
      refine ⟨?_, ?_⟩
      · change s.videos.holds disk path = false
        rw [ArtifactStore.holds_steady hsteady]
        exact hheld
      · intro found hfound
        have hfile := (Disk.read_eq_ok.mp hread).2
        change disk.fileAt (disk.placeOf path) = some found at hfound
        rw [hfile] at hfound
        rw [Option.some.inj hfound]

/-! ## What the past tells -/

/-- The job that was enqueued last for an input. -/
def latest (quality : Quality) (code : String) (past : List Entry) : Option String :=
  past.findSome? fun e =>
    match e.deed.enqueued? with
    | some task => if task.quality = quality ∧ task.code = code then some task.jobId else none
    | none => none

/-- Is a job in hand?  It was enqueued, and since then its task was not worked off, it was
not given up, and the service was not started anew. -/
def inHand (id : String) : List Entry → Bool
  | [] => false
  | e :: past => e.deed.enqueued?.any (·.jobId == id) || inHand id past && !e.deed.letsGo id

/-- The canonical text of the input that a deed submits. -/
def Deed.text? : Deed → Option String
  | .submitted code quality _ _ => some (renderCanonical quality code)
  | .processed .. | .abandoned .. | .deleted _ | .restarted => none

/-- No other text among those submitted has the digest of a text. -/
def NoCollision (past : List Entry) (text : String) : Prop :=
  ∀ e ∈ past, ∀ other, e.deed.text? = some other → fingerprint other = fingerprint text →
    other = text

/-- **Inputs that were submitted have different fingerprints** if they are different. -/
theorem NoCollision.input_eq {past : List Entry} {quality quality' : Quality} {code code' : String}
    {allowRetry : Bool} {answer : Except PipelineFault Submission} {e : Entry}
    (h : NoCollision past (renderCanonical quality code)) (he : e ∈ past)
    (hdeed : e.deed = .submitted code' quality' allowRetry answer)
    (hprint : inputPrint quality' code' = inputPrint quality code) :
    quality' = quality ∧ code' = code := by
  refine renderCanonical_inj (h e he _ ?_ hprint)
  rw [hdeed]
  rfl

/-! ## A rehearsal -/

/-- Ids of more and more letters. -/
def letterId (n : Nat) : String := String.ofList (List.replicate (n + 1) 'a')

/-- The ids of the rehearsal differ. -/
theorem letterId_injective : Function.Injective letterId := by
  intro m n h
  have hlength := congrArg (fun id : String => id.toList.length) h
  simpa [letterId] using hlength

/-- A crew whose renders succeed. -/
def filmCrew : Crew := CrewScript.crew {} "spool" letterId (fun _ => default)

/-- A new studio with a folder for fresh videos. -/
def filmStudio : Studio :=
  { (default : Studio) with
    jobs := .memory [], cache := ⟨.empty⟩, videos := ⟨"videos"⟩
    disk := { working := [], nodes := [(["spool"], .folder Node.plainMode)] } }

/-- The studio of the rehearsal is new. -/
theorem filmStudio_isNew : filmStudio.IsNew := ⟨⟨.memory, rfl⟩, rfl, rfl⟩

/-- The submission of a scene, as a run. -/
def filmSubmitted (s : Studio) : Except PipelineFault Submission × Studio :=
  s.runPlan filmCrew (submit emptyScene .low false).run

/-- The task of the first submission. -/
def filmTask : RenderTask := ⟨"a", emptyScene, .low, false⟩

/-- The work at the task, as a run. -/
def filmProcessed (s : Studio) : Except PipelineFault JobStatus × Studio :=
  s.runPlan filmCrew (process 0 filmTask)

/-- The scene is submitted and its task is worked off. -/
def filmPast : List Entry :=
  let queued := (filmSubmitted filmStudio).2
  [⟨.processed 0 filmTask (filmProcessed queued).1, queued, (filmProcessed queued).2⟩,
    ⟨.submitted emptyScene .low false (filmSubmitted filmStudio).1, filmStudio, queued⟩]

/-- The studio with the video. -/
def filmedStudio : Studio := (filmProcessed (filmSubmitted filmStudio).2).2

/-- Nothing but the scene is submitted in the rehearsal. -/
theorem text_of_filmPast {e : Entry} {text : String} (he : e ∈ filmPast)
    (htext : e.deed.text? = some text) : text = renderCanonical .low emptyScene := by
  simp only [filmPast, List.mem_cons, List.not_mem_nil, or_false] at he
  rcases he with rfl | rfl
  · cases htext
  · exact (Option.some.inj htext).symm

/-- What the rehearsal comes to: the questions keep what they promise, and the job is done. -/
theorem film_rehearsed :
    ((submit emptyScene .low false).run.holdsAlong (Studio.reply filmCrew)
        (Studio.keepsPromise filmCrew) filmStudio = true ∧
      (process 0 filmTask).holdsAlong (Studio.reply filmCrew) (Studio.keepsPromise filmCrew)
        (filmSubmitted filmStudio).2 = true) ∧
    filmedStudio.videos.root = "videos" ∧
      ∃ record, filmedStudio.jobs.record? "a" = some record ∧ record.status = .done := by
  -- one evaluation of both runs
  have hruns : (((submit emptyScene .low false).run.holdsAlong (Studio.reply filmCrew)
          (Studio.keepsPromise filmCrew) filmStudio &&
        (process 0 filmTask).holdsAlong (Studio.reply filmCrew) (Studio.keepsPromise filmCrew)
          (filmSubmitted filmStudio).2) &&
      (filmedStudio.videos.root == "videos" &&
        (filmedStudio.jobs.record? "a").any fun record => record.status == .done)) = true := by
    decide +kernel
  simpa only [Bool.and_eq_true, Option.any_eq_true, beq_iff_eq] using hruns

/-- The entries when the scene is submitted in a studio and its task is worked off. -/
def filmPastIn (s : Studio) : List Entry :=
  let queued := (filmSubmitted s).2
  [⟨.processed 0 filmTask (filmProcessed queued).1, queued, (filmProcessed queued).2⟩,
    ⟨.submitted emptyScene .low false (filmSubmitted s).1, s, queued⟩]

/-- The studio with the video, from any studio. -/
def filmedIn (s : Studio) : Studio := (filmProcessed (filmSubmitted s).2).2

section

variable {exchange : Studio → ServiceExchange → Studio → Prop}
  {allowed : List Entry → Deed → Prop}
  (hexchange : ∀ s e s', s.keepsPromise filmCrew e.question = true → s.Replies filmCrew e s' →
    exchange s e s')

include hexchange

/-- From any studio the two deeds are a chronicle if their questions keep what they promise. -/
theorem filmPastIn_chronicle {s : Studio}
    (hsubmitted : allowed [] (.submitted emptyScene .low false (filmSubmitted s).1))
    (hprocessed : allowed (filmPastIn s).tail
      (.processed 0 filmTask (filmProcessed (filmSubmitted s).2).1))
    (hsubmit : (submit emptyScene .low false).run.holdsAlong (Studio.reply filmCrew)
      (Studio.keepsPromise filmCrew) s = true)
    (hprocess : (process 0 filmTask).holdsAlong (Studio.reply filmCrew)
      (Studio.keepsPromise filmCrew) (filmSubmitted s).2 = true) :
    Chronicle exchange allowed s (filmPastIn s) (filmedIn s) := by
  refine .next (.next .start hsubmitted ?_) hprocessed ?_
  · exact (runs_run_of_holdsAlong hsubmit).mono fun s e s' h => hexchange s e s' h.1 h.2
  · exact (runs_run_of_holdsAlong hprocess).mono fun s e s' h => hexchange s e s' h.1 h.2

/-- The rehearsal is a chronicle, with any kind of exchange that admits its replies. -/
theorem filmPast_chronicle
    (hsubmitted : allowed [] (.submitted emptyScene .low false (filmSubmitted filmStudio).1))
    (hprocessed : allowed filmPast.tail
      (.processed 0 filmTask (filmProcessed (filmSubmitted filmStudio).2).1)) :
    Chronicle exchange allowed filmStudio filmPast filmedStudio := by
  obtain ⟨⟨hsubmit, hprocess⟩, -⟩ := film_rehearsed
  exact filmPastIn_chronicle hexchange hsubmitted hprocessed hsubmit hprocess

end

end SceneRender
