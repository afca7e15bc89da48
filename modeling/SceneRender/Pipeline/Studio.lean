import SceneRender.Cache.Store
import SceneRender.Pipeline.Question

/-!
# The studio

The studio is what the service works on: the job store, the result cache, the
disk with the stored videos, the jobs that are being worked on, and the tasks that
wait for a worker.  Beside it stands a crew whose answers are not the service's
own: the clock, the source of fresh ids, the renderer, the repair of code, the
language model, and the failures of the job store.  A crew answers by the number
of earlier calls, so that any course of events is the answer of some crew.

The studio also keeps a record of what was asked, in order.
-/

namespace SceneRender

/-! ## The crew -/

/-- A call of the job store. -/
inductive StoreCall where
  | create
  | get (id : String)
  | update (id : String) (change : JobUpdate)
  deriving DecidableEq, Repr

/-- How a call of the job store goes wrong, without any effect. -/
inductive StoreFailure where
  /-- The call is refused. -/
  | refused (fault : StoreFault)
  /-- The job is said to be missing. -/
  | missing
  deriving Repr

/-- What the renderer leaves behind. -/
inductive Rendering where
  /-- It reports a video at a path; with a content, the video is really there. -/
  | video (path : String) (content : Option ByteArray)
  | timeout
  | failure (diagnostic : String)

/-- The outcome of a rendering. -/
def Rendering.outcome : Rendering → RenderOutcome
  | video path _ => .success path
  | timeout => .timeout
  | failure diagnostic => .failure diagnostic

/-- The crew beside the studio.  Each call is known by its number, from nought. -/
structure Crew where
  /-- The id of a new job. -/
  freshId : Nat → String
  /-- The time. -/
  now : Nat → Timestamp
  /-- Does a call of the job store go wrong?  Calls of each kind are numbered apart. -/
  storeFailure : Nat → StoreCall → Option StoreFailure
  /-- What the renderer leaves behind for a job. -/
  render : Nat → String → String → Quality → Rendering
  /-- What code is repaired to. -/
  repair : Nat → String → String → String
  /-- What the language model says. -/
  complete : Nat → String → Except ModelFault String

/-! ## The studio -/

/-- The tasks that wait for a worker.  There is room for all of them: while a queue of limited
room is full, handing in a task is not over, and the request that does so has not been
answered.  `WorkerPool` is such a queue with its workers. -/
structure TaskQueue where
  waiting : List RenderTask := []
  isOpen : Bool := true
  deriving DecidableEq, Repr, Inhabited

namespace TaskQueue

/-- Accepts a task at the end, unless the queue is closed. -/
def push (q : TaskQueue) (task : RenderTask) : Except PipelineFault Unit × TaskQueue :=
  if q.isOpen then (.ok (), { q with waiting := q.waiting ++ [task] })
  else (.error .queueClosed, q)

/-- Accepts nothing any more; what waits goes on waiting. -/
def close (q : TaskQueue) : TaskQueue := { q with isOpen := false }

end TaskQueue

/-- What was asked of the surroundings, each list with the latest first. -/
structure StudioRecord where
  /-- The job records that were written. -/
  written : List Job := []
  /-- The calls of the renderer: job, code and quality. -/
  rendered : List (String × String × Quality) := []
  /-- The calls of the repair: code and diagnostic. -/
  repaired : List (String × String) := []
  /-- The prompts for the language model. -/
  prompts : List String := []
  deriving DecidableEq, Repr, Inhabited

/-- How often each kind of call was made. -/
structure CallCounts where
  creates : Nat := 0
  gets : Nat := 0
  updates : Nat := 0
  /-- Times that the clock was read. -/
  readings : Nat := 0
  /-- Jobs that were made. -/
  made : Nat := 0
  deriving DecidableEq, Repr, Inhabited

/-- The studio. -/
structure Studio where
  jobs : JobStore
  cache : ResultCache
  videos : ArtifactStore
  disk : Disk
  owned : List String := []
  queue : TaskQueue := {}
  counts : CallCounts := {}
  record : StudioRecord := {}
  deriving Inhabited

namespace Studio

/-- Notes that a record was written. -/
def noteWritten (s : Studio) (job : Job) : Studio :=
  { s with record.written := job :: s.record.written }

/-- Makes a job. -/
def createJob (crew : Crew) (s : Studio) : Except StoreFault Job × Studio :=
  let failure := crew.storeFailure s.counts.creates .create
  let s := { s with counts.creates := s.counts.creates + 1 }
  match failure with
  | some (.refused fault) => (.error fault, s)
  | some .missing | none =>
    let (r, jobs) := s.jobs.create (crew.freshId s.counts.made) (crew.now s.counts.readings)
    let s := { s with
      jobs, counts.made := s.counts.made + 1, counts.readings := s.counts.readings + 1 }
    match r with
    | .ok job => (.ok job, s.noteWritten job)
    | .error fault => (.error fault, s)

/-- Looks a job up. -/
def getJob (crew : Crew) (s : Studio) (id : String) :
    Except StoreFault (Option Job) × Studio :=
  let failure := crew.storeFailure s.counts.gets (.get id)
  let s := { s with counts.gets := s.counts.gets + 1 }
  match failure with
  | some (.refused fault) => (.error fault, s)
  | some .missing => (.ok none, s)
  | none => (s.jobs.get id, s)

/-- Updates the record of a job. -/
def updateJob (crew : Crew) (s : Studio) (id : String) (u : JobUpdate) :
    Except StoreFault (Option Job) × Studio :=
  let failure := crew.storeFailure s.counts.updates (.update id u)
  let s := { s with counts.updates := s.counts.updates + 1 }
  match failure with
  | some (.refused fault) => (.error fault, s)
  | some .missing => (.ok none, s)
  | none =>
    let (r, jobs) := s.jobs.update id u (crew.now s.counts.readings)
    let s := { s with jobs, counts.readings := s.counts.readings + 1 }
    match r with
    | .ok (some job) => (.ok (some job), s.noteWritten job)
    | r => (r, s)

/-- Has the renderer render code. -/
def render (crew : Crew) (s : Studio) (id code : String) (quality : Quality) :
    RenderOutcome × Studio :=
  let rendering := crew.render s.record.rendered.length id code quality
  let s := { s with record.rendered := (id, code, quality) :: s.record.rendered }
  match rendering with
  | .video path (some content) =>
    match s.disk.write path content with
    | .ok disk => (.success path, { s with disk })
    | .error _ => (.success path, s)
  | rendering => (rendering.outcome, s)

/-- Replies to a question of the service. -/
def reply (crew : Crew) : (q : ServiceQuestion) → Studio → q.Reply × Studio
  | .createJob, s => s.createJob crew
  | .getJob id, s => s.getJob crew id
  | .updateJob id u, s => s.updateJob crew id u
  | .lookUp ns print, s => (s.cache.get ns print, s)
  | .remember ns print value, s => ((), { s with cache := s.cache.put ns print value })
  | .findVideo id, s => (s.videos.get id s.disk, s)
  | .keepVideo id path, s =>
    let (r, disk) := s.videos.put id path s.disk
    (r, { s with disk })
  | .cloneVideo source target, s =>
    let (r, disk) := s.videos.clone source target s.disk
    (r, { s with disk })
  | .owns id, s => (s.owned.contains id, s)
  | .claim id, s => ((), { s with owned := if s.owned.contains id then s.owned else id :: s.owned })
  | .release id, s => ((), { s with owned := s.owned.filter (· != id) })
  | .render id code quality, s => s.render crew id code quality
  | .repair code diagnostic, s =>
    (crew.repair s.record.repaired.length code diagnostic,
      { s with record.repaired := (code, diagnostic) :: s.record.repaired })
  | .complete prompt _, s =>
    (crew.complete s.record.prompts.length prompt,
      { s with record.prompts := prompt :: s.record.prompts })
  | .dispatch task, s =>
    let (r, queue) := s.queue.push task
    (r, { s with queue })
  | .readVideo path, s => (s.disk.read path, s)

/-- Runs a plan in the studio. -/
def runPlan {α : Type} (crew : Crew) (p : ServicePlan α) (s : Studio) : α × Studio :=
  p.run (reply crew) s

end Studio

end SceneRender
