import SceneRender.Pipeline.Question

/-!
# Submitting code

Code that is submitted becomes a job, unless the same code is known in the same
quality.

* The known job is done and its video is still there: a new job is made that is
  done at once, with a copy of that video.
* The known job is being worked on here: the answer is that job.
* Otherwise a new job is made, taken on and remembered as the known one.  This is
  so for a job that failed, that timed out, that nobody here works on, or whose
  video is gone.

One submission runs at a time.
-/

namespace SceneRender

namespace Pipeline

/-- The progress of a job that is over. -/
def finalProgress : Nat := 100

/-- The update that ends a job well. -/
def finishedUpdate (path : String) : JobUpdate :=
  (JobUpdate.reaching .done "done" finalProgress).withVideoPath path

/-- The update that ends a job badly. -/
def failedUpdate (reason : String) : JobUpdate :=
  (JobUpdate.reaching .failed "failed" finalProgress).withError reason

/-- The wording for a video that vanishes while it is being taken over. -/
def vanishedMessage : String := "Cached video disappeared"

/-- Makes a finished job with a copy of another job's video; nothing when that
video is gone. -/
def cloneFinished (source : String) : PipelinePlan (Option Job) := do
  match ← PipelinePlan.orFault .artifact (ServicePlan.findVideo source) with
  | none => return none
  | some _ =>
    let job ← PipelinePlan.createJob
    match ← PipelinePlan.orFault .artifact (ServicePlan.cloneVideo source job.id) with
    | none =>
      let _ ← PipelinePlan.updateJob job.id (failedUpdate vanishedMessage)
      return none
    | some path => return some (← PipelinePlan.updateJob job.id (finishedUpdate path))

/-- What is made of the job that is known for an input: a submission, or nothing
when a new job is needed. -/
def reuse (known : Job) : PipelinePlan (Option Submission) := do
  if known.status == .done then
    return (← cloneFinished known.id).map .cached
  else if known.status.isTerminal then return none
  else if ← ServicePlan.owns known.id then return some (.inFlight known)
  else return none

/-- Makes, takes on and remembers a new job. -/
def enqueue (fingerprint code : String) (quality : Quality) (allowRetry : Bool) :
    PipelinePlan Submission := do
  let job ← PipelinePlan.createJob
  ServicePlan.claim job.id
  ServicePlan.remember .render fingerprint job.id
  return .enqueued job ⟨job.id, code, quality, allowRetry⟩

/-- Submits code. -/
def submit (code : String) (quality : Quality) (allowRetry : Bool) :
    PipelinePlan Submission := do
  let print := fingerprint (renderCanonical quality code)
  let known ← match ← ServicePlan.lookUp .render print with
    | none => pure none
    | some id => PipelinePlan.getJob id
  let reused ← match known with
    | none => pure none
    | some job => reuse job
  match reused with
  | some submission => return submission
  | none => enqueue print code quality allowRetry

end Pipeline

end SceneRender
