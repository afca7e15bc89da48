import SceneRender.Pipeline.Submit
import SceneRender.Script.Validation
import SceneRender.Text.Blank

/-!
# Working a task off

A task is worked off in attempts.  Each attempt validates the code and, if it is
valid, renders it.  A failed attempt is followed by a repair of the code and by
another attempt as long as retries are left.  A timeout ends the job at once.
Whatever was repaired is validated again before it is rendered.

What happens is recorded in the job before and after each step, so that the
progress never goes back.  When the job cannot be worked off because the stores
fail, its record is brought to an end as far as they allow it.
-/

namespace SceneRender

namespace Pipeline

/-! ## Progress

Attempts are counted in words of 32 bits, and so is the progress before its cap.  The rules
are over all numbers here; up to `lastExactAttempt` none of them leaves a word, and the
settings allow far fewer attempts.
-/

/-- The last attempt in which each of the rules stays within a word. -/
def lastExactAttempt : Nat := (Nat.pow 2 32 - 1 - 40) / 20

/-- The progress of an attempt that validates; attempts are counted from one. -/
def validatingProgress (attempt : Nat) : Nat := min (10 + (attempt - 1) * 10) 40

/-- The progress after an attempt whose code is not valid. -/
def retryingValidationProgress (attempt : Nat) : Nat := min (20 + attempt * 15) 80

/-- The progress of an attempt that renders. -/
def renderingProgress (attempt : Nat) : Nat := min (20 + (attempt - 1) * 20) 80

/-- The progress after an attempt whose render failed. -/
def retryingRuntimeProgress (attempt : Nat) : Nat := min (40 + attempt * 20) 90

/-! ## Wordings -/

/-- The wording for code that is not valid. -/
def invalidMessage (verdict : Script.Verdict) : String := "Validation failed: " ++ verdict.joined

/-- The wording for a render that takes too long. -/
def timeoutMessage : String := "Render timed out"

/-- The wording for a video that cannot be stored. -/
def notStoredMessage (fault : ArtifactFault) : String :=
  "Failed to store video: " ++ fault.message

/-! ## Steps -/

/-- Moves a job on and answers with the progress that it has now, which is never
less than before. -/
def advance (id : String) (progress : Nat) (status : JobStatus) (stage : String)
    (target : Nat) (mark : JobUpdate → JobUpdate) : PipelinePlan Nat := do
  let progress := max progress target
  let _ ← PipelinePlan.updateJob id (mark (.reaching status stage progress))
  return progress

/-- Ends a job with an error. -/
def terminate (id : String) (status : JobStatus) (stage error : String) :
    PipelinePlan JobStatus := do
  let last := (JobUpdate.reaching status stage finalProgress).withError error
  let _ ← PipelinePlan.updateJob id last
  return status

/-- Has code repaired; a blank repair keeps it as it is. -/
def adoptRepair (code diagnostic : String) : ServicePlan String := do
  let candidate ← ServicePlan.repair code diagnostic
  return if Text.isBlankText candidate then code else candidate

/-- Stores the video of a successful render and ends the job well. -/
def finish (id path : String) : PipelinePlan JobStatus := do
  match ← ServicePlan.keepVideo id path with
  | .error fault =>
    let _ ← terminate id .failed "failed" (notStoredMessage fault)
    throw (.artifact fault)
  | .ok stored =>
    let _ ← PipelinePlan.updateJob id (finishedUpdate stored).clearError
    return .done

/-! ## Attempts -/

/-- Works a task off from an attempt on, with some retries left. -/
def attempts (task : RenderTask) (retries attempt : Nat) (code : String) (progress : Nat) :
    PipelinePlan JobStatus := do
  let progress ← advance task.jobId progress .validating "validating"
    (validatingProgress attempt) id
  let verdict := Script.validate code
  if verdict.ok then
    let progress ← advance task.jobId progress .rendering "rendering"
      (renderingProgress attempt) JobUpdate.clearError
    match ← ServicePlan.render task.jobId code task.quality with
    | .success path => finish task.jobId path
    | .timeout => terminate task.jobId .timeout "timeout" timeoutMessage
    | .failure diagnostic =>
      match retries with
      | 0 => terminate task.jobId .failed "failed" diagnostic
      | retries + 1 =>
        let progress ← advance task.jobId progress .retrying "retrying_runtime"
          (retryingRuntimeProgress attempt) (·.withError diagnostic)
        let code ← adoptRepair code diagnostic
        attempts task retries (attempt + 1) code progress
  else
    let message := invalidMessage verdict
    match retries with
    | 0 => terminate task.jobId .failed "validation" message
    | retries + 1 =>
      let progress ← advance task.jobId progress .retrying "retrying_validation"
        (retryingValidationProgress attempt) (·.withError message)
      let code ← adoptRepair code message
      attempts task retries (attempt + 1) code progress

/-- The most attempts that can be counted. -/
def mostAttempts : Nat := Nat.pow 2 32 - 1

/-- The retries that a task may make. -/
def retriesOf (task : RenderTask) (maxRetries : Nat) : Nat :=
  if task.allowRetry then min maxRetries (mostAttempts - 1) else 0

/-- Works a task off; a job that is over already is left as it is. -/
def workOff (maxRetries : Nat) (task : RenderTask) : PipelinePlan JobStatus := do
  match ← PipelinePlan.getJob task.jobId with
  | none => throw (.jobNotFound task.jobId)
  | some job =>
    if job.status.isTerminal then return job.status
    else attempts task (retriesOf task maxRetries) 1 task.code job.progress

/-- Brings the record of a job that was given up to an end, as far as the store
allows it. -/
def failUnfinished (id : String) (cause : PipelineFault) : ServicePlan Unit := do
  match ← ServicePlan.getJob id with
  | .ok (some job) =>
    if job.status.isTerminal then return ()
    else
      let _ ← ServicePlan.updateJob id (failedUpdate cause.message)
      return ()
  | .ok none | .error _ => return ()

/-- Works a task off, lets go of its job, and leaves no record unfinished. -/
def process (maxRetries : Nat) (task : RenderTask) :
    ServicePlan (Except PipelineFault JobStatus) := do
  let result ← (workOff maxRetries task).run
  ServicePlan.release task.jobId
  match result with
  | .ok status => return .ok status
  | .error fault =>
    failUnfinished task.jobId fault
    return .error fault

/-- Gives a job up that will never be worked off. -/
def abandon (id reason : String) : PipelinePlan Unit := do
  ServicePlan.release id
  let _ ← terminate id .failed "failed" reason
  return ()

end Pipeline

end SceneRender
