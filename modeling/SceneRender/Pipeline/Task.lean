import SceneRender.Artifact.Store
import SceneRender.Job.Store
import SceneRender.Render.Quality

/-!
# Render tasks

The unit of work that is handed to the renderer's workers, what becomes of it,
and what can go wrong around it.
-/

namespace SceneRender

/-- One unit of work. -/
structure RenderTask where
  jobId : String
  code : String
  quality : Quality
  allowRetry : Bool
  deriving DecidableEq, Repr

/-- What one call of the renderer comes to. -/
inductive RenderOutcome where
  /-- A video, at a path outside any scratch space. -/
  | success (path : String)
  | timeout
  | failure (diagnostic : String)
  deriving DecidableEq, Repr

/-- What becomes of code that is submitted. -/
inductive Submission where
  /-- A finished render of the same input was taken over. -/
  | cached (job : Job)
  /-- The same input is being rendered under this job. -/
  | inFlight (job : Job)
  /-- A new job was made; its task has to be dispatched. -/
  | enqueued (job : Job) (task : RenderTask)
  deriving Repr

/-- The job of a submission. -/
def Submission.job : Submission → Job
  | cached job | inFlight job | enqueued job _ => job

/-- What goes wrong around a task.  What is wrong with the code itself is recorded
in its job and is no fault. -/
inductive PipelineFault where
  | jobNotFound (id : String)
  | store (fault : StoreFault)
  | artifact (fault : ArtifactFault)
  | queueClosed
  deriving Repr

/-- The wording of a fault. -/
def PipelineFault.message : PipelineFault → String
  | jobNotFound id => "Job " ++ id ++ " not found"
  | store fault => "Job store error: " ++ fault.summary
  | artifact fault => fault.message
  | queueClosed => "Dispatch queue is closed"

end SceneRender
