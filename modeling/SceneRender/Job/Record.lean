import SceneRender.Job.Timestamp
import SceneRender.Json.Value

/-!
# Job records

A job is queued, works through validating, rendering and retrying, and ends done,
failed or timed out.  The three final statuses are never left by the pipeline.

The record of a job, also as JSON, and the update of a record.  An update names
only the fields that it changes; a field that may be absent can also be cleared.
-/

namespace SceneRender

/-! ## The status of a job -/

/-- Where a job stands. -/
inductive JobStatus where
  | queued
  | validating
  | rendering
  | retrying
  | done
  | failed
  | timeout
  deriving DecidableEq, Repr, Inhabited

namespace JobStatus

/-- All statuses, in the order of a job's life. -/
def all : List JobStatus := [queued, validating, rendering, retrying, done, failed, timeout]

/-- The name that is stored and sent. -/
def name : JobStatus → String
  | queued => "queued"
  | validating => "validating"
  | rendering => "rendering"
  | retrying => "retrying"
  | done => "done"
  | failed => "failed"
  | timeout => "timeout"

/-- The status of a name. -/
def ofName? (name : String) : Option JobStatus := all.find? (·.name == name)

/-- The wording for a name that no status has. -/
def unknownMessage (name : String) : String := "Invalid job status: " ++ name

/-- Is the job over? -/
def isTerminal : JobStatus → Bool
  | done | failed | timeout => true
  | queued | validating | rendering | retrying => false

/-- Every status is found again by its name. -/
theorem ofName?_name (s : JobStatus) : ofName? s.name = some s := by
  cases s <;> decide

end JobStatus

/-! ## The record of a job -/

/-- The record of a job. -/
structure Job where
  id : String
  status : JobStatus
  /-- How far the job has come, in percent. -/
  progress : Nat
  stage : String
  error : Option String
  videoPath : Option String
  createdAt : Timestamp
  updatedAt : Timestamp
  deriving DecidableEq, Repr, Inhabited

/-- What a writer wants to change in a record; `some none` clears a field. -/
structure JobUpdate where
  status : Option JobStatus := none
  progress : Option Nat := none
  stage : Option String := none
  error : Option (Option String) := none
  videoPath : Option (Option String) := none
  deriving DecidableEq, Repr, Inhabited

namespace JobUpdate

/-- Moves a job to a status, a stage and a progress. -/
def reaching (status : JobStatus) (stage : String) (progress : Nat) : JobUpdate :=
  { status := some status, progress := some progress, stage := some stage }

/-- The update that also records an error. -/
def withError (u : JobUpdate) (error : String) : JobUpdate := { u with error := some (some error) }

/-- The update that also clears the error. -/
def clearError (u : JobUpdate) : JobUpdate := { u with error := some none }

/-- The update that also records where the video is. -/
def withVideoPath (u : JobUpdate) (path : String) : JobUpdate :=
  { u with videoPath := some (some path) }

end JobUpdate

namespace Job

/-- The most progress that a record shows. -/
def fullProgress : Nat := 100

/-- A fresh job. -/
def fresh (id : String) (now : Timestamp) : Job :=
  ⟨id, .queued, 0, "queued", none, none, now, now⟩

/-- The record after an update at a moment. -/
def apply (job : Job) (update : JobUpdate) (now : Timestamp) : Job :=
  { job with
    status := update.status.getD job.status
    progress := (update.progress.map (min · fullProgress)).getD job.progress
    stage := update.stage.getD job.stage
    error := update.error.getD job.error
    videoPath := update.videoPath.getD job.videoPath
    updatedAt := now }

/-- The record of a job as JSON, with all its fields. -/
def toJson (job : Job) : Json.Value := .record [
  ("job_id", .text job.id),
  ("status", .text job.status.name),
  ("progress", .natural job.progress),
  ("stage", .text job.stage),
  ("error", .textOrNull job.error),
  ("video_path", .textOrNull job.videoPath),
  ("created_at", .text job.createdAt.sent),
  ("updated_at", .text job.updatedAt.sent)]

end Job

end SceneRender
