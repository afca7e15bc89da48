import SceneRender.Api.Payload
import SceneRender.Generation.Assistant
import SceneRender.Http.Route
import SceneRender.Pipeline.Process

/-!
# Handlers

What the service does for each of its routes.  A handler is a plan that ends in a
response or in a refusal.

* New code comes from the cache if the same request was answered before by code
  that is valid and comes without a warning; only such code is remembered.
* Revised code is given out only if it is valid.
* Code to be rendered is refused at once if it is not valid and must not be
  repaired.  A job whose task cannot be dispatched is given up.
-/

namespace SceneRender

open SceneRender.Json

/-- What the handlers have to know. -/
structure ApiSettings where
  provider : String
  model : String
  defaultQuality : Quality
  deriving DecidableEq, Repr

/-- A plan that ends in a response or in a refusal. -/
abbrev ApiPlan := ExceptT ApiFault ServicePlan

namespace Api

/-! ## Wordings -/

/-- The warning that code comes from the cache. -/
def cachedWarning : String := "Served from generation cache"

/-- The wording for a request without code. -/
def emptyCodeMessage : String := "code must not be empty"

/-- The most characters of an instruction. -/
def longestInstruction : Nat := 500

/-- The wording for an instruction that is missing or too long. -/
def instructionMessage : String :=
  "instruction must be between 1 and " ++ toString longestInstruction ++ " characters"

/-- The wording for a job that is not there. -/
def noJobMessage (id : String) : String := "Job " ++ id ++ " not found"

/-- The wording for a job without a video, because it is not done. -/
def unfinishedMessage (id : String) (status : JobStatus) : String :=
  "Job " ++ id ++ " is not finished (status: " ++ status.name ++ ")"

/-- The wording for a video that is not there. -/
def noVideoMessage (id : String) : String := "Video for job " ++ id ++ " not found"

/-! ## Code -/

/-- Refuses code that is not valid. -/
def requireValid (code : String) : Except ApiFault Unit :=
  let verdict := Script.validate code
  if verdict.ok then .ok () else .error (.invalid verdict.errors)

/-- The response with new code. -/
def generatedResponse (settings : ApiSettings) (code : String) (warnings : List String) :
    Response :=
  .json 200 (.record [
    ("code", .text code), ("model", .text settings.model), ("warnings", Value.texts warnings)])

/-- The fingerprint of a request for new code. -/
def generationPrint (settings : ApiSettings) (request : GenerationRequest) : String :=
  fingerprint (generationCanonical settings.provider settings.model request.toJson.compact)

/-- Has new code made and says what is wrong with it. -/
def newCode (settings : ApiSettings) (request : GenerationRequest) :
    ServicePlan (String × List String) := do
  let reply ← ServicePlan.complete (generationPrompt request) .creative
  let (code, warnings) := Assistant.generated settings.provider request reply
  let verdict := Script.validate code
  if !verdict.ok then return (code, warnings ++ verdict.errors)
  else if warnings.isEmpty then
    ServicePlan.remember .generation (generationPrint settings request) code
    return (code, warnings)
  else return (code, warnings)

/-- Answers a request for new code. -/
def generate (settings : ApiSettings) (r : Request) : ApiPlan Response := do
  let request ← readPayload GenerationRequest.form .blank r
  let problems := request.problems
  if !problems.isEmpty then throw (.invalid (problems.map (·.message)))
  match ← ServicePlan.lookUp .generation (generationPrint settings request) with
  | some code => return generatedResponse settings code [cachedWarning]
  | none =>
    let (code, warnings) ← newCode settings request
    return generatedResponse settings code warnings

/-- Answers a request to revise code. -/
def regenerate (r : Request) : ApiPlan Response := do
  let payload ← readPayload RevisionPayload.form .blank r
  if Text.isBlankText payload.code then throw (.badRequest emptyCodeMessage)
  let length := payload.instruction.length
  if length == 0 || longestInstruction < length then throw (.badRequest instructionMessage)
  let reply ← ServicePlan.complete (revisionPrompt payload.code payload.instruction) .creative
  let code := Assistant.changed payload.code reply
  requireValid code
  return .json 200 (.record [("code", .text code)])

/-! ## Jobs -/

/-- Dispatches a task; a job whose task cannot be dispatched is given up. -/
def dispatch (task : RenderTask) : ApiPlan Unit := do
  match ← ServicePlan.dispatch task with
  | .ok () => return ()
  | .error fault =>
    let _ ← (Pipeline.abandon task.jobId fault.message).run
    throw (.ofPipeline fault)

/-- The quality of a request to render. -/
def requestedQuality (settings : ApiSettings) (payload : RenderPayload) :
    Except ApiFault Quality :=
  match payload.quality with
  | none => .ok settings.defaultQuality
  | some name =>
    match Quality.ofName? name with
    | some quality => .ok quality
    | none => .error (.badRequest (Quality.unknownMessage name))

/-- Answers a request to render code. -/
def render (settings : ApiSettings) (r : Request) : ApiPlan Response := do
  let payload ← readPayload RenderPayload.form .blank r
  if Text.isBlankText payload.code then throw (.badRequest emptyCodeMessage)
  let quality ← requestedQuality settings payload
  if !payload.retryOnError then requireValid payload.code
  match ← (Pipeline.submit payload.code quality payload.retryOnError).run with
  | .error fault => throw (.ofPipeline fault)
  | .ok submission =>
    match submission with
    | .enqueued _ task => dispatch task
    | .cached _ | .inFlight _ => pure ()
    let job := submission.job
    return .json 202 (.record [("job_id", .text job.id), ("status", .text job.status.name)])

/-- The job of an id. -/
def loadJob (id : String) : ApiPlan Job := do
  match ← ServicePlan.getJob id with
  | .error fault => throw (.internal fault.summary)
  | .ok none => throw (.notFound (noJobMessage id))
  | .ok (some job) => return job

/-- What clients are told about a job.  Where its video is stored stays inside. -/
def jobValue (job : Job) : Value := .record [
  ("job_id", .text job.id),
  ("status", .text job.status.name),
  ("progress", .natural job.progress),
  ("stage", .text job.stage),
  ("error", .textOrNull job.error),
  ("created_at", .text job.createdAt.sent),
  ("updated_at", .text job.updatedAt.sent)]

/-- Answers a request for the record of a job. -/
def jobStatus (id : String) : ApiPlan Response := do
  return .json 200 (jobValue (← loadJob id))

/-- The response with a video. -/
def videoResponse (id : String) (content : ByteArray) : Response where
  status := 200
  headers := [
    ("content-type", "video/mp4"),
    ("content-disposition", "attachment; filename=\"" ++ id ++ ".mp4\"")]
  body := .video content

/-- Answers a request for the video of a job. -/
def jobVideo (id : String) : ApiPlan Response := do
  let job ← loadJob id
  if job.status != .done then throw (.conflict (unfinishedMessage id job.status))
  match ← ServicePlan.findVideo id with
  | .error fault => throw (.internal fault.message)
  | .ok none => throw (.notFound (noVideoMessage id))
  | .ok (some path) =>
    match ← ServicePlan.readVideo path with
    | .ok content => return videoResponse id content
    | .error .notFound => throw (.notFound (noVideoMessage id))
    | .error fault => throw (.internal fault.message)

/-- Reads the id of a job in a path. -/
def withId (encoded : String) (handler : String → ApiPlan Response) : ServicePlan Response :=
  match PercentText.decode? encoded with
  | none => return .plain 400 Route.undecodableMessage
  | some id => do
    match ← (handler id).run with
    | .ok response => return response
    | .error fault => return fault.response

/-- The response of a handler. -/
def answered (handler : ApiPlan Response) : ServicePlan Response := do
  match ← handler.run with
  | .ok response => return response
  | .error fault => return fault.response

/-- Handles a request on a route whose method fits. -/
def handle (settings : ApiSettings) (route : Route) (r : Request) : ServicePlan Response :=
  match route with
  | .health => return .json 200 (.record [("status", .text "ok")])
  | .generate => answered (generate settings r)
  | .regenerate => answered (regenerate r)
  | .render => answered (render settings r)
  | .status id => withId id jobStatus
  | .video id => withId id jobVideo

end Api

end SceneRender
