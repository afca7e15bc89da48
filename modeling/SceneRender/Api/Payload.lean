import SceneRender.Http.MediaType
import SceneRender.Http.Message
import SceneRender.Pipeline.Task
import SceneRender.Schema.JsonText

/-!
# Payloads

What clients send in the bodies of their requests, and why a request is refused,
with the response that says so.  A body is read if its media type announces JSON
and it is not too long.
-/

namespace SceneRender

open SceneRender.Json SceneRender.Schema

/-! ## Refusals -/

/-- Why a request is refused. -/
inductive ApiFault where
  | notFound (message : String)
  | badRequest (message : String)
  /-- The request breaks rules. -/
  | invalid (problems : List String)
  | conflict (message : String)
  | unavailable (message : String)
  | internal (message : String)
  deriving DecidableEq, Repr

namespace ApiFault

/-- The status of a refusal. -/
def status : ApiFault → Nat
  | badRequest _ | invalid _ => 400
  | notFound _ => 404
  | conflict _ => 409
  | internal _ => 500
  | unavailable _ => 503

/-- The fields that say what is wrong. -/
def fields : ApiFault → List (String × Value)
  | notFound m | badRequest m | conflict m | unavailable m | internal m => [("error", .text m)]
  | invalid problems => [("error", .text "validation failed"), ("errors", Value.texts problems)]

/-- The response of a refusal. -/
def response (fault : ApiFault) : Response := .json fault.status (.record fault.fields)

/-- The refusal that a fault of the pipeline leads to. -/
def ofPipeline (fault : PipelineFault) : ApiFault :=
  match fault with
  | .jobNotFound _ => .notFound fault.message
  | .queueClosed => .unavailable fault.message
  | .store _ | .artifact _ => .internal fault.message

end ApiFault

/-! ## Bodies -/

/-- A request to render code. -/
structure RenderPayload where
  code : String
  quality : Option String
  retryOnError : Bool
  deriving DecidableEq, Repr

/-- What a request to render is filled in from. -/
def RenderPayload.blank : RenderPayload := ⟨"", none, true⟩

/-- The form of a request to render. -/
def RenderPayload.form : Form RenderPayload where
  name := "RenderRequest"
  fields := [
    ⟨"code", true, .string fun s p => { p with code := s }⟩,
    ⟨"quality", false, .string? fun s p => { p with quality := some s }⟩,
    ⟨"retry_on_error", false, .flag fun b p => { p with retryOnError := b }⟩]

/-- A request to revise code. -/
structure RevisionPayload where
  code : String
  instruction : String
  deriving DecidableEq, Repr

/-- What a request to revise is filled in from. -/
def RevisionPayload.blank : RevisionPayload := ⟨"", ""⟩

/-- The form of a request to revise. -/
def RevisionPayload.form : Form RevisionPayload where
  name := "RegenerateRequest"
  fields := [
    ⟨"code", true, .string fun s p => { p with code := s }⟩,
    ⟨"instruction", true, .string fun s p => { p with instruction := s }⟩]

/-- The most bytes that a body may have. -/
def longestBody : Nat := 2 * 1024 * 1024

/-- The wording for a body that does not announce JSON. -/
def notJsonMessage : String := "Expected request with \x60Content-Type: application/json\x60"

/-- The wording for a body that is too long. -/
def tooLongMessage : String := "Failed to buffer the request body: length limit exceeded"

/-- The wording for a body that is malformed or does not fit. -/
def unreadableMessage (p : JsonProblem) : String :=
  (if p.isMalformed then "Failed to parse the request body as JSON: "
    else "Failed to deserialize the JSON body into the target type: ") ++ p.messageWithPath

/-- Reads the body of a request by a form. -/
def readPayload {σ : Type} (form : Form σ) (start : σ) (r : Request) : Except ApiFault σ :=
  if !(r.header? "content-type").any MediaType.isJson then .error (.badRequest notJsonMessage)
  else if longestBody < r.body.utf8ByteSize then .error (.badRequest tooLongMessage)
  else match form.ofJsonText start r.body with
    | .ok payload => .ok payload
    | .error problem => .error (.badRequest (unreadableMessage problem))

end SceneRender
