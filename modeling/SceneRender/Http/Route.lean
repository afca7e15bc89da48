import SceneRender.Http.PercentText

/-!
# Routes

The paths that the service answers, and the methods that each of them takes.  A
path is taken apart at its slashes as it is written; only the part that holds the
id of a job is decoded.
-/

namespace SceneRender

/-- A path of the service. -/
inductive Route where
  | health
  | generate
  | regenerate
  | render
  /-- The record of a job, by its encoded id. -/
  | status (encodedId : String)
  /-- The video of a job, by its encoded id. -/
  | video (encodedId : String)
  deriving DecidableEq, Repr

namespace Route

/-- The route of a path. -/
def ofPath? (path : String) : Option Route :=
  match (path.toList.splitOn '/').map String.ofList with
  | ["", "health"] => some health
  | ["", "generate"] => some generate
  | ["", "regenerate"] => some regenerate
  | ["", "render"] => some render
  | ["", "status", id] => if id.isEmpty then none else some (status id)
  | ["", "video", id] => if id.isEmpty then none else some (video id)
  | _ => none

/-- Does a route only read? -/
def isReading : Route → Bool
  | health | status _ | video _ => true
  | generate | regenerate | render => false

/-- The methods that a route takes. -/
def methods (r : Route) : List String :=
  if r.isReading then ["GET", "HEAD"] else ["POST"]

/-- The methods of a route as a header names them. -/
def allowed (r : Route) : String := ",".intercalate r.methods

/-- The wording for an id whose bytes form no text. -/
def undecodableMessage : String := "Invalid URL: Invalid UTF-8 in \x60job_id\x60"

end Route

end SceneRender
