import SceneRender.Pipeline.Studio

/-!
# A crew that follows a script

For rehearsals the crew beside the studio follows a script: what the renderer
leaves behind, what code is repaired to and what the language model says, each in
order, and which calls of the job store go wrong.  When a part of the script is
used up, renders succeed, repairs change nothing and the model is silent.
-/

namespace SceneRender

/-- A kind of call of the job store. -/
inductive CallKind where
  | create
  | get
  | update
  deriving DecidableEq, Repr

/-- The kind of a call. -/
def StoreCall.kind : StoreCall → CallKind
  | create => .create
  | get _ => .get
  | update _ _ => .update

/-- The status that a call writes. -/
def StoreCall.status? : StoreCall → Option JobStatus
  | update _ u => u.status
  | create | get _ => none

/-- A failure of the job store that the script asks for. -/
structure ScriptedFailure where
  kind : CallKind
  /-- The number of the call, from nought; any call unless it is given. -/
  number : Option Nat
  /-- The status that the call writes; any status unless it is given. -/
  status : Option JobStatus
  failure : StoreFailure

/-- Does the failure hit a call? -/
def ScriptedFailure.hits (f : ScriptedFailure) (number : Nat) (call : StoreCall) : Bool :=
  f.kind == call.kind && f.number.all (· == number) && f.status.all (call.status? == some ·)

/-- What the renderer leaves behind, as the script puts it. -/
inductive ScriptedRender where
  | succeed
  /-- It reports a video that is not there. -/
  | lose
  | timeout
  | fail (diagnostic : String)
  deriving DecidableEq, Repr

/-- A script. -/
structure CrewScript where
  failures : List ScriptedFailure := []
  renders : Array ScriptedRender := #[]
  repairs : Array (Option String) := #[]
  replies : Array (Option String) := #[]

/-- What the renderer leaves behind in the spool, at the call of a number. -/
def ScriptedRender.rendering (r : ScriptedRender) (spool : String) (number : Nat)
    (id : String) : Rendering :=
  match r with
  | succeed =>
    let n := toString (number + 1)
    .video (Disk.join spool (id ++ "-" ++ n ++ ".mp4"))
      (some ("video " ++ n ++ " for " ++ id).toUTF8)
  | lose => .video (Disk.join spool "vanished.mp4") none
  | timeout => .timeout
  | fail diagnostic => .failure diagnostic

/-- The crew that follows a script. -/
def CrewScript.crew (script : CrewScript) (spool : String) (freshId : Nat → String)
    (now : Nat → Timestamp) : Crew where
  freshId := freshId
  now := now
  storeFailure := fun n call => (script.failures.find? (·.hits n call)).map (·.failure)
  render := fun n id _ _ => ((script.renders[n]?).getD .succeed).rendering spool n id
  repair := fun n code _ => ((script.repairs[n]?).bind fun r => r).getD code
  complete := fun n _ =>
    match (script.replies[n]?).bind fun r => r with
    | some text => .ok text
    | none => .error .emptyResponse

end SceneRender
