import SceneRender.Pipeline.Task
import SceneRender.Render.Isolation
import SceneRender.Render.Launch
import SceneRender.Text.Quoted

/-!
# The renderer

A scene is rendered by a program in scratch folders of its own.  In a container
there are two: the workspace holds the scene, and the video is expected in the
output; the program in the container runs as another user, so both are opened to
others.  On the host there is one, which holds the scene and the media below it.

Whatever comes of it, the scratch folders are removed.  A video is copied to the
spool before that, under a name that no other render uses.  A container whose
program runs out of time is removed by force.
-/

namespace SceneRender

/-- Why a scene is not rendered. -/
inductive RenderFault where
  /-- A scratch folder cannot be made. -/
  | scratch (start path : String) (fault : DiskFault)
  /-- The scene cannot be written. -/
  | scene (fault : DiskFault)
  /-- A mount cannot be opened to others. -/
  | mount (name : String) (fault : DiskFault)
  | notStarted (program : String) (fault : LaunchFault)
  | ended (e : Ended)
  /-- There is no video. -/
  | noVideo
  /-- The spool cannot be made. -/
  | spool (path : String) (fault : DiskFault)
  /-- The video cannot be copied. -/
  | copy (path : String) (fault : DiskFault)

/-- The wording of a reason. -/
def RenderFault.message : RenderFault → String
  | scratch start path fault =>
    "Failed to create scratch directory (" ++ start ++ "): " ++ fault.message ++ " at path " ++
      Text.quoted path
  | scene fault => "Failed to write scene file: " ++ fault.message
  | mount name fault => "Failed to open " ++ name ++ " mount: " ++ fault.message
  | notStarted program fault =>
    "Failed to start renderer \x60" ++ program ++ "\x60: " ++ fault.message
  | ended e => e.diagnostic
  | noVideo => "Sandbox render finished but produced no artifact (output.mp4 missing)"
  | spool path fault => "Failed to create spool dir " ++ path ++ ": " ++ fault.message
  | copy path fault => "Failed to copy artifact to " ++ path ++ ": " ++ fault.message

/-- The parts of names by which one render differs from all others. -/
structure RenderMarks where
  scratch : String
  container : String
  video : String
  deriving DecidableEq, Repr

/-- A renderer. -/
structure Renderer where
  mode : RenderMode
  command : RenderCommand
  isolation : Isolation
  /-- The time that a render may take, in milliseconds. -/
  limit : Nat
  /-- Where videos are left. -/
  spool : String
  /-- Where scratch folders are made. -/
  scratch : String
  deriving DecidableEq, Repr

namespace Renderer

/-! ## Folders -/

/-- How the names of the scratch folders begin. -/
def workspaceStart : String := "renderforge-ws-"

/-- The beginning for the folder of the output. -/
def outputStart : String := "renderforge-out-"

/-- The beginning for the folder of a render on the host. -/
def hostStart : String := "renderforge-local-"

/-- The name of the video that is expected. -/
def videoName : String := "output.mp4"

/-- The time for the removal of a container, in milliseconds. -/
def removalLimit : Nat := 15000

/-- A plan on a disk that may end in a fault. -/
abbrev Work := ExceptT RenderFault (StateT Disk LaunchPlan)

/-- Changes the disk. -/
def change (fault : DiskFault → RenderFault) (act : Disk → Except DiskFault Disk) : Work Unit := do
  match act (← get) with
  | .ok d => set d
  | .error e => throw (fault e)

/-- Works in a new scratch folder, which is gone afterwards. -/
def withScratch {α : Type} (r : Renderer) (marks : RenderMarks) (start : String)
    (work : String → Work α) : Work α := do
  let path := Disk.join ((← get).absolute r.scratch) (start ++ marks.scratch)
  change (.scratch start path) (·.makeFolder path Node.privateMode)
  let result ← ExceptT.lift (work path).run
  modify (·.removeTree path)
  liftExcept result

/-- Writes the scene into a folder. -/
def writeScene (folder code : String) : Work Unit :=
  change .scene (·.write (Disk.join folder sceneFile) code.toUTF8)

/-- Runs the renderer's command with more arguments. -/
def start (r : Renderer) (arguments : List String) (folder : Option String) (limit : Nat) :
    Work LaunchReply := do
  let launch : Launch :=
    ⟨r.command.program, r.command.arguments ++ arguments, folder, limit⟩
  if launch.hasNulByte then return .notStarted .nulByte
  let (reply, d) ← ExceptT.lift (StateT.lift (LaunchPlan.start launch (← get)))
  set d
  return reply

/-- Copies a video to the spool. -/
def keepVideo (r : Renderer) (marks : RenderMarks) (id path : String) : Work String := do
  let (made, d) := (← get).makeFolders r.spool
  set d
  match made with
  | .error e => throw (.spool r.spool e)
  | .ok () =>
    let target := Disk.join r.spool (id ++ "-" ++ marks.video ++ ".mp4")
    change (.copy target) (·.copy path target)
    return target

/-- What comes of a program that was started: nothing when it is out of time. -/
def videoOf (r : Renderer) (marks : RenderMarks) (id : String) (find : Disk → Option String) :
    LaunchReply → Work (Option String)
  | .outOfTime => return none
  | .notStarted fault => throw (.notStarted r.command.program fault)
  | .ended e => do
    if e.isSuccess then
      match find (← get) with
      | some path => return some (← r.keepVideo marks id path)
      | none => throw .noVideo
    else throw (.ended e)

/-! ## In a container -/

/-- The name of the container of a render. -/
def containerName (marks : RenderMarks) (id : String) : String :=
  "renderforge-" ++ id ++ "-" ++ marks.container

/-- Renders in a container. -/
def renderInContainer (r : Renderer) (marks : RenderMarks) (id code : String)
    (quality : Quality) : Work (Option String) :=
  r.withScratch marks workspaceStart fun workspace =>
    r.withScratch marks outputStart fun output => do
      writeScene workspace code
      change (.mount "workspace") (·.setMode workspace 0o755)
      change (.mount "output") (·.setMode output 0o777)
      let container := containerName marks id
      let arguments := containerArguments r.isolation (← get).isThere container workspace output
        quality
      let reply ← r.start arguments none r.limit
      if reply.isOutOfTime then
        let _ ← r.start ["rm", "-f", container] none removalLimit
      r.videoOf marks id (fun d =>
        let path := Disk.join output videoName
        if d.isFile path then some path else none) reply

/-! ## On the host -/

/-- The arguments of a render on the host. -/
def hostArguments (media : String) (quality : Quality) : List String :=
  [quality.flag, "--media_dir", media, "-o", "output", sceneFile, sceneClass]

/-- Renders on the host. -/
def renderOnHost (r : Renderer) (marks : RenderMarks) (id code : String)
    (quality : Quality) : Work (Option String) :=
  r.withScratch marks hostStart fun workspace => do
    writeScene workspace code
    let media := Disk.join workspace "media"
    let reply ← r.start (hostArguments media quality) (some workspace) r.limit
    r.videoOf marks id (fun d => (d.filesNamed media videoName).head?) reply

/-! ## Rendering -/

/-- Renders a scene. -/
def render (r : Renderer) (marks : RenderMarks) (id code : String) (quality : Quality)
    (d : Disk) : LaunchPlan (RenderOutcome × Disk) := do
  let work := match r.mode with
    | .docker => r.renderInContainer marks id code quality
    | .host => r.renderOnHost marks id code quality
  let (result, d) ← work.run.run d
  let outcome : RenderOutcome := match result with
    | .ok (some path) => .success path
    | .ok none => .timeout
    | .error fault => .failure fault.message
  return (outcome, d)

end Renderer

end SceneRender
