import SceneRender.Generation.Exchange
import SceneRender.Pipeline.Studio
import SceneRender.Render.Renderer
import SceneRender.Service.DatabaseName
import SceneRender.Settings.Basic

/-!
# Setting the service up

From settings to a service: the folders are made, the durable table is tried, and
the parts are put together.  The first folder that cannot be made ends the setup,
and so does a command line without a word.  A table that cannot be opened does
not: jobs and results then live in memory only.
-/

namespace SceneRender

/-! ## Fault reports -/

/-- A report of a fault: what went wrong at the surface, and the reasons below it, one below the
other. -/
structure FaultReport where
  message : String
  causes : List String := []
  deriving DecidableEq, Repr

namespace FaultReport

/-- The report of a fault at a higher level. -/
def within (r : FaultReport) (message : String) : FaultReport := ⟨message, r.message :: r.causes⟩

/-- The report on one line. -/
def joined (r : FaultReport) : String := ": ".intercalate (r.message :: r.causes)

/-- Begins the lines of a text, the first one differently. -/
def indentLines (first more text : String) : String :=
  first ++ ("\n" ++ more).intercalate (text.splitOn "\n")

/-- A number as it stands before a reason. -/
def label (n : Nat) : String :=
  let digits := toString n
  "".pushn ' ' (5 - digits.length) ++ digits ++ ": "

/-- The lines of the reasons. -/
def causeLines : List String → List String
  | [] => []
  | [cause] => [indentLines "    " "    " cause]
  | causes => causes.mapIdx fun n cause => indentLines (label n) "       " cause

/-- The report in full, with the reasons beneath: a single one is only indented, several are
numbered. -/
def full (r : FaultReport) : String :=
  if r.causes.isEmpty then r.message
  else r.message ++ "\n\nCaused by:\n" ++ "\n".intercalate (causeLines r.causes)

end FaultReport

/-! ## The durable table -/

namespace Database

/-- How the file of a table begins. -/
def mark : ByteArray := "SQLite format 3\x00".toUTF8

/-- The content of the file of a table.  Its rows are kept apart from the disk, so
only the mark counts. -/
def content : ByteArray := mark.push 0xFF

/-- The folder of a path. -/
def parent (path : String) : String :=
  let names := (path.splitOn "/").reverse.dropWhile fun name => name == "" || name == "."
  let above := names.tail.dropWhile fun name => name == "" || name == "."
  if above.isEmpty then if path.startsWith "/" then "/" else ""
  else "/".intercalate above.reverse

/-- Opens the file of a table, if it is one or can become one.  A table has to be
written to. -/
def openFile? (name : DatabaseName) (d : Disk) : Option Disk :=
  if name.isTransient then some d
  else if name.path.endsWith "/" || name.access == .readOnly then none
  else match d.read name.path with
    | .ok bytes =>
      if bytes.isEmpty then (d.write name.path content).toOption
      else if mark.toList.isPrefixOf bytes.toList then some d
      else none
    | .error _ =>
      if name.access == .create then (d.write name.path content).toOption else none

/-- Opens the table at a path, with the folders above it.  Answers with where jobs
are kept from now on. -/
def tryOpen (path : String) (d : Disk) : Backend × Disk :=
  match if (parent path).isEmpty then (.ok (), d) else d.makeFolders (parent path) with
  | (.error _, d) => (.memory, d)
  | (.ok (), d) =>
    match (DatabaseName.ofText? path).bind (openFile? · d) with
    | some d => (.table, d)
    | none => (.memory, d)

end Database

/-! ## Parts -/

/-- The language model that the settings name. -/
def ModelSettings.backend (m : ModelSettings) : ModelBackend :=
  match m.provider with
  | .ollama => .ollama m.ollamaBaseUrl m.ollamaModel
  | .openai => .openai m.openaiBaseUrl m.openaiModel m.openaiApiKey
  | .template => .template

/-- The renderer that the settings name; none when its command line has no word.
Scratch folders are made in the folder for temporary files unless another one is
set. -/
def Settings.renderer? (s : Settings) (temporary : String) : Option Renderer := do
  let command ← RenderCommand.ofString? (s.render.command.getD s.render.mode.defaultCommand)
  return {
    mode := s.render.mode
    command
    isolation := s.sandbox
    limit := s.render.timeoutSeconds * 1000
    spool := s.render.spoolDir
    scratch := s.render.scratchDir.getD temporary }

/-! ## Faults -/

/-- Why the service cannot be set up. -/
inductive SetupFault where
  | videos (fault : ArtifactFault)
  | spool (path : String) (fault : DiskFault)
  | scratch (path : String) (fault : DiskFault)
  | emptyCommand
  deriving DecidableEq, Repr

/-- What is reported about a fault of the artifact store. -/
def ArtifactFault.report (fault : ArtifactFault) : FaultReport where
  message := fault.message
  causes := match fault with
    | .invalidJobId _ => []
    | .disk _ fault => [fault.message]

/-- What is reported about a fault. -/
def SetupFault.report : SetupFault → FaultReport
  | videos fault => fault.report.within "Failed to create video storage root"
  | spool path fault => ⟨"Failed to create spool dir " ++ path, [fault.message]⟩
  | scratch path fault => ⟨"Failed to create scratch dir " ++ path, [fault.message]⟩
  | emptyCommand => ⟨RenderCommand.emptyMessage, []⟩

/-! ## The service -/

/-- A service that is set up. -/
structure Service where
  model : ModelBackend
  renderer : Renderer
  maxRetries : Nat
  deriving DecidableEq, Repr

namespace Service

/-- A folder that has to be there. -/
def requireFolder (fault : DiskFault → SetupFault) (path : String) :
    ExceptT SetupFault (StateM Disk) Unit := do
  let (made, d) := (← get).makeFolders path
  set d
  match made with
  | .ok () => return ()
  | .error e => throw (fault e)

/-- The service of some settings, and what it works on. -/
def setUp (s : Settings) (temporary : String) :
    ExceptT SetupFault (StateM Disk) (Service × Studio) := do
  let videos : ArtifactStore := ⟨s.render.storageRoot⟩
  requireFolder (fun e => .videos (.disk videos.root e)) videos.root
  requireFolder (.spool s.render.spoolDir) s.render.spoolDir
  if let some scratch := s.render.scratchDir then
    requireFolder (.scratch scratch) scratch
  let backend ← modifyGet (Database.tryOpen s.render.databasePath)
  match s.renderer? temporary with
  | none => throw .emptyCommand
  | some renderer =>
    let studio : Studio :=
      { jobs := .empty backend, cache := ⟨.empty⟩, videos, disk := ← get }
    return (⟨s.llm.backend, renderer, s.render.maxRetries⟩, studio)

end Service

end SceneRender
