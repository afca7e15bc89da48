import SceneRender.Render.Isolation
import SceneRender.Render.Launch

/-!
# A stand-in for the renderer

For rehearsals a small program takes the renderer's place.  It understands how it
is started in a container and on the host, looks at the scene, leaves files where
the video is expected, says what it was told to say, and ends as it was told to.
It also removes containers when asked.  A few usual programs stand beside it, so
that a command line can be wrapped; no other program is there.
-/

namespace SceneRender

/-- What the stand-in was told. -/
structure StandIn where
  /-- The word by which it is called. -/
  name : String
  /-- The files that it leaves; a name that ends in a slash is a folder. -/
  files : List String := []
  output : ByteArray := .empty
  errors : ByteArray := .empty
  /-- Does it go on until its time is up? -/
  hangs : Bool := false
  /-- Its exit status, unless a signal ends it. -/
  status : Option Nat := some 0
  /-- Its exit status when it removes a container. -/
  removalStatus : Nat := 0

/-- What the stand-in noted, the latest call first. -/
structure StandInNotes where
  calls : List (List String) := []
  /-- The scene that it saw last. -/
  scene : Option String := none
  /-- The modes of the mounts that it saw last, a line each. -/
  modes : Option String := none
  deriving DecidableEq, Repr

/-- A reply with the notes so far. -/
abbrev Noted := (LaunchReply × Disk) × StandInNotes

namespace StandIn

/-! ## Where it works -/

/-- The folder outside that is mounted at a place in the container. -/
def mountOf (arguments : List String) (place : String) : String :=
  let tail := ":" ++ place ++ ":rw"
  (arguments.findSome? fun a =>
    if a.endsWith tail then some (a.dropEnd tail.length).toString else none).getD ""

/-- Was it started in a container? -/
def isInContainer (arguments : List String) : Bool := arguments.head? == some "run"

/-- The folder of the scene. -/
def workspaceOf (launch : Launch) (arguments : List String) : String :=
  if isInContainer arguments then mountOf arguments "/workspace" else launch.folder.getD ""

/-- The folder of the video. -/
def outputOf (arguments : List String) : String :=
  if isInContainer arguments then mountOf arguments "/output" else (arguments[2]?).getD ""

/-- The mode of a folder in octal digits. -/
def modeLine (d : Disk) (path : String) : String :=
  match d.find path with
  | .ok (.folder mode) => String.ofList (Nat.toDigits 8 mode) ++ "\n"
  | _ => ""

/-! ## What it does -/

/-- Leaves a file below a folder. -/
def leave (folder : String) (d : Disk) (name : String) : Disk :=
  let path := Disk.join folder name
  if name.endsWith "/" then (d.makeFolders path).2
  else
    let (_, d) := d.makeFolders ("/".intercalate (path.splitOn "/").dropLast)
    (d.write path ("made " ++ name).toUTF8).toOption.getD d

/-- How it ends. -/
def ending (s : StandIn) : LaunchReply :=
  if s.hangs then .outOfTime else .ended ⟨s.status, s.output, s.errors⟩

/-- Notes what it sees. -/
def look (arguments : List String) (launch : Launch) (d : Disk) (notes : StandInNotes) :
    StandInNotes where
  calls := arguments :: notes.calls
  scene := (d.read (Disk.join (workspaceOf launch arguments) sceneFile)).toOption.bind
    String.fromUTF8?
  modes :=
    if isInContainer arguments then
      some (modeLine d (workspaceOf launch arguments) ++ modeLine d (outputOf arguments))
    else notes.modes

/-- Runs it with some arguments. -/
def run (s : StandIn) (arguments : List String) (launch : Launch) (d : Disk)
    (notes : StandInNotes) : Noted :=
  if arguments.head? == some "rm" then
    ((.ended ⟨some s.removalStatus, .empty, .empty⟩, d),
      { notes with calls := arguments :: notes.calls })
  else
    ((s.ending, s.files.foldl (leave (outputOf arguments)) d), look arguments launch d notes)

/-! ## The usual programs -/

/-- The usual programs. -/
inductive Usual where
  | success
  | failure
  /-- Runs another program. -/
  | wrapper
  /-- Runs a file of commands. -/
  | shell
  deriving DecidableEq, Repr

/-- The usual program that a word calls. -/
def usual? (word : String) : Option Usual :=
  let isCalled (name : String) : Bool :=
    word == name || word == "/bin/" ++ name || word == "/usr/bin/" ++ name
  if isCalled "true" then some .success
  else if isCalled "false" then some .failure
  else if isCalled "env" then some .wrapper
  else if isCalled "sh" then some .shell
  else none

/-- The end of a program that leaves nothing but a line about an error. -/
def quiet (status : Nat) (errors : String) : LaunchReply :=
  .ended ⟨some status, .empty, errors.toUTF8⟩

/-- Why a program that is not there does not start. -/
def absent (program : String) (launch : Launch) (d : Disk) : LaunchFault :=
  if program.contains '/' then
    let here := match launch.folder with
      | some folder => { d with working := Disk.names folder }
      | none => d
    match here.find program with
    | .ok _ => .notExecutable
    | .error fault => .disk fault
  else if program == "." || program == ".." then .notExecutable
  else .disk .notFound

/-- What the wrapper says about a program that does not start. -/
def wrapperMessage (word : String) (fault : LaunchFault) : String :=
  "env: '" ++ word ++ "': " ++ (fault.message.splitOn " (os error").headD "" ++ "\n"

/-- Runs a file of commands; only the stand-in is one. -/
def runShell (s : StandIn) (launch : Launch) (d : Disk) (notes : StandInNotes) :
    List String → Noted
  | [] => ((quiet 0 "", d), notes)
  | word :: arguments =>
    if word == s.name then s.run arguments launch d notes
    else if word.startsWith "-" then
      ((quiet 2 ("sh: 0: Illegal option " ++ (word.take 2).toString ++ "\n"), d), notes)
    else ((quiet 2 ("sh: 0: cannot open " ++ word ++ ": No such file\n"), d), notes)

/-- Starts the program that the first word calls.  Behind the wrapper, words that
define variables may come first, and a program that does not start is told of. -/
def start (s : StandIn) (launch : Launch) (d : Disk) (notes : StandInNotes)
    (isWrapped : Bool) : List String → Noted
  | [] => ((quiet 0 "", d), notes)
  | word :: arguments =>
    if isWrapped && word.contains '=' && !word.startsWith "-" then
      s.start launch d notes isWrapped arguments
    else if word == s.name then s.run arguments launch d notes
    else match usual? word with
      | some .success => ((quiet 0 "", d), notes)
      | some .failure => ((quiet 1 "", d), notes)
      | some .shell => s.runShell launch d notes arguments
      | some .wrapper => s.start launch d notes true arguments
      | none =>
        let fault := absent word launch d
        if isWrapped then ((quiet 127 (wrapperMessage word fault), d), notes)
        else ((.notStarted fault, d), notes)

/-- Replies to the start of a program. -/
def reply (s : StandIn) (q : Launch × Disk) (notes : StandInNotes) : Noted :=
  s.start q.1 q.2 notes false (q.1.program :: q.1.arguments)

end StandIn

end SceneRender
