import SceneRender.Program.Run
import Std.Time.DateTime.Timestamp

/-!
# The command line program

The outermost layer: it copies what the program may look at to a disk of its own,
namely the environment file, the usual settings file and every file that a word of
the command line names, runs the program on it, and prints.

Nothing is written back, no other program is started, no message is sent and no
socket is opened from here.  Validating a file and showing the settings need none
of that; rendering ends with a job that says so.
-/

namespace SceneRender.CommandLine

/-- The variables that the program looks at. -/
def variableNames : List String :=
  Settings.overrides.map (·.1) ++ [LogSettings.filterVariable, "TMPDIR"]

/-- The environment, as far as the program looks at it. -/
def readEnvironment : IO Environment :=
  variableNames.filterMapM fun name => do return (← IO.getEnv name).map fun value => (name, value)

/-- The paths that a word may name: itself, or what follows an equals sign. -/
def pathsOf (word : String) : List String :=
  match word.splitOn "=" with
  | _ :: rest@(_ :: _) => [word, "=".intercalate rest]
  | _ => [word]

/-- The environment files of a folder and of those above it. -/
def environmentFiles (place : Disk.Place) : List String :=
  (List.range (place.length + 1)).map fun n =>
    "/" ++ "/".intercalate (place.take n ++ [EnvironmentFile.fileName])

/-- Copies what is at a path. -/
def copyPath (d : Disk) (path : String) : IO Disk := do
  try
    let content ← IO.FS.readBinFile path
    let (_, d) := d.makeFolders (Database.parent path)
    return (d.write path content).toOption.getD d
  catch
    | .inappropriateType .. => return (d.makeFolders path).2
    | _ => return d

/-- Replies to a question to the machine. -/
def replyHere : (q : MachineQuestion) → IO q.Reply
  | .draw bound => IO.rand 0 (bound - 1)
  | .time => do
    let nanos := (← Std.Time.Timestamp.now).toNanosecondsSinceUnixEpoch.toInt
    return (⟨nanos / 1000000000, (nanos % 1000000000).toNat⟩ : Timestamp)
  | .launch _ d => return (LaunchReply.notStarted .unsupported, d)
  | .send _ => return (none : Option ModelReply)
  | .listen _ _ => return (.error LaunchFault.unsupported.message : Except String Unit)

/-- Runs the program with the words of a command line. -/
def runHere (words : List String) : IO UInt32 := do
  let working := Disk.names (← IO.currentDir).toString
  let start := { (Disk.empty.makeChain [] working).2 with working }
  let paths := environmentFiles working ++ Settings.usualPath :: words.flatMap pathsOf
  let d ← paths.foldlM copyPath start
  let (e, _) ← (Program.run words (← readEnvironment) d).runIn (V := machineVocabulary) replyHere
  IO.print e.output
  if let some complaint := e.complaint? then IO.eprint complaint
  return e.status.toUInt32

end SceneRender.CommandLine

/-- Runs the program. -/
def main (words : List String) : IO UInt32 := SceneRender.CommandLine.runHere words
