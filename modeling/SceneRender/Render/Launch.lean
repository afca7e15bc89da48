import SceneRender.Disk.Basic
import SceneRender.Plan
import SceneRender.Text.Blank
import SceneRender.Text.Lossy

/-!
# Starting programs

A program is started with arguments, in a folder and with a limit of time.  It
works on the disk and comes to an end, or runs out of time, or does not start at
all.  Who starts programs is asked through a plan; the disk goes out with the
question and comes back with the reply.

When a program ends badly, what it said is the diagnostic: what it wrote to its
error output or, if that is blank, to its output; the end of it when it is long.
-/

namespace SceneRender

/-! ## The tail of a text

A long text is cut down to its end.  The bound is in bytes, but no character is
split: one that begins before the bound is dropped with what precedes it.  Three
dots mark the cut.
-/

namespace Text

/-- The longest end of a character list with at most `max` bytes, given the number
of bytes of the whole list. -/
def keepEnd (max : Nat) : Nat → List Char → List Char
  | _, [] => []
  | size, c :: rest => if size ≤ max then c :: rest else keepEnd max (size - c.utf8Size) rest

/-- The text itself if it has at most `max` bytes, else its end behind three
dots. -/
def truncateTail (text : String) (max : Nat) : String :=
  if text.utf8ByteSize ≤ max then text
  else "..." ++ String.ofList (keepEnd max text.utf8ByteSize text.toList)

end Text

/-! ## Command lines -/

/-- A command line: a program and the arguments that always come first.  Words before the renderer
proper act as a wrapper around it. -/
structure RenderCommand where
  program : String
  arguments : List String
  deriving DecidableEq, Repr

namespace RenderCommand

/-- The wording for a command line without a word. -/
def emptyMessage : String := "renderer command is empty"

/-- Splits a command line at its blanks. -/
def ofString? (line : String) : Option RenderCommand :=
  match Text.words line with
  | [] => none
  | program :: arguments => some ⟨program, arguments⟩

/-- The words of a command line. -/
def words (c : RenderCommand) : List String := c.program :: c.arguments

end RenderCommand

/-! ## Launches -/

/-- A program to be started. -/
structure Launch where
  program : String
  arguments : List String
  /-- The folder in which it runs, unless it is the working folder. -/
  folder : Option String
  /-- The time that it may take, in milliseconds. -/
  limit : Nat
  deriving DecidableEq, Repr

/-- Does a NUL stand where the command line ends a word with one? -/
def Launch.hasNulByte (l : Launch) : Bool :=
  (l.program :: l.arguments).any (·.contains '\x00')

/-- Why a program does not start. -/
inductive LaunchFault where
  | disk (fault : DiskFault)
  | notExecutable
  | nulByte
  /-- Nobody here can start programs. -/
  | unsupported
  deriving DecidableEq, Repr

/-- The wording of a reason. -/
def LaunchFault.message : LaunchFault → String
  | disk fault => fault.message
  | notExecutable => "Permission denied (os error 13)"
  | nulByte => "nul byte found in provided data"
  | unsupported => "Function not implemented (os error 38)"

/-- A program that came to an end. -/
structure Ended where
  /-- Its exit status, unless a signal ended it. -/
  status : Option Nat
  output : ByteArray
  errors : ByteArray

/-- What becomes of a program. -/
inductive LaunchReply where
  | ended (e : Ended)
  | outOfTime
  | notStarted (fault : LaunchFault)

/-- Did the program run out of time? -/
def LaunchReply.isOutOfTime : LaunchReply → Bool
  | outOfTime => true
  | ended _ | notStarted _ => false

/-- What is asked of whoever starts programs. -/
def launchVocabulary : Vocabulary := ⟨Launch × Disk, fun _ => LaunchReply × Disk⟩

/-- A plan that starts programs. -/
abbrev LaunchPlan := Plan launchVocabulary

/-- Starts a program on a disk. -/
def LaunchPlan.start (launch : Launch) (d : Disk) : LaunchPlan (LaunchReply × Disk) :=
  Plan.question (V := launchVocabulary) (launch, d)

namespace Ended

/-- Did the program end well? -/
def isSuccess (e : Ended) : Bool := e.status == some 0

/-- The most bytes of a diagnostic. -/
def longestDiagnostic : Nat := 4000

/-- What the program said. -/
def said (e : Ended) : String :=
  let errors := Text.ofBytes e.errors
  Text.trim (if Text.isBlankText errors then Text.ofBytes e.output else errors)

/-- The wording for the end of a program that said nothing. -/
def statusMessage (e : Ended) : String :=
  match e.status with
  | some status => "Renderer exited with status " ++ toString status
  | none => "Renderer terminated by signal"

/-- The diagnostic of a program that ended badly. -/
def diagnostic (e : Ended) : String :=
  let said := e.said
  if said.isEmpty then e.statusMessage else Text.truncateTail said longestDiagnostic

end Ended

end SceneRender
