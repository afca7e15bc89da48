import SceneRender.Disk.Basic
import SceneRender.Text.Alphanumeric
import SceneRender.Text.Blank

/-!
# The environment file

A file named `.env` in the working folder, or in the nearest folder above it,
defines variables, one a line: `NAME=value`, perhaps after `export`.  A value may
stand between single quotes, which take everything literally, or between double
quotes, in which a line may end; a backslash takes the next character literally,
or makes a line feed of `n`.  `$NAME` and `${NAME}` stand for the value of another
variable.  After a blank a number sign begins a comment.

The file is read definition by definition.  The first one that is malformed ends
it; what came before counts.  A variable that is defined already is left alone.
-/

namespace SceneRender

/-- The variables of an environment; of two with one name the first counts. -/
abbrev Environment := List (String × String)

namespace EnvironmentFile

open SceneRender.Text

/-! ## Logical lines -/

/-- Where the end of a logical line is looked for. -/
inductive LineState where
  | plain
  | blank
  | escaped
  | single (escaped : Bool)
  | double (escaped : Bool)
  | comment
  deriving DecidableEq, Repr

namespace LineState

/-- Where a character leads outside of quotes. -/
def open? : Char → Option LineState
  | '\\' => some escaped
  | '"' => some (double false)
  | '\'' => some (single false)
  | _ => none

/-- Where a character leads. -/
def next (s : LineState) (c : Char) : LineState :=
  match s with
  | blank => if c == '#' then comment else (open? c).getD plain
  | plain =>
    if isBlank c && c != '\n' && c != '\r' then blank else (open? c).getD plain
  | escaped => plain
  | single true => single false
  | single false => if c == '\\' then single true else if c == '\'' then plain else single false
  | double true => double false
  | double false => if c == '\\' then double true else if c == '"' then plain else double false
  | comment => comment

end LineState

/-- Reads a line: what counts of it, and where that leads. -/
def scanLine (s : LineState) : List Char → List Char × LineState
  | [] => ([], s)
  | c :: rest =>
    match s.next c with
    | .comment => ([], .comment)
    | s =>
      let (taken, s) := scanLine s rest
      (c :: taken, s)

/-- A line without its end. -/
def dropLineEnd (cs : List Char) : List Char :=
  match cs.reverse with
  | '\n' :: '\r' :: rest => rest.reverse
  | '\n' :: rest => rest.reverse
  | _ => cs

/-- Does a number sign begin the line? -/
def isComment (cs : List Char) : Bool := (cs.dropWhile isBlank).head? == some '#'

/-- Joins physical lines to logical ones: a line goes on while a quote is open or a
blank is its last character.  What is left open at the end, or a line that is no
text, is the end of the file. -/
def logicalLines (taken : List Char) (s : LineState) :
    List (Option (List Char)) → List (Option (List Char))
  | [] => if s = .plain then [] else [none]
  | none :: _ => [none]
  | some line :: rest =>
    if isComment (taken ++ line) then some [] :: logicalLines [] .plain rest
    else
      let (more, s) := scanLine s line
      match s with
      | .comment => some (taken ++ more) :: logicalLines [] .plain rest
      | .plain => some (dropLineEnd (taken ++ more)) :: logicalLines [] .plain rest
      | s => logicalLines (taken ++ more) s rest

/-- The mark that may stand before the text of a file. -/
def byteOrderMark : List UInt8 := [0xEF, 0xBB, 0xBF]

/-- Splits bytes behind each line feed. -/
def splitLines (line : List UInt8) : List UInt8 → List (List UInt8)
  | [] => if line.isEmpty then [] else [line.reverse]
  | 10 :: rest => (10 :: line).reverse :: splitLines [] rest
  | b :: rest => splitLines (b :: line) rest

/-- The physical lines of a file, with their ends. -/
def physicalLines (bytes : List UInt8) : List (Option (List Char)) :=
  let bytes := if byteOrderMark.isPrefixOf bytes then bytes.drop 3 else bytes
  (splitLines [] bytes).map fun line =>
    (String.fromUTF8? ⟨line.toArray⟩).map String.toList

/-! ## Values -/

/-- What is known when a value is read: the environment, and what the file itself
defined. -/
structure Known where
  environment : Environment
  defined : Environment := []

/-- The value that stands for a name. -/
def Known.value (known : Known) (name : String) : String :=
  ((known.environment.lookup name).orElse fun _ => known.defined.lookup name).getD ""

/-- How the name of another variable is being read. -/
inductive NameState where
  | none
  | bare
  | braced
  deriving DecidableEq, Repr

/-- Where the reading of a value stands.  What was read, and the name that is being
read, are reversed. -/
structure ValueState where
  taken : List Char := []
  name : List Char := []
  nameState : NameState := .none
  isSingle : Bool := false
  isDouble : Bool := false
  isEscaped : Bool := false
  /-- Only a comment may follow. -/
  isEnded : Bool := false
  /-- A comment has begun. -/
  isComment : Bool := false
  deriving DecidableEq, Repr

namespace ValueState

/-- Takes a character as it is. -/
def push (s : ValueState) (c : Char) : ValueState := { s with taken := c :: s.taken }

/-- Puts the value in the place of the name that was read. -/
def substitute (known : Known) (s : ValueState) : ValueState :=
  let value := known.value (String.ofList s.name.reverse)
  { s with taken := value.toList.reverse ++ s.taken, name := [], nameState := .none }

/-- The characters that a backslash makes literal. -/
def literals : List Char := ['\\', '\'', '"', '$', ' ']

/-- Takes a character behind a backslash. -/
def nextEscaped (s : ValueState) (c : Char) : Option ValueState :=
  let s := { s with isEscaped := false }
  if literals.contains c then some (s.push c)
  else if c == 'n' then some (s.push '\n')
  else none

/-- Takes a character that may belong to a name. -/
def nextInName (known : Known) (s : ValueState) (c : Char) : ValueState :=
  if isAlphanumeric c then { s with name := c :: s.name }
  else if s.nameState == .braced then
    if c == '\x7d' then s.substitute known else { s with name := c :: s.name }
  else if c == '\x7b' && s.name.isEmpty then { s with nameState := .braced }
  else
    let s := s.substitute known
    if c == '$' then { s with nameState := .bare } else s.push c

/-- Takes a character; nothing when the value is malformed. -/
def next (known : Known) (s : ValueState) (c : Char) : Option ValueState :=
  if s.isComment then some s
  else if s.isEnded then
    if c == ' ' || c == '\t' then some s
    else if c == '#' then some { s with isComment := true }
    else none
  else if s.isEscaped then s.nextEscaped c
  else if s.isSingle then
    some (if c == '\'' then { s with isSingle := false } else s.push c)
  else if s.nameState != .none then some (s.nextInName known c)
  else if c == '$' then some { s with nameState := .bare }
  else if c == '\\' then some { s with isEscaped := true }
  else if s.isDouble then
    some (if c == '"' then { s with isDouble := false } else s.push c)
  else if c == '\'' then some { s with isSingle := true }
  else if c == '"' then some { s with isDouble := true }
  else if c == ' ' || c == '\t' then some { s with isEnded := true }
  else some (s.push c)

end ValueState

/-- Reads a value. -/
def readValue (known : Known) (cs : List Char) : Option String := do
  let s ← cs.foldlM (ValueState.next known) {}
  if s.nameState == .braced || s.isSingle || s.isDouble then none
  else return String.ofList (s.substitute known).taken.reverse

/-! ## Definitions -/

/-- May the character begin the name of a variable? -/
def mayBeginName (c : Char) : Bool := c.isAlpha || c == '_'

/-- May the character stand in the name of a variable? -/
def mayContinueName (c : Char) : Bool := c.isAlphanum || c == '_' || c == '.'

/-- Reads the name of a variable and the blanks behind it. -/
def readName (cs : List Char) : Option (String × List Char) :=
  if cs.head?.any mayBeginName then
    some (String.ofList (cs.takeWhile mayContinueName),
      (cs.dropWhile mayContinueName).dropWhile isBlank)
  else none

/-- Reads a name and the equals sign behind it. -/
def readTarget (cs : List Char) : Option (String × List Char) := do
  let (name, rest) ← readName cs
  match rest with
  | '=' :: rest => some (name, rest)
  | rest =>
    if name == "export" then
      match ← readName rest with
      | (name, '=' :: rest) => some (name, rest)
      | _ => none
    else none

/-- What a logical line holds. -/
inductive Line where
  | nothing
  | definition (name value : String)
  | malformed
  deriving DecidableEq, Repr

/-- Reads a logical line. -/
def readLine (known : Known) (cs : List Char) : Line :=
  let cs := trimChars cs
  if cs.isEmpty || cs.head? == some '#' then .nothing
  else match readTarget cs with
    | none => .malformed
    | some (name, rest) =>
      let rest := rest.dropWhile isBlank
      if rest.isEmpty || rest.head? == some '#' then .definition name ""
      else match readValue known rest with
        | some value => .definition name value
        | none => .malformed

/-- Defines a variable. -/
def Known.define (known : Known) (name value : String) : Known where
  environment :=
    if (known.environment.lookup name).isSome then known.environment
    else known.environment ++ [(name, value)]
  defined := (name, value) :: known.defined

/-- Reads logical lines up to the first that is malformed. -/
def readLines (known : Known) : List (Option (List Char)) → Known
  | [] | none :: _ => known
  | some line :: rest =>
    match readLine known line with
    | .nothing => readLines known rest
    | .definition name value => readLines (known.define name value) rest
    | .malformed => known

/-- The environment after a file. -/
def apply (environment : Environment) (bytes : ByteArray) : Environment :=
  (readLines { environment } (logicalLines [] .plain (physicalLines bytes.toList))).environment

/-! ## The file -/

/-- The name of the file. -/
def fileName : String := ".env"

/-- The content of the file in a folder or in the nearest one above it; the folder
is given by its names, the last one first. -/
def findFrom? (d : Disk) : List String → Option ByteArray
  | [] => (d.node? [fileName]).bind Node.content?
  | name :: above =>
    match (d.node? ((name :: above).reverse ++ [fileName])).bind Node.content? with
    | some content => some content
    | none => findFrom? d above

/-- The environment with the variables of the file. -/
def extend (environment : Environment) (d : Disk) : Environment :=
  match findFrom? d d.working.reverse with
  | some bytes => apply environment bytes
  | none => environment

end EnvironmentFile

end SceneRender
