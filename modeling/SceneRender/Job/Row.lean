import SceneRender.Job.Record
import SceneRender.Text.Decimal

/-!
# Rows of the job table

A durable job record is a row of cells.  A cell holds null, a whole number, a
number that is not whole, or text; each column prefers one kind of content and
converts to it what can be converted without loss.  A row that other hands have
touched need not be a job any more: reading it back says why not.
-/

namespace SceneRender

open SceneRender.Text

/-- The content of a cell. -/
inductive Cell where
  | null
  | whole (n : Int)
  | fraction
  | text (s : String)
  deriving DecidableEq, Repr, Inhabited

/-- The name of the kind of content. -/
def Cell.kind : Cell → String
  | null => "Null"
  | whole _ => "Integer"
  | fraction => "Real"
  | text _ => "Text"

/-! ## Numerals -/

/-- A numeral: its sign, its digits as one number, and the power of ten. -/
structure Numeral where
  isNegative : Bool
  magnitude : Decimal
  /-- Is it written without a point and without an exponent? -/
  isPlain : Bool
  deriving DecidableEq, Repr

namespace Numeral

/-- May the character stand around a numeral? -/
def isGap (c : Char) : Bool :=
  c == ' ' || (9 ≤ c.toNat && c.toNat ≤ 13)

/-- The number that a list of digits writes. -/
def digitsValue (cs : List Char) : Nat := cs.foldl (fun n c => 10 * n + (c.toNat - 48)) 0

/-- The sign in front of a list of characters, and the rest. -/
def splitSign : List Char → Bool × List Char
  | '-' :: rest => (true, rest)
  | '+' :: rest => (false, rest)
  | rest => (false, rest)

/-- The exponent that a list of characters is: nothing at all counts as none. -/
def exponent? : List Char → Option Int
  | [] => some 0
  | e :: rest =>
    let (isNegative, digits) := splitSign rest
    if (e == 'e' || e == 'E') && !digits.isEmpty && digits.all Char.isDigit then
      some (if isNegative then -(digitsValue digits : Int) else digitsValue digits)
    else none

/-- The numeral that a text is, gaps around it aside. -/
def ofString? (s : String) : Option Numeral :=
  let body := ((s.toList.dropWhile isGap).reverse.dropWhile isGap).reverse
  let (isNegative, body) := splitSign body
  let front := body.takeWhile Char.isDigit
  let rest := body.dropWhile Char.isDigit
  let (places, tail) := match rest with
    | '.' :: more => (more.takeWhile Char.isDigit, more.dropWhile Char.isDigit)
    | _ => ([], rest)
  if front.isEmpty && places.isEmpty then none
  else do
    let exponent ← exponent? tail
    return ⟨isNegative, ⟨digitsValue (front ++ places), exponent - places.length⟩, rest.isEmpty⟩

/-- The least and the greatest number of 64 bits. -/
def leastWhole : Int := -(Nat.pow 2 63 : Nat)

/-- The greatest number of 64 bits. -/
def greatestWhole : Int := (Nat.pow 2 63 : Nat) - 1

/-- The cell of a numeral: a plain one that fits 64 bits is kept exactly; any
other is a double, and whole if the double is whole and strictly inside the
range. -/
def toCell (n : Numeral) : Cell :=
  let signed (m : Nat) : Int := if n.isNegative then -(m : Int) else m
  let plain := signed (n.magnitude.digits * Nat.pow 10 n.magnitude.exponent.toNat)
  if n.isPlain && leastWhole ≤ plain && plain ≤ greatestWhole then .whole plain
  else match BinaryFormat.double.ofDecimal? n.magnitude with
    | none => .fraction
    | some b =>
      let (top, bottom) := scale 2 b.mantissa 1 b.exponent
      let value := signed (top / bottom)
      if top % bottom == 0 && leastWhole < value && value < greatestWhole then .whole value
      else .fraction

end Numeral

/-! ## Columns -/

/-- The columns of the job table. -/
inductive JobColumn where
  | id
  | status
  | progress
  | stage
  | error
  | videoPath
  | createdAt
  | updatedAt
  deriving DecidableEq, Repr

namespace JobColumn

/-- All columns in order. -/
def all : List JobColumn :=
  [id, status, progress, stage, error, videoPath, createdAt, updatedAt]

/-- The name of a column. -/
def name : JobColumn → String
  | id => "job_id"
  | status => "status"
  | progress => "progress"
  | stage => "stage"
  | error => "error"
  | videoPath => "video_path"
  | createdAt => "created_at"
  | updatedAt => "updated_at"

/-- The column of a name. -/
def ofName? (name : String) : Option JobColumn := all.find? (·.name == name)

/-- The position of a column, from nought. -/
def index (c : JobColumn) : Nat := all.idxOf c

/-- May the column be null? -/
def admitsNull : JobColumn → Bool
  | id | error | videoPath => true
  | status | progress | stage | createdAt | updatedAt => false

/-- What a column makes of a content: the progress turns numerals into numbers,
every other column turns numbers into numerals. -/
def convert : JobColumn → Cell → Cell
  | progress, .text s => ((Numeral.ofString? s).map Numeral.toCell).getD (.text s)
  | progress, c => c
  | _, .whole n => .text (toString n)
  | _, c => c

end JobColumn

/-! ## Rows -/

/-- A row of the job table. -/
structure JobRow where
  id : Cell
  status : Cell
  progress : Cell
  stage : Cell
  error : Cell
  videoPath : Cell
  createdAt : Cell
  updatedAt : Cell
  deriving DecidableEq, Repr, Inhabited

/-- Why a row is not a job. -/
inductive RowFault where
  /-- A column holds a content of a kind that it must not hold. -/
  | wrongKind (column : JobColumn) (kind : String)
  /-- The progress is no number of eight bits. -/
  | outOfRange (column : JobColumn) (n : Int)
  /-- No status has the name. -/
  | unknownStatus (name : String)
  /-- A timestamp cannot be read. -/
  | badTimestamp (text : String) (fault : Timestamp.Fault)
  deriving Repr

namespace RowFault

/-- What goes wrong, at the surface. -/
def summary : RowFault → String
  | wrongKind _ _ | outOfRange _ _ => "Failed to query job"
  | unknownStatus name => JobStatus.unknownMessage name
  | badTimestamp text _ => "Invalid timestamp '" ++ text ++ "'"

/-- The reason below the surface, if there is one. -/
def cause? : RowFault → Option String
  | wrongKind column kind => some ("Invalid column type " ++ kind ++ " at index: " ++
      toString column.index ++ ", name: " ++ column.name)
  | outOfRange column n =>
    some ("Integer " ++ toString n ++ " out of range at index " ++ toString column.index)
  | unknownStatus _ => none
  | badTimestamp _ fault => some fault.message

end RowFault

namespace JobRow

/-- A text that may be missing, as a cell. -/
def textOrNull : Option String → Cell
  | some s => .text s
  | none => .null

/-- The row of a job. -/
def ofJob (job : Job) : JobRow where
  id := .text job.id
  status := .text job.status.name
  progress := .whole job.progress
  stage := .text job.stage
  error := textOrNull job.error
  videoPath := textOrNull job.videoPath
  createdAt := .text job.createdAt.stored
  updatedAt := .text job.updatedAt.stored

/-- The cell of a column. -/
def cell (row : JobRow) : JobColumn → Cell
  | .id => row.id
  | .status => row.status
  | .progress => row.progress
  | .stage => row.stage
  | .error => row.error
  | .videoPath => row.videoPath
  | .createdAt => row.createdAt
  | .updatedAt => row.updatedAt

/-- The row with another cell in a column. -/
def setCell (row : JobRow) (column : JobColumn) (c : Cell) : JobRow :=
  match column with
  | .id => { row with id := c }
  | .status => { row with status := c }
  | .progress => { row with progress := c }
  | .stage => { row with stage := c }
  | .error => { row with error := c }
  | .videoPath => { row with videoPath := c }
  | .createdAt => { row with createdAt := c }
  | .updatedAt => { row with updatedAt := c }

/-- The text of a column. -/
def textAt (row : JobRow) (column : JobColumn) : Except RowFault String :=
  match row.cell column with
  | .text s => .ok s
  | c => .error (.wrongKind column c.kind)

/-- The text of a column that may be null. -/
def textAt? (row : JobRow) (column : JobColumn) : Except RowFault (Option String) :=
  match row.cell column with
  | .text s => .ok (some s)
  | .null => .ok none
  | c => .error (.wrongKind column c.kind)

/-- The number of eight bits in a column. -/
def byteAt (row : JobRow) (column : JobColumn) : Except RowFault Nat :=
  match row.cell column with
  | .whole n => if 0 ≤ n && n ≤ 255 then .ok n.toNat else .error (.outOfRange column n)
  | c => .error (.wrongKind column c.kind)

/-- Reads a timestamp. -/
def moment (text : String) : Except RowFault Timestamp :=
  match Timestamp.ofString text with
  | .ok t => .ok t
  | .error fault => .error (.badTimestamp text fault)

/-- Reads a row back.  All kinds are settled, in the order of the columns, before
the status and then the timestamps are looked at. -/
def toJob (row : JobRow) : Except RowFault Job := do
  let id ← row.textAt .id
  let status ← row.textAt .status
  let progress ← row.byteAt .progress
  let stage ← row.textAt .stage
  let error ← row.textAt? .error
  let videoPath ← row.textAt? .videoPath
  let createdAt ← row.textAt .createdAt
  let updatedAt ← row.textAt .updatedAt
  match JobStatus.ofName? status with
  | none => .error (.unknownStatus status)
  | some status =>
    let createdAt ← moment createdAt
    let updatedAt ← moment updatedAt
    return ⟨id, status, progress, stage, error, videoPath, createdAt, updatedAt⟩

end JobRow

end SceneRender
