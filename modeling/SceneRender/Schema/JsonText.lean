import SceneRender.Json.Document
import SceneRender.Json.Printer
import SceneRender.Schema.Form

/-!
# Forms read from a JSON text

The text is read from left to right and the first problem ends the reading, be
it a fault of the document's form or a mismatch.  A problem has a place and a
path: the fields and list positions that lead to the value it was found in.

A record may also be given as a list of its values in the order of the form; a
choice may be given as a record with the option as its only field and the value
null.  A field that the form does not know is skipped.
-/

namespace SceneRender.Schema

open SceneRender.Json

/-- A step on the way to a value. -/
inductive PathStep where
  | field (name : String)
  | position (n : Nat)
  deriving DecidableEq, Repr

/-- The path as a message shows it. -/
def showPath : List PathStep → String
  | [] => ""
  | [.field name] => name
  | [.position n] => "[" ++ toString n ++ "]"
  | .field name :: .position n :: rest => name ++ showPath (.position n :: rest)
  | .field name :: rest => name ++ "." ++ showPath rest
  | .position n :: .position m :: rest =>
    "[" ++ toString n ++ "]" ++ showPath (.position m :: rest)
  | .position n :: rest => "[" ++ toString n ++ "]." ++ showPath rest

/-- Why a text does not fill a form. -/
inductive JsonCause where
  | malformed (fault : SyntaxFault)
  | mismatch (m : Mismatch)
  deriving DecidableEq, Repr

/-- A cause with its path and its place. -/
structure JsonProblem where
  path : List PathStep
  cause : JsonCause
  place : Place
  deriving DecidableEq, Repr

namespace JsonProblem

/-- The wording of a problem without its path. -/
def message (p : JsonProblem) : String :=
  (match p.cause with
    | .malformed fault => fault.message
    | .mismatch m => m.message) ++
    " at line " ++ toString p.place.line ++ " column " ++ toString p.place.column

/-- The wording of a problem behind its path. -/
def messageWithPath (p : JsonProblem) : String :=
  if p.path.isEmpty then p.message else showPath p.path ++ ": " ++ p.message

/-- Is the document itself malformed? -/
def isMalformed (p : JsonProblem) : Bool :=
  match p.cause with
  | .malformed _ => true
  | .mismatch _ => false

/-- The problem of a value that lies one step deeper. -/
def under (step : PathStep) (p : JsonProblem) : JsonProblem := { p with path := step :: p.path }

/-- A fault of the document's form. -/
def ofSyntax (p : SyntaxProblem) : JsonProblem := ⟨[], .malformed p.fault, p.place⟩

end JsonProblem

/-- The outcome of a step of reading. -/
abbrev Parsed := Except JsonProblem

/-- A step that knows only about the document's form. -/
def plain {α : Type} (r : Except SyntaxProblem α) : Parsed α := r.mapError .ofSyntax

/-- A mismatch found at a cursor. -/
def mismatchAt {α : Type} (c : Cursor) (m : Mismatch) : Parsed α :=
  .error ⟨[], .mismatch m, c.place⟩

/-- A problem that lies one step deeper. -/
def inside {α : Type} (step : PathStep) (r : Parsed α) : Parsed α := r.mapError (·.under step)

/-- What a number is found as. -/
def foundNumber : Number → Found
  | .natural n => .integer n
  | .negative n => .integer (-(n : Int))
  | .real isNegative magnitude => .real (printReal isNegative magnitude)

/-- What stands at a cursor where something else was expected, and the cursor
after as much of it as is taken. -/
def foundAt (c : Cursor) : Parsed (Found × Cursor) :=
  match c.rest with
  | '[' :: _ => .ok (.list, c)
  | '\x7b' :: _ => .ok (.record, c)
  | _ => do
    let (v, c) ← plain c.scalar
    return (match v with
      | .flag b => .flag b
      | .number n => foundNumber n
      | .text s => .text s
      | _ => .null, c)

/-- A value of another kind than expected. -/
def wrongKind {α : Type} (c : Cursor) (expected : String) : Parsed α := do
  let (found, c) ← foundAt c
  mismatchAt c (.kind found expected)

/-- The next character, which has to be there. -/
def atValue (c : Cursor) : Parsed (Char × Cursor) :=
  let c := c.pastSpaces
  match c.rest with
  | [] => plain (c.failAhead .missingValue)
  | ch :: _ => .ok (ch, c)

/-- Reads a text. -/
def readText (expected : String) (c : Cursor) : Parsed (String × Cursor) := do
  let (ch, c) ← atValue c
  if ch == '"' then plain c.advance.text else wrongKind c expected

/-- Fits a value that was taken up to a cursor. -/
def fitted {α : Type} (c : Cursor) (r : Except Mismatch α) : Parsed (α × Cursor) :=
  match r with
  | .ok a => .ok (a, c)
  | .error m => mismatchAt c m

/-- Reads a choice that is given as a record, after its opening brace. -/
def readWrappedChoice {σ : Type} (options : List (String × (σ → σ))) (c : Cursor) :
    Parsed ((σ → σ) × Cursor) := do
  let (ch, c) ← atValue c
  let (name, c) ← plain (if ch == '"' then c.advance.text else c.failAhead .keyExpected)
  let (set, c) ← fitted c (fitChoice options name)
  let c ← plain c.colon
  let c ← inside (.field name) do
    let (ch, c) ← atValue c
    if ch == 'n' then plain (c.advance.literal ['u', 'l', 'l']) else wrongKind c "unit"
  let c := c.pastSpaces
  match c.rest with
  | [] => plain (c.fail .unclosedRecord)
  | '\x7d' :: _ => return (set, c.advance)
  | _ => plain (c.fail .valueExpected)

/-- Reads the items of a list of texts. -/
def readTexts : Nat → Nat → List String → Cursor → Parsed (List String × Cursor)
  | 0, _, _, c => plain (c.fail .tooDeep)
  | fuel + 1, n, taken, c => do
    let (more, c) ← plain (c.nextItem (n == 0))
    if more then
      let (s, c) ← inside (.position n) (readText "a string" c)
      readTexts fuel (n + 1) (s :: taken) c
    else return (taken.reverse, c.advance)

/-- Reads the value of a slot. -/
def Slot.readText {σ : Type} (slot : Slot σ) (c : Cursor) : Parsed ((σ → σ) × Cursor) := do
  let (ch, c) ← atValue c
  match slot with
  | .text expected nullable fill =>
    if nullable && ch == 'n' then
      return (id, ← plain (c.advance.literal ['u', 'l', 'l']))
    else
      let (s, c) ← Schema.readText expected c
      return (fill s, c)
  | .flag fill =>
    if ch == 't' || ch == 'f' then
      let (v, c) ← plain c.scalar
      return (fill (v.flag? == some true), c)
    else wrongKind c "a boolean"
  | .natural kind largest fill =>
    if ch == '-' || ch.isDigit then
      let (n, c) ← plain (if ch == '-' then c.advance.number true else c.number false)
      match n with
      | .natural n => fitted c (fitNatural kind largest fill n)
      | .negative n => mismatchAt c (.value (.integer (-(n : Int))) kind)
      | real => mismatchAt c (.kind (foundNumber real) kind)
    else wrongKind c kind
  | .choice options =>
    if ch == '"' then
      let (name, c) ← plain c.advance.text
      fitted c (fitChoice options name)
    else if ch == '\x7b' then readWrappedChoice options c.advance
    else plain (c.failAhead .valueExpected)
  | .texts fill =>
    if ch == '[' then
      let (ss, c) ← readTexts (c.rest.length + 1) 0 [] c.advance
      return (fill ss, c)
    else wrongKind c "a sequence"

/-- The place of a mismatch that concerns a whole record: behind the bracket that
closes it, if that is next. -/
def recordMismatch {α : Type} (c : Cursor) (closing : Char) (m : Mismatch) : Parsed α :=
  let c := c.pastSpaces
  mismatchAt (if c.peek? == some closing then c.advance else c) m

namespace Form

variable {σ : Type}

/-- Reads the fields of a record after its opening brace; `given` are the names
of the fields that were read. -/
def readFields (form : Form σ) :
    Nat → Bool → List String → σ → Cursor → Parsed (σ × Cursor)
  | 0, _, _, _, c => plain (c.fail .tooDeep)
  | fuel + 1, first, given, filled, c => do
    let (more, c) ← plain (c.nextField first)
    if more then
      let (name, c) ← plain c.advance.text
      match form.field? name with
      | none =>
        let c ← plain c.colon
        let c ← inside (.field name) (plain c.skip)
        form.readFields fuel false given filled c
      | some f =>
        if given.contains name then recordMismatch c '\x7d' (.repeatedField name)
        else
          let c ← plain c.colon
          let (set, c) ← inside (.field name) (f.slot.readText c)
          form.readFields fuel false (name :: given) (set filled) c
    else
      match form.missing? given with
      | some name => recordMismatch c '\x7d' (.missingField name)
      | none => return (filled, c.advance)

/-- Closes a list that holds the values of a record. -/
def closeItems (c : Cursor) : Parsed Cursor :=
  let c := c.pastSpaces
  match c.rest with
  | [] => plain (c.failAhead .unclosedList)
  | ']' :: _ => .ok c.advance
  | ',' :: _ =>
    let c := c.advance.pastSpaces
    plain (c.failAhead (if c.peek? == some ']' then .trailingComma else .trailingCharacters))
  | _ => plain (c.failAhead .trailingCharacters)

/-- Reads the values of the given fields from a list after its opening bracket;
`n` were read before. -/
def readItems (form : Form σ) :
    List (Field σ) → Nat → Bool → σ → Cursor → Parsed (σ × Cursor)
  | [], _, _, filled, c => do return (filled, ← closeItems c)
  | f :: fields, n, ended, filled, c => do
    let (more, c) ←
      if ended then pure (false, c)
      else plain (c.nextItem (n == 0))
    if more then
      let (set, c) ← inside (.position n) (f.slot.readText c)
      form.readItems fields (n + 1) false (set filled) c
    else if f.required then recordMismatch c ']' (.length n form.expectedLength)
    else form.readItems fields (n + 1) true filled c

/-- Fills the form from a JSON document, starting with the given thing. -/
def ofJsonText (form : Form σ) (start : σ) (source : String) : Except JsonProblem σ := do
  let (ch, c) ← atValue (Cursor.ofString source)
  let (filled, c) ←
    if ch == '[' then form.readItems form.fields 0 false start c.advance
    else if ch == '\x7b' then form.readFields (c.rest.length + 1) true [] start c.advance
    else wrongKind c form.expected
  plain c.finish
  return filled

end Form

end SceneRender.Schema
