import SceneRender.Json.Token

/-!
# Reading JSON documents

A document is one value with nothing but blanks around it.  Lists and records
nest at most 127 deep.  Of two fields of one name the later replaces the value
of the earlier.  A value that is not asked for is skipped: its form is checked,
but neither the depth of its nesting nor the pairing of its surrogates.
-/

namespace SceneRender.Json

/-- One more than the deepest nesting of lists and records. -/
def depthLimit : Nat := 128

/-- The fields with one more, which replaces an earlier one of its name. -/
def setField (fields : List (String × Value)) (name : String) (v : Value) :
    List (String × Value) :=
  if fields.any (·.1 == name) then fields.map fun f => if f.1 == name then (name, v) else f
  else fields ++ [(name, v)]

namespace Cursor

/-- Takes the colon between a field's name and its value. -/
def colon (c : Cursor) : Except SyntaxProblem Cursor :=
  let c := c.pastSpaces
  match c.rest with
  | [] => c.failAhead .unclosedRecord
  | ':' :: _ => .ok c.advance
  | _ => c.failAhead .colonExpected

/-- Moves to the next item of a list: is there one?  `first` says that none was
taken yet. -/
def nextItem (c : Cursor) (first : Bool) : Except SyntaxProblem (Bool × Cursor) :=
  let c := c.pastSpaces
  match c.rest with
  | [] => c.failAhead .unclosedList
  | ']' :: _ => .ok (false, c)
  | ch :: _ =>
    if first then .ok (true, c)
    else if ch != ',' then c.failAhead .listCommaExpected
    else
      let c := c.advance.pastSpaces
      match c.rest with
      | [] => c.failAhead .missingValue
      | ']' :: _ => c.failAhead .trailingComma
      | _ => .ok (true, c)

/-- Moves to the next field of a record: is there one?  `first` says that none
was taken yet. -/
def nextField (c : Cursor) (first : Bool) : Except SyntaxProblem (Bool × Cursor) :=
  let c := c.pastSpaces
  match c.rest with
  | [] => c.failAhead .unclosedRecord
  | '\x7d' :: _ => .ok (false, c)
  | ch :: _ =>
    if first then
      if ch == '"' then .ok (true, c) else c.failAhead .keyExpected
    else if ch != ',' then c.failAhead .recordCommaExpected
    else
      let c := c.advance.pastSpaces
      match c.rest with
      | [] => c.failAhead .missingValue
      | '"' :: _ => .ok (true, c)
      | '\x7d' :: _ => c.failAhead .trailingComma
      | _ => c.failAhead .keyExpected

/-- Reads a value that is neither a list nor a record. -/
def scalar (c : Cursor) : Except SyntaxProblem (Value × Cursor) :=
  match c.rest with
  | [] => c.failAhead .missingValue
  | 'n' :: _ => do return (.null, ← c.advance.literal ['u', 'l', 'l'])
  | 't' :: _ => do return (.flag true, ← c.advance.literal ['r', 'u', 'e'])
  | 'f' :: _ => do return (.flag false, ← c.advance.literal ['a', 'l', 's', 'e'])
  | '"' :: _ => do
    let (s, c) ← c.advance.text
    return (.text s, c)
  | '-' :: _ => do
    let (n, c) ← c.advance.number true
    return (.number n, c)
  | ch :: _ =>
    if ch.isDigit then do
      let (n, c) ← c.number false
      return (.number n, c)
    else c.failAhead .valueExpected

mutual

/-- Reads a value whose lists and records nest less than `depth` deep. -/
def value (fuel depth : Nat) (c : Cursor) : Except SyntaxProblem (Value × Cursor) :=
  match fuel with
  | 0 => c.fail .tooDeep
  | fuel + 1 =>
    let c := c.pastSpaces
    match c.rest with
    | '[' :: _ =>
      if depth ≤ 1 then c.failAhead .tooDeep else itemsOf fuel (depth - 1) true [] c.advance
    | '\x7b' :: _ =>
      if depth ≤ 1 then c.failAhead .tooDeep else fieldsOf fuel (depth - 1) true [] c.advance
    | _ => c.scalar

/-- Reads the items of a list up to its closing bracket. -/
def itemsOf (fuel depth : Nat) (first : Bool) (taken : List Value) (c : Cursor) :
    Except SyntaxProblem (Value × Cursor) :=
  match fuel with
  | 0 => c.fail .tooDeep
  | fuel + 1 => do
    let (more, c) ← c.nextItem first
    if more then
      let (v, c) ← value fuel depth c
      itemsOf fuel depth false (v :: taken) c
    else return (.list taken.reverse, c.advance)

/-- Reads the fields of a record up to its closing brace. -/
def fieldsOf (fuel depth : Nat) (first : Bool) (taken : List (String × Value)) (c : Cursor) :
    Except SyntaxProblem (Value × Cursor) :=
  match fuel with
  | 0 => c.fail .tooDeep
  | fuel + 1 => do
    let (more, c) ← c.nextField first
    if more then
      let (name, c) ← c.advance.text
      let c ← c.colon
      let (v, c) ← value fuel depth c
      fieldsOf fuel depth false (setField taken name v) c
    else return (.record taken, c.advance)

end

/-- The blanks that may follow a document. -/
def finish (c : Cursor) : Except SyntaxProblem Unit :=
  let c := c.pastSpaces
  if c.rest.isEmpty then .ok () else c.failAhead .trailingCharacters

end Cursor

/-- Reads a document. -/
def Value.ofString (s : String) : Except SyntaxProblem Value := do
  let c := Cursor.ofString s
  let (v, c) ← c.value (2 * c.rest.length + 2) depthLimit
  c.finish
  return v

/-- What a skipped part of a document is enclosed in. -/
inductive Enclosure where
  | list
  | record
  deriving DecidableEq

namespace Cursor

/-- Skips the characters of a text up to its closing quote. -/
def skipText : Nat → Cursor → Except SyntaxProblem Cursor
  | 0, c => c.fail .unclosedText
  | fuel + 1, c =>
    match c.rest with
    | [] => c.fail .unclosedText
    | '"' :: _ => .ok c.advance
    | '\\' :: 'u' :: _ => do
      let (_, c) ← c.advance.advance.hexEscape
      skipText fuel c
    | '\\' :: _ => do
      let (_, c) ← c.advance.escape
      skipText fuel c
    | ch :: _ =>
      if ch.toNat < 32 then c.failAhead .controlCharacter else skipText fuel c.advance

/-- Skips the exponent of a number after its letter. -/
def skipExponent (c : Cursor) : Except SyntaxProblem Cursor :=
  let c := if c.peek? == some '+' || c.peek? == some '-' then c.advance else c
  match c.rest with
  | [] => c.fail .invalidNumber
  | ch :: _ => if ch.isDigit then .ok c.pastDigits else c.failAhead .invalidNumber

/-- Skips a number after its sign. -/
def skipNumber (c : Cursor) : Except SyntaxProblem Cursor :=
  match c.rest with
  | [] => c.fail .invalidNumber
  | ch :: _ =>
    if !ch.isDigit then c.failAhead .invalidNumber
    else if ch == '0' && (c.advance.peek?).any Char.isDigit then c.advance.failAhead .invalidNumber
    else
      let after := c.pastDigits
      if after.peek? == some '.' then
        let places := after.advance
        if (places.peek?).any Char.isDigit then
          let rest := places.pastDigits
          if rest.atExponent then rest.advance.skipExponent else .ok rest
        else places.failAhead .invalidNumber
      else if after.atExponent then after.advance.skipExponent
      else .ok after

/-- Skips a field's name and its colon. -/
def skipName (c : Cursor) : Except SyntaxProblem Cursor := do
  let c := c.pastSpaces
  match c.rest with
  | [] => c.failAhead .unclosedRecord
  | '"' :: _ => (← c.advance.skipText (c.rest.length + 1)).colon
  | _ => c.failAhead .keyExpected

/-- Skips one bracket or one value that is neither a list nor a record: what was
opened, if anything. -/
def skipPart (c : Cursor) : Except SyntaxProblem (Option Enclosure × Cursor) :=
  let c := c.pastSpaces
  match c.rest with
  | [] => c.failAhead .missingValue
  | '[' :: _ => .ok (some .list, c.advance)
  | '\x7b' :: _ => .ok (some .record, c.advance)
  | '"' :: _ => do return (none, ← c.advance.skipText (c.rest.length + 1))
  | '-' :: _ => do return (none, ← c.advance.skipNumber)
  | ch :: _ =>
    if ch.isDigit then do return (none, ← c.skipNumber)
    else do
      let (_, c) ← c.scalar
      return (none, c)

/-- Closes what can be closed after a value or an opening bracket; `comma` says
that a comma may stand here.  The enclosures that are still open are given, with
nothing left when the whole value is skipped. -/
def skipClosing (fuel : Nat) (comma : Bool) (stack : List Enclosure) (c : Cursor) :
    Except SyntaxProblem (List Enclosure × Cursor) :=
  match fuel, stack with
  | 0, _ => c.fail .missingValue
  | _, [] => .ok ([], c)
  | fuel + 1, top :: outer =>
    let c := c.pastSpaces
    let closing := match top with | .list => ']' | .record => '\x7d'
    match c.rest with
    | [] => c.failAhead (match top with | .list => .unclosedList | .record => .unclosedRecord)
    | ch :: _ =>
      if comma && ch == ',' then .ok (stack, c.advance)
      else if ch == closing then skipClosing fuel true outer c.advance
      else if comma then
        c.failAhead (match top with
          | .list => .listCommaExpected
          | .record => .recordCommaExpected)
      else .ok (stack, c)

/-- Skips a value inside the enclosures that are open. -/
def skipValue : Nat → List Enclosure → Cursor → Except SyntaxProblem Cursor
  | 0, _, c => c.fail .missingValue
  | fuel + 1, stack, c => do
    let (opened, c) ← c.skipPart
    let open_ := match opened with | some e => e :: stack | none => stack
    let (open_, c) ← c.skipClosing (fuel + 1) opened.isNone open_
    match open_ with
    | [] => return c
    | .record :: _ => skipValue fuel open_ (← c.skipName)
    | .list :: _ => skipValue fuel open_ c

/-- Skips a value. -/
def skip (c : Cursor) : Except SyntaxProblem Cursor := c.skipValue (c.rest.length + 2) []

end Cursor

end SceneRender.Json
