import SceneRender.Json.Value

/-!
# A cursor over a JSON document

Reading keeps the rest of the document and the place reached: the line counted
from one, and the column as the number of bytes since the line began.  A fault
found by looking at the next character is placed one byte beyond it; a fault of
what was already taken is placed where the cursor stands.
-/

namespace SceneRender.Json

/-- A place in a document. -/
structure Place where
  line : Nat
  column : Nat
  deriving DecidableEq, Repr

namespace Place

/-- The place of the first character. -/
def start : Place := ⟨1, 0⟩

/-- The place after a character. -/
def after (p : Place) (c : Char) : Place :=
  if c == '\n' then ⟨p.line + 1, 0⟩ else ⟨p.line, p.column + c.utf8Size⟩

/-- The place after the first byte of a character. -/
def afterByte (p : Place) (c : Char) : Place :=
  if c == '\n' then ⟨p.line + 1, 0⟩ else ⟨p.line, p.column + 1⟩

/-- The place after a number of bytes of a text, which may end inside a
character. -/
def afterBytes (p : Place) : Nat → List Char → Place
  | _, [] => p
  | n, c :: rest =>
    if n == 0 then p
    else if c.utf8Size ≤ n then (p.after c).afterBytes (n - c.utf8Size) rest
    else ⟨p.line, p.column + n⟩

end Place

/-- What is wrong with the form of a document. -/
inductive SyntaxFault where
  | unclosedList
  | unclosedRecord
  | unclosedText
  | missingValue
  | colonExpected
  | listCommaExpected
  | recordCommaExpected
  | literalExpected
  | valueExpected
  | invalidEscape
  | invalidNumber
  | numberOutOfRange
  | controlCharacter
  | keyExpected
  | loneSurrogate
  | halfSurrogatePair
  | trailingComma
  | trailingCharacters
  | tooDeep
  deriving DecidableEq, Repr

/-- The wording of a fault. -/
def SyntaxFault.message : SyntaxFault → String
  | unclosedList => "EOF while parsing a list"
  | unclosedRecord => "EOF while parsing an object"
  | unclosedText => "EOF while parsing a string"
  | missingValue => "EOF while parsing a value"
  | colonExpected => "expected `:`"
  | listCommaExpected => "expected `,` or `]`"
  | recordCommaExpected => "expected `,` or `\x7d`"
  | literalExpected => "expected ident"
  | valueExpected => "expected value"
  | invalidEscape => "invalid escape"
  | invalidNumber => "invalid number"
  | numberOutOfRange => "number out of range"
  | controlCharacter => "control character (\\u0000-\\u001F) found while parsing a string"
  | keyExpected => "key must be a string"
  | loneSurrogate => "lone leading surrogate in hex escape"
  | halfSurrogatePair => "unexpected end of hex escape"
  | trailingComma => "trailing comma"
  | trailingCharacters => "trailing characters"
  | tooDeep => "recursion limit exceeded"

/-- The rest of a document and the place where it begins. -/
structure Cursor where
  rest : List Char
  place : Place

/-- A fault with its place. -/
structure SyntaxProblem where
  fault : SyntaxFault
  place : Place
  deriving DecidableEq, Repr

namespace Cursor

/-- The cursor at the beginning of a document. -/
def ofString (s : String) : Cursor := ⟨s.toList, .start⟩

/-- The next character. -/
def peek? (c : Cursor) : Option Char := c.rest.head?

/-- The cursor after the next character. -/
def advance (c : Cursor) : Cursor :=
  match c.rest with
  | [] => c
  | ch :: rest => ⟨rest, c.place.after ch⟩

/-- The place one byte beyond the cursor, or the end of the document. -/
def ahead (c : Cursor) : Place :=
  match c.rest with
  | [] => c.place
  | ch :: _ => c.place.afterByte ch

/-- A fault of what was taken. -/
def fail {α : Type} (c : Cursor) (fault : SyntaxFault) : Except SyntaxProblem α :=
  .error ⟨fault, c.place⟩

/-- A fault of the character to come. -/
def failAhead {α : Type} (c : Cursor) (fault : SyntaxFault) : Except SyntaxProblem α :=
  .error ⟨fault, c.ahead⟩

/-- Is the character a blank of a document? -/
def isSpace (c : Char) : Bool := c == ' ' || c == '\n' || c == '\t' || c == '\r'

/-- Skips the blanks of a text that begins at a place. -/
def skipSpaces (place : Place) : List Char → Cursor
  | [] => ⟨[], place⟩
  | ch :: rest => if isSpace ch then skipSpaces (place.after ch) rest else ⟨ch :: rest, place⟩

/-- The cursor at the next character that is not blank. -/
def pastSpaces (c : Cursor) : Cursor := skipSpaces c.place c.rest

/-- Skips the digits of a text that begins at a place. -/
def skipDigits (place : Place) : List Char → Cursor
  | [] => ⟨[], place⟩
  | ch :: rest => if ch.isDigit then skipDigits (place.after ch) rest else ⟨ch :: rest, place⟩

/-- The cursor after the digits that come next. -/
def pastDigits (c : Cursor) : Cursor := skipDigits c.place c.rest

/-- Takes the given letters, the rest of a literal whose first letter was seen. -/
def literal (c : Cursor) : List Char → Except SyntaxProblem Cursor
  | [] => .ok c
  | expected :: letters =>
    match c.rest with
    | [] => c.fail .missingValue
    | ch :: _ =>
      if ch == expected then c.advance.literal letters else c.failAhead .literalExpected

end Cursor

end SceneRender.Json
