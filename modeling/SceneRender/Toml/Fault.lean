/-!
# Faults of a TOML document

A fault names what is wrong, perhaps what was expected instead, and the span of
the document where it was noticed, in bytes.  Its report shows the line of the
document with a mark under the span.
-/

namespace SceneRender.Toml

/-- A part of a document: its first byte and the byte after its last. -/
structure Span where
  start : Nat
  stop : Nat
  deriving DecidableEq, Repr, Inhabited

/-- The empty span before a span. -/
def Span.before (s : Span) : Span := ⟨s.start, s.start⟩

/-- The empty span after a span. -/
def Span.after (s : Span) : Span := ⟨s.stop, s.stop⟩

/-- The span of two parts and all between them. -/
def Span.join (s t : Span) : Span := ⟨s.start, t.stop⟩

/-- The kinds of strings. -/
inductive StringForm where
  | literal
  | basic
  | longLiteral
  | longBasic
  deriving DecidableEq, Repr

/-- How a message names a kind of string. -/
def StringForm.description : StringForm → String
  | literal => "literal string"
  | basic => "basic string"
  | longLiteral => "multi-line literal string"
  | longBasic => "multi-line basic string"

/-- The quote of a kind of string. -/
def StringForm.quote : StringForm → Char
  | literal | longLiteral => '\''
  | basic | longBasic => '"'

/-- What has to come next inside the braces of a record. -/
inductive RecordNeed where
  | key
  | equals
  | value
  | comma
  deriving DecidableEq, Repr

/-- A literal as a message names it. -/
def tick (s : String) : String := "`" ++ s ++ "`"

/-- How a message names what has to come next. -/
def RecordNeed.description : RecordNeed → String
  | key => "key"
  | equals => tick "="
  | value => "value"
  | comma => tick ","

/-- What is wrong with a document. -/
inductive Flaw where
  | keyWithoutValue
  | valueMissing
  | invalidPair
  | extraContent
  | unclosedTable (isArray : Bool)
  | halfClosedTable
  | missingTableOpening
  | extraAssignment
  | unclosedList
  | extraListComma
  | missingListComma
  | assignmentInList
  | missingListOpening
  | unclosedRecord
  | extraRecordComma (need : RecordNeed)
  | extraRecordAssignment (need : RecordNeed)
  | missingRecordKey (need : RecordNeed)
  | missingRecordAssignment
  | missingRecordComma
  | invalidRecordElement (need : RecordNeed)
  | missingRecordOpening
  | deepValue
  | deepKey
  | emptyKey
  | invalidKey
  | longKey (form : StringForm)
  | unquoted
  | missingOpeningQuote (form : StringForm)
  | unclosedString (form : StringForm)
  | invalidStringCharacter (form : StringForm)
  | missingEscape
  | missingLineBreak
  | shortEscape
  | invalidEscapeValue
  | redundantSign
  | leadingZero
  | misplacedUnderscore
  | signedWithRadix
  | upperCaseRadix (letter : Char)
  | redundantRadix
  | invalidDigit (kind : String)
  | missingDigits (part : String)
  | invalidSymbol (kind symbol : String)
  | invalidFloat
  /-- A date or a time that breaks its form, with what was expected of its part. -/
  | invalidMoment (part : String) (expected : Option String)
  | strayCarriageReturn
  | invalidComment
  | repeatedKey
  | notExtensible (kind : String)
  deriving DecidableEq, Repr

/-- The wording of a flaw. -/
def Flaw.message : Flaw → String
  | keyWithoutValue => "key with no value, expected `=`"
  | valueMissing => "missing value for key, expected `=`"
  | invalidPair => "invalid key-value pair, expected key"
  | extraContent => "unexpected key or value, expected newline, `#`"
  | unclosedTable isArray =>
    if isArray then "unclosed array table, expected `]]`" else "unclosed table, expected `]`"
  | halfClosedTable => "unclosed array table, expected `]`"
  | missingTableOpening => "missing table open, expected `[`"
  | extraAssignment => "extra `=`, expected nothing"
  | unclosedList => "unclosed array, expected `]`"
  | extraListComma => "extra comma in array, expected value"
  | missingListComma => "missing comma between array elements, expected `,`"
  | assignmentInList => "unexpected `=` in array, expected value, `]`"
  | missingListOpening => "missing array opening, expected `[`"
  | unclosedRecord => "unclosed inline table, expected `\x7d`"
  | extraRecordComma need => "extra comma in inline table, expected " ++ need.description
  | extraRecordAssignment need =>
    "extra assignment between key-value pairs, expected " ++ need.description
  | missingRecordKey need =>
    "missing key for inline table element, expected " ++ need.description
  | missingRecordAssignment => "missing assignment between key-value pairs, expected `=`"
  | missingRecordComma => "missing comma between key-value pairs, expected `,`"
  | invalidRecordElement need =>
    "invalid inline table element, expected " ++ need.description
  | missingRecordOpening => "missing inline table opening, expected `\x7b`"
  | deepValue => "cannot recurse further; max recursion depth met"
  | deepKey => "recursion limit"
  | emptyKey => "unquoted keys cannot be empty, expected letters, numbers, `-`, `_`"
  | invalidKey => "invalid unquoted key, expected letters, numbers, `-`, `_`"
  | longKey form =>
    "keys cannot be " ++ form.description ++ "s, expected basic string, literal string"
  | unquoted => "string values must be quoted, expected literal string"
  | missingOpeningQuote form =>
    "missing opening quote, expected " ++ tick (String.ofList (match form with
      | .literal | .basic => [form.quote]
      | .longLiteral | .longBasic => [form.quote, form.quote, form.quote]))
  | unclosedString form =>
    "invalid " ++ form.description ++ ", expected " ++ tick form.quote.toString
  | invalidStringCharacter form =>
    "invalid " ++ form.description ++ ", expected " ++ (match form with
      | .literal => "non-single-quote visible characters"
      | .longLiteral => "characters"
      | .basic => "non-double-quote visible characters, `\\`"
      | .longBasic => "printable characters, `\"`, `\\`")
  | missingEscape =>
    "missing escaped value, expected `b`, `e`, `f`, `n`, `r`, `\\`, `\"`, `x`, `u`, `U`"
  | missingLineBreak => "invalid multi-line basic string, expected newline"
  | shortEscape => "too few unicode value digits, expected unicode hexadecimal value"
  | invalidEscapeValue => "invalid value, expected unicode hexadecimal value"
  | redundantSign => "redundant numeric sign, expected nothing"
  | leadingZero => "unexpected leading zero, expected nothing"
  | misplacedUnderscore => "`_` may only go between digits, expected nothing"
  | signedWithRadix => "integers with a radix cannot be signed, expected nothing"
  | upperCaseRadix letter =>
    "radix must be lowercase, expected " ++ tick (String.ofList ['0', letter])
  | redundantRadix => "redundant integer number prefix, expected nothing"
  | invalidDigit kind => "invalid " ++ kind ++ " number"
  | missingDigits part => "invalid " ++ part ++ ", expected digits"
  | invalidSymbol kind symbol => "invalid " ++ kind ++ ", expected " ++ tick symbol
  | invalidFloat => "invalid float, expected nothing"
  | invalidMoment part expected =>
    "invalid " ++ part ++ (match expected with
      | some e => ", expected " ++ e
      | none => "")
  | strayCarriageReturn => "carriage return must be followed by newline, expected newline"
  | invalidComment => "invalid comment character, expected printable characters"
  | repeatedKey => "duplicate key"
  | notExtensible kind => "cannot extend value of type " ++ kind ++ " with a dotted key"

/-- A flaw with the span where it was noticed, if it has one. -/
structure Fault where
  flaw : Flaw
  span : Option Span
  deriving DecidableEq, Repr

/-! ## Reports -/

/-- Is the byte the continuation of a character? -/
def isContinuation (b : UInt8) : Bool := 0x80 ≤ b && b < 0xC0

/-- The number of line feeds among the first bytes. -/
def lineFeeds (bytes : List UInt8) (count : Nat) : Nat := (bytes.take count).count 10

/-- The offset at which the line of a byte starts. -/
def lineStart (bytes : List UInt8) (offset : Nat) : Nat :=
  offset - ((bytes.take offset).reverse.takeWhile (· != 10)).length

/-- The line and the column of an offset, both counted from zero; a column counts
characters.  An offset beyond the document counts from its last byte on. -/
def position (bytes : List UInt8) (offset : Nat) : Nat × Nat :=
  if bytes.isEmpty then (0, offset)
  else
    let last := min offset (bytes.length - 1)
    let start := lineStart bytes last
    let upTo := (bytes.drop start).take (last + 1 - start)
    -- an offset at the first byte of a longer character counts bytes instead
    let splits := 0xC0 ≤ (bytes.getD last 0) ||
      (isContinuation (bytes.getD last 0) && isContinuation (bytes.getD (last + 1) 0))
    let column := if splits then last - start
      else (upTo.filter fun b => !isContinuation b).length - 1
    (lineFeeds bytes last, column + (offset - last))

/-- The lines of a text. -/
def linesOf (s : String) : List String := s.splitOn "\n"

/-- So many blanks. -/
def blanks (n : Nat) : String := String.ofList (List.replicate n ' ')

/-- The report of a message about a span of a document. -/
def report (source : String) (span : Option Span) (message : String) : String :=
  match span with
  | none => message ++ "\n"
  | some span =>
    let (line, column) := position source.toUTF8.data.toList span.start
    let number := toString (line + 1)
    let content := (linesOf source).getD line ""
    let width := max 1 (min (span.stop - span.start) (content.utf8ByteSize - column))
    let gutter := blanks (number.length + 1) ++ "|"
    "TOML parse error at line " ++ number ++ ", column " ++ toString (column + 1) ++ "\n" ++
      gutter ++ "\n" ++
      number ++ " | " ++ content ++ "\n" ++
      gutter ++ blanks (column + 1) ++ String.ofList (List.replicate width '^') ++ "\n" ++
      message ++ "\n"

/-- The report of a fault. -/
def Fault.report (f : Fault) (source : String) : String :=
  Toml.report source f.span f.flaw.message

end SceneRender.Toml
