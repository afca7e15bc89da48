import SceneRender.Script.LineIndex

/-!
# The nesting scan

Reading, walking and dropping a syntax tree all go one level deeper per level of
the tree.  Before a script is read, one pass over its bytes estimates how deep
every expression can nest and refuses what exceeds a limit.  The scan knows just
enough of the language for that: strings, comments, numbers, brackets,
operators and the words that nest.

The state of the scan is the bytes ahead, the line, and three counts: the
operators chained at the current bracket level, the chains of the levels around
it, and the indentations of the open blocks.  A step takes at least one byte, or
leaves a line start behind.
-/

namespace SceneRender.Script.Nesting

/-- Deepest bracket nesting accepted. -/
def maxBrackets : Nat := 200

/-- Deepest estimated expression nesting accepted. -/
def maxDepth : Nat := 400

/-- Most indentation levels accepted. -/
def maxIndents : Nat := 100

/-- The limits a script can exceed. -/
inductive Limit where
  | brackets | depth | indents
  deriving DecidableEq, Repr

/-- The wording of a limit. -/
def Limit.message : Limit → String
  | brackets => "too many nested parentheses"
  | depth => "expression too deeply nested"
  | indents => "too many levels of indentation"

/-- An exceeded limit and the line where the scan stopped. -/
structure Violation where
  limit : Limit
  line : Nat
  deriving DecidableEq, Repr

/-- The state of the scan. -/
structure State where
  /-- The bytes ahead. -/
  rest : List UInt8
  /-- The line, counted from one. -/
  line : Nat
  /-- Chain lengths of the enclosing bracket levels, the innermost first. -/
  enclosing : List Nat
  /-- The sum of the enclosing chain lengths. -/
  enclosingSum : Nat
  /-- The chain length at the current bracket level. -/
  chain : Nat
  /-- Indentation widths of the open blocks, the innermost first. -/
  indents : List Nat
  /-- Does a logical line begin here? -/
  lineStart : Bool
  deriving DecidableEq, Repr

/-- The state before the first byte. -/
def State.start (bytes : List UInt8) : State := ⟨bytes, 1, [], 0, 0, [0], true⟩

/-- The byte of an ASCII character. -/
abbrev byte (c : Char) : UInt8 := c.toUInt8

/-- Is the byte a digit? -/
def isDigit (b : UInt8) : Bool := byte '0' ≤ b && b ≤ byte '9'

/-- Is the byte a letter of ASCII? -/
def isLetter (b : UInt8) : Bool :=
  (byte 'a' ≤ b && b ≤ byte 'z') || (byte 'A' ≤ b && b ≤ byte 'Z')

/-- May the byte begin a word?  Every byte of a character beyond ASCII may. -/
def isWordStart (b : UInt8) : Bool := isLetter b || b == byte '_' || b ≥ 0x80

/-- May the byte stand in a word? -/
def isWordByte (b : UInt8) : Bool := isWordStart b || isDigit b

/-- Is the byte part of operators? -/
def isOperatorByte (b : UInt8) : Bool := "+-*/%@&|^~<>!=.".toList.any (byte · == b)

/-- Is the byte a quote? -/
def isQuote (b : UInt8) : Bool := b == byte '\'' || b == byte '"'

/-- Does the byte open a bracket? -/
def isOpener (b : UInt8) : Bool := b == byte '(' || b == byte '[' || b == byte '{'

/-- Does the byte close a bracket? -/
def isCloser (b : UInt8) : Bool := b == byte ')' || b == byte ']' || b == byte '}'

/-- The bytes of an ASCII word. -/
def bytesOf (word : String) : List UInt8 := word.toList.map byte

/-- The words that add a level to the expression they appear in. -/
def nestingWords : List (List UInt8) :=
  ["and", "or", "not", "if", "else", "lambda", "in", "is", "await"].map bytesOf

/-- A byte with the case of ASCII letters dropped. -/
def lower (b : UInt8) : UInt8 := if byte 'A' ≤ b && b ≤ byte 'Z' then b + 32 else b

/-- Is the word a string prefix: one or two of the letters that announce a
string? -/
def isStringMark (word : List UInt8) : Bool :=
  !word.isEmpty && word.length ≤ 2 &&
    word.all fun b => "rbuf".toList.any (byte · == lower b)

/-- Lengthens the chain, unless the expression would nest too deep. -/
def State.extend (s : State) (levels : Nat) : Except Violation State :=
  let chain := s.chain + levels
  if s.enclosing.length + s.enclosingSum + chain > maxDepth then .error ⟨.depth, s.line⟩
  else .ok { s with chain }

/-! ## Strings -/

/-- What a scan over a string needs to know of it. -/
structure Quoting where
  quote : UInt8
  triple : Bool
  /-- Does the string hold replacement fields?  Their brackets are bounded on
  their own. -/
  formatted : Bool

/-- Scans the body of a string; `depth` counts the open brackets of its fields.
The string ends at its closing quotes, and a string on one line at the end of
the line, which is left for the reader of the script to report. -/
def scanString (q : Quoting) (depth line : Nat) :
    List UInt8 → Except Violation (List UInt8 × Nat)
  | [] => .ok ([], line)
  | b :: rest =>
    if b == byte '\\' then
      match rest with
      | [] => .ok ([], line)
      | e :: rest' => scanString q depth (if e == lineFeed then line + 1 else line) rest'
    else if b == lineFeed then
      if q.triple then scanString q depth (line + 1) rest else .ok (b :: rest, line)
    else if b == q.quote then
      if !q.triple then .ok (rest, line)
      else
        match rest with
        | b₁ :: b₂ :: rest' =>
          if b₁ == q.quote && b₂ == q.quote then .ok (rest', line)
          else scanString q depth line rest
        | _ => scanString q depth line rest
    else if q.formatted && isOpener b then
      if depth + 1 > maxBrackets then .error ⟨.brackets, line⟩
      else scanString q (depth + 1) line rest
    else if q.formatted && isCloser b then scanString q (depth - 1) line rest
    else scanString q depth line rest

/-- Scans a string from its opening quotes on. -/
def State.string (s : State) (formatted : Bool) : Except Violation State :=
  match s.rest with
  | [] => .ok s
  | quote :: rest =>
    let triple :=
      match rest with
      | b₁ :: b₂ :: _ => b₁ == quote && b₂ == quote
      | _ => false
    match scanString ⟨quote, triple, formatted⟩ 0 s.line (if triple then rest.drop 2 else rest) with
    | .ok (rest, line) => .ok { s with rest, line }
    | .error v => .error v

/-! ## The other tokens -/

/-- Measures the indentation of a logical line.  A blank line, or one with only a
comment, opens and closes nothing. -/
def State.indentation (s : State) : Except Violation State :=
  let isIndent (b : UInt8) : Bool := b == byte ' ' || b == byte '\t' || b == 12
  let width := (s.rest.takeWhile isIndent).length
  let rest := s.rest.dropWhile isIndent
  let s := { s with rest, lineStart := false }
  let empty :=
    match rest with
    | [] => true
    | b :: _ => b == lineFeed || b == byte '\r' || b == byte '#'
  if empty then .ok s
  else
    let outer := s.indents.dropWhile (· > width)
    let indents := if outer.head?.all (· < width) then width :: outer else outer
    if indents.length - 1 > maxIndents then .error ⟨.indents, s.line⟩ else .ok { s with indents }

/-- Skips a backslash and the line end after it. -/
def State.continuation (s : State) : State :=
  let rest := s.rest.drop 1
  let rest := if rest.head? == some (byte '\r') then rest.drop 1 else rest
  if rest.head? == some lineFeed then { s with rest := rest.drop 1, line := s.line + 1 }
  else { s with rest }

/-- Skips a number: letters, digits, points and underscores, and a sign right
after the letter of an exponent. -/
def skipNumber (afterExponent : Bool) : List UInt8 → List UInt8
  | [] => []
  | b :: rest =>
    if isLetter b || isDigit b || b == byte '_' || b == byte '.' then
      skipNumber (b == byte 'e' || b == byte 'E') rest
    else if afterExponent && (b == byte '+' || b == byte '-') then skipNumber false rest
    else b :: rest

/-- Scans a word: the letters of a string, a word that nests, or any other. -/
def State.word (s : State) : Except Violation State :=
  let word := s.rest.takeWhile isWordByte
  let s := { s with rest := s.rest.dropWhile isWordByte }
  if (s.rest.head?).any isQuote && isStringMark word then
    s.string (word.any fun b => lower b == byte 'f')
  else if nestingWords.contains word then s.extend 1
  else .ok s

/-- Opens a bracket.  After an operand it is a call or an index, which nests by
itself. -/
def State.openBracket (s : State) : Except Violation State :=
  let s := { s with rest := s.rest.drop 1 }
  if s.enclosing.length ≥ maxBrackets then .error ⟨.brackets, s.line⟩
  else
    match s.extend 1 with
    | .error v => .error v
    | .ok s =>
      .ok { s with
        enclosing := s.chain :: s.enclosing
        enclosingSum := s.enclosingSum + s.chain
        chain := 0 }

/-- Closes a bracket, if one is open. -/
def State.closeBracket (s : State) : State :=
  let s := { s with rest := s.rest.drop 1 }
  match s.enclosing with
  | [] => s
  | chain :: enclosing => { s with enclosing, enclosingSum := s.enclosingSum - chain, chain }

/-- Scans a run of operator bytes.  An equals sign alone begins a new
expression. -/
def State.operator (s : State) : Except Violation State :=
  let run := s.rest.takeWhile isOperatorByte
  let s := { s with rest := s.rest.dropWhile isOperatorByte }
  if run == [byte '='] then .ok { s with chain := 0 } else s.extend run.length

/-- Passes a line end.  Outside brackets it ends the logical line. -/
def State.lineEnd (s : State) : State :=
  let s := { s with rest := s.rest.drop 1, line := s.line + 1 }
  if s.enclosing.isEmpty then { s with chain := 0, lineStart := true } else s

/-- Passes a colon, or the sign that binds a name on the way. -/
def State.colon (s : State) : Except Violation State :=
  let s := { s with rest := s.rest.drop 1 }
  if s.rest.head? == some (byte '=') then { s with rest := s.rest.drop 1 }.extend 1 else .ok s

/-- One step of the scan; `b` is the byte ahead. -/
def State.step (s : State) (b : UInt8) : Except Violation State :=
  if s.lineStart then s.indentation
  else if b == lineFeed then .ok s.lineEnd
  else if b == byte '\\' then .ok s.continuation
  else if b == byte '#' then .ok { s with rest := s.rest.dropWhile (· != lineFeed) }
  else if isQuote b then s.string false
  else if isDigit b || (b == byte '.' && ((s.rest.drop 1).head?).any isDigit) then
    .ok { s with rest := skipNumber false s.rest }
  else if isOpener b then s.openBracket
  else if isCloser b then .ok s.closeBracket
  else if b == byte ',' || b == byte ';' then .ok { s with rest := s.rest.drop 1, chain := 0 }
  else if b == byte ':' then s.colon
  else if isWordStart b then s.word
  else if isOperatorByte b then s.operator
  else .ok { s with rest := s.rest.drop 1 }

/-- Runs at most `fuel` steps. -/
def State.run : Nat → State → Except Violation State
  | 0, s => .ok s
  | fuel + 1, s =>
    match s.rest with
    | [] => .ok s
    | b :: _ =>
      match s.step b with
      | .ok s' => s'.run fuel
      | .error v => .error v

/-- The first limit that the bytes of a script exceed.  Twice the bytes ahead,
and one more at a line start, go down with every step, so the steps suffice. -/
def check (bytes : List UInt8) : Option Violation :=
  match (State.start bytes).run (2 * bytes.length + 1) with
  | .ok _ => none
  | .error v => some v

end SceneRender.Script.Nesting
