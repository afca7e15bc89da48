import SceneRender.Toml.Moment
import SceneRender.Toml.Syntax
import SceneRender.Toml.Value

/-!
# Keys and scalars of a TOML document

What a written key or scalar means.  A scalar without quotes is a flag, a number,
a date or one of the names of infinity and of no number; anything else was meant
as a string and lacks its quotes.
-/

namespace SceneRender.Toml

open SceneRender.Text

/-- A text that is being read, with its offset in the document. -/
structure Piece where
  rest : List Char
  offset : Nat

/-- The piece after its next characters. -/
def Piece.drop (p : Piece) (n : Nat) : Piece :=
  ⟨p.rest.drop n, p.offset + byteCount (p.rest.take n)⟩

/-- Fails at a part of the document. -/
def failOver {α : Type} (flaw : Flaw) (start stop : Nat) : Except Fault α :=
  .error ⟨flaw, some ⟨start, stop⟩⟩

/-- Fails at an empty span. -/
def failAt {α : Type} (flaw : Flaw) (offset : Nat) : Except Fault α := failOver flaw offset offset

/-- Fails at a span of one byte. -/
def failOn {α : Type} (flaw : Flaw) (offset : Nat) : Except Fault α :=
  failOver flaw offset (offset + 1)

/-! ## Strings -/

/-- The value of a hexadecimal digit. -/
def hexValue? (c : Char) : Option Nat :=
  if c.isDigit then some (c.toNat - '0'.toNat)
  else if 'a' ≤ c && c ≤ 'f' then some (c.toNat - 'a'.toNat + 10)
  else if 'A' ≤ c && c ≤ 'F' then some (c.toNat - 'A'.toNat + 10)
  else none

/-- Reads an escape of so many hexadecimal digits. -/
def hexEscape (count : Nat) (p : Piece) : Except Fault (Char × Piece) :=
  let digits := (p.rest.take count).takeWhile fun c => (hexValue? c).isSome
  if digits.length != count then failAt .shortEscape (p.offset + digits.length)
  else
    let n := digits.foldl (fun n c => n * 16 + (hexValue? c).getD 0) 0
    if n < 0xD800 || (0xDFFF < n && n < 0x110000) then .ok (Char.ofNat n, p.drop count)
    else failAt .invalidEscapeValue p.offset

/-- Reads an escape after its backslash. -/
def escape (p : Piece) : Except Fault (Char × Piece) :=
  match p.rest with
  | 'b' :: _ => .ok (Char.ofNat 8, p.drop 1)
  | 'e' :: _ => .ok (Char.ofNat 27, p.drop 1)
  | 'f' :: _ => .ok (Char.ofNat 12, p.drop 1)
  | 'n' :: _ => .ok ('\n', p.drop 1)
  | 'r' :: _ => .ok ('\r', p.drop 1)
  | 't' :: _ => .ok ('\t', p.drop 1)
  | '\\' :: _ => .ok ('\\', p.drop 1)
  | '"' :: _ => .ok ('"', p.drop 1)
  | 'x' :: _ => hexEscape 2 (p.drop 1)
  | 'u' :: _ => hexEscape 4 (p.drop 1)
  | 'U' :: _ => hexEscape 8 (p.drop 1)
  | _ => failAt .missingEscape p.offset

/-- Is the kind of string one that spans lines? -/
def StringForm.isLong : StringForm → Bool
  | literal | basic => false
  | longLiteral | longBasic => true

/-- Does a backslash begin an escape in the kind of string? -/
def StringForm.hasEscapes : StringForm → Bool
  | literal | longLiteral => false
  | basic | longBasic => true

/-- May a string hold the character as it is? -/
def stringMayHold (form : StringForm) (c : Char) : Bool :=
  c == '\t' || (32 ≤ c.toNat && c.toNat != 127) || (c == '\n' && form.isLong)

/-- Refuses the character at the front of a piece.  With escapes the whole run of
such characters is marked. -/
def refuseCharacter {α : Type} (form : StringForm) (p : Piece) : Except Fault α :=
  let run := p.rest.takeWhile fun c => !stringMayHold form c && c != '\\'
  let stop := if form.hasEscapes then p.offset + byteCount run else p.offset
  failOver (.invalidStringCharacter form) p.offset stop

/-- Is the character a blank within a line? -/
def isBlankInLine (c : Char) : Bool := c == ' ' || c == '\t'

/-- How many of the next characters are blanks and whole line breaks. -/
def blankRun : List Char → Nat
  | '\r' :: '\n' :: rest => blankRun rest + 2
  | c :: rest => if isBlankInLine c || c == '\n' then blankRun rest + 1 else 0
  | [] => 0

/-- Passes over what a backslash at the end of a line swallows: blanks, the line break
that has to follow them, and all further blanks and line breaks. -/
def passLineBreak (p : Piece) : Except Fault Piece :=
  let p := p.drop (p.rest.takeWhile isBlankInLine).length
  match p.rest with
  | '\n' :: _ | '\r' :: '\n' :: _ => .ok (p.drop (blankRun p.rest))
  | '\r' :: _ => failAt .strayCarriageReturn (p.offset + 1)
  | _ => failAt .missingLineBreak p.offset

/-- Reads the characters of a string, in reverse. -/
def stringChars (form : StringForm) :
    Nat → List Char → Piece → Except Fault (List Char)
  | 0, taken, _ => .ok taken
  | fuel + 1, taken, p =>
    match p.rest with
    | [] => .ok taken
    | '\r' :: rest =>
      if !form.isLong then refuseCharacter form p
      else if rest.head? == some '\n' then
        stringChars form fuel ('\n' :: '\r' :: taken) (p.drop 2)
      else failAt .strayCarriageReturn (p.offset + 1)
    | c :: _ =>
      if c == '\\' && form.hasEscapes then
        let after := p.drop 1
        if form.isLong && after.rest.head?.any (fun d => isBlankInLine d || d == '\r' || d == '\n')
        then do
          stringChars form fuel taken (← passLineBreak after)
        else do
          let (c, p) ← escape after
          stringChars form fuel (c :: taken) p
      else if stringMayHold form c then stringChars form fuel (c :: taken) (p.drop 1)
      else refuseCharacter form p

/-- The number of quotes around a kind of string. -/
def StringForm.quotes : StringForm → Nat
  | literal | basic => 1
  | longLiteral | longBasic => 3

/-- The characters between the quotes of a string; a line break right after the
opening quotes of a long string does not count. -/
def stringBody (form : StringForm) (span : Span) (text : List Char) : Except Fault Piece :=
  let n := form.quotes
  let body := text.drop n
  let closing := body.drop (body.length - n)
  if body.length < n || closing.any (· != form.quote) then
    failAt (.unclosedString form) span.stop
  else
    let inner : Piece := ⟨body.take (body.length - n), span.start + n⟩
    if n == 3 then
      match inner.rest with
      | '\n' :: _ => .ok (inner.drop 1)
      | '\r' :: '\n' :: _ => .ok (inner.drop 2)
      | _ => .ok inner
    else .ok inner

/-- The text of a string. -/
def stringText (form : StringForm) (span : Span) (text : List Char) : Except Fault String := do
  let body ← stringBody form span text
  return String.ofList (← stringChars form body.rest.length [] body).reverse

/-! ## Keys -/

/-- May a key without quotes hold the character? -/
def keyMayHold (c : Char) : Bool := c.isAlphanum || c == '-' || c == '_'

/-- The name that a written key stands for. -/
def WrittenKey.name (k : WrittenKey) : Except Fault String :=
  match k.form with
  | some form =>
    if form == .literal || form == .basic then stringText form k.span k.text
    else .error ⟨.longKey form, k.span⟩
  | none =>
    if k.text.isEmpty then .error ⟨.emptyKey, k.span⟩
    else
      let good := k.text.takeWhile keyMayHold
      let bad := (k.text.drop good.length).takeWhile fun c => !keyMayHold c
      let start := k.span.start + good.length
      if bad.isEmpty then .ok (String.ofList k.text)
      else failOver .invalidKey start (start + byteCount bad)

/-! ## Scalars without quotes -/

/-- The scalar that lacks quotes, or only the opening one. -/
def unquoted {α : Type} (span : Span) (text : List Char) : Except Fault α :=
  let endsWith (s : String) : Bool := s.toList.isSuffixOf text
  if endsWith "'''" then failAt (.missingOpeningQuote .longLiteral) span.start
  else if endsWith "\"\"\"" then failAt (.missingOpeningQuote .longBasic) span.start
  else if endsWith "'" then failAt (.missingOpeningQuote .literal) span.start
  else if endsWith "\"" then failAt (.missingOpeningQuote .basic) span.start
  else .error ⟨.unquoted, span⟩

/-- Is the character a digit of a base? -/
def isDigitOf (base : Nat) (c : Char) : Bool := (hexValue? c).any (· < base)

/-- The parts of a text between its underscores, with the offsets they start at. -/
def underscoreParts (p : Piece) : List (Nat × List Char) :=
  let step (c : Char) (r : Nat × List Char × List (Nat × List Char)) :=
    let (stop, part, parts) := r
    if c == '_' then (stop - 1, [], (stop, part) :: parts)
    else (stop - c.utf8Size, c :: part, parts)
  let (start, part, parts) := p.rest.foldr step (p.offset + byteCount p.rest, [], [])
  (start, part) :: parts

/-- Checks that the underscores of a number stand between digits. -/
def checkUnderscores (isDigit : Char → Bool) (span : Span) (p : Piece) : Except Fault Unit :=
  if !p.rest.contains '_' then .ok ()
  else if p.rest.head? == some '_' then failOn .misplacedUnderscore p.offset
  else if p.rest.getLast? == some '_' then
    failOn .misplacedUnderscore (p.offset + byteCount p.rest - 1)
  else
    (underscoreParts p).forM fun (start, part) =>
      let stop := start + byteCount part
      if span.start < start && !part.head?.all isDigit then
        failOn .misplacedUnderscore (start - 1)
      else if 1 < part.length && stop < span.stop && !part.getLast?.all isDigit then
        failOn .misplacedUnderscore stop
      else if part.isEmpty && start != span.start && stop != span.stop then
        failOn .misplacedUnderscore (start - 1)
      else .ok ()

/-- The natural number that digits of a base spell. -/
def digitsValue (base : Nat) (cs : List Char) : Nat :=
  cs.foldl (fun n c => n * base + (hexValue? c).getD 0) 0

/-- A fraction as a message shows it. -/
def showReal (isNegative : Bool) (d : Decimal) : Option String := do
  let b ← BinaryFormat.double.ofDecimal? d
  let s := (BinaryFormat.double.shortest b).positional
  return (if isNegative then "-" else "") ++ (if s.toList.contains '.' then s else s ++ ".0")

/-- A whole number, which has at most 128 bits. -/
def integerOf (n : Int) : Value :=
  if -(Nat.pow 2 127 : Int) ≤ n && n < (Nat.pow 2 128 : Int) then .integer n else .hugeInteger

/-- The fraction that characters without underscores spell. -/
def realValue (isNegative : Bool) (cs : List Char) : Value :=
  let mantissa := cs.takeWhile fun c => c != 'e' && c != 'E'
  let exponent := (cs.drop mantissa.length).drop 1
  let whole := mantissa.takeWhile (· != '.')
  let places := (mantissa.drop whole.length).drop 1
  let down := exponent.head? == some '-'
  let digits := if down || exponent.head? == some '+' then exponent.drop 1 else exponent
  let power : Int := digitsValue 10 digits
  let shift := (if down then -power else power) - (places.length : Int)
  match showReal isNegative ⟨digitsValue 10 (whole ++ places), shift⟩ with
  | some shown => .real shown
  | none => .hugeReal

/-- A number that is being read: whether it is negative, its text with its sign, and
what follows the sign. -/
structure Numeral where
  isNegative : Bool
  span : Span
  text : List Char
  body : Piece

namespace Numeral

/-- The numeral with its sign. -/
def whole (m : Numeral) : Piece := ⟨m.text, m.span.start⟩

/-- The characters after the sign without underscores. -/
def plainDigits (m : Numeral) : List Char := m.body.rest.filter (· != '_')

/-- Passes over a run of digits and underscores, which must have a digit; unless it
may, it does not begin with a zero before other digits. -/
def passDigits (subject : String) (mayBeginWithZero : Bool) (p : Piece) :
    Except Fault Piece :=
  let run := p.rest.takeWhile fun c => c.isDigit || c == '_'
  let count := (run.filter Char.isDigit).length
  if count == 0 then failAt (.missingDigits subject) p.offset
  else if 1 < count && run.head? == some '0' && !mayBeginWithZero then
    failOn .leadingZero p.offset
  else .ok (p.drop run.length)

/-- Passes over one of two characters, if it is there. -/
def passOne (c d : Char) (p : Piece) : Option Piece :=
  if p.rest.head?.any (fun x => x == c || x == d) then some (p.drop 1) else none

/-- Reads a fraction. -/
def real (m : Numeral) : Except Fault Value := do
  let p ← passDigits "mantissa" false m.body
  let p ← match passOne '.' '.' p with
    | some p => passDigits "fraction" true p
    | none => .ok p
  let p ← match passOne 'e' 'E' p with
    | some p => passDigits "exponent" true ((passOne '+' '-' p).getD p)
    | none => .ok p
  if p.rest.isEmpty then
    checkUnderscores Char.isDigit m.span m.whole
    return realValue m.isNegative m.plainDigits
  else failOver .invalidFloat p.offset m.span.stop

/-- Reads a whole number. -/
def integer (m : Numeral) : Except Fault Value := do
  if 1 < m.body.rest.length && m.body.rest.head? == some '0' then
    failOn .leadingZero m.body.offset
  else
    checkUnderscores (isDigitOf 16) m.span m.whole
    let digits := m.plainDigits
    if digits.isEmpty || !digits.all Char.isDigit then return .hugeInteger
    else
      let n : Int := digitsValue 10 digits
      return integerOf (if m.isNegative then -n else n)

/-- Reads the digits of a number in a base that its beginning names. -/
def based (base : Nat) (kind : String) (m : Numeral) (p : Piece) : Except Fault Value := do
  if (passOne '+' '-' p).isSome then failOn .redundantSign p.offset
  else
    let good := p.rest.takeWhile fun c => isDigitOf base c || c == '_'
    if good.length < p.rest.length then failAt (.invalidDigit kind) (p.offset + good.length)
    else
      checkUnderscores (isDigitOf 16) m.span p
      let digits := p.rest.filter (· != '_')
      return if digits.isEmpty then .hugeInteger else integerOf (digitsValue base digits)

/-- Reads a number or a date that begins with a digit or an underscore. -/
def decimalOrDate (m : Numeral) : Except Fault Value :=
  let rest := m.body.rest.dropWhile Char.isDigit
  match rest with
  | [] => m.integer
  | c :: _ =>
    if c == '-' || c == ':' then
      match checkMoment m.text with
      | .ok _ => .ok .datetime
      | .error e => .error ⟨.invalidMoment e.subject e.expected, m.span⟩
    else if rest.contains ' ' then unquoted m.span m.text
    else if rest.any fun c => c == '.' || c == 'e' || c == 'E' then m.real
    else if c == '_' then m.integer
    else unquoted m.span m.text

/-- Reads a name of a value that is written exactly one way. -/
def symbol (kind name : String) (v : Value) (m : Numeral) : Except Fault Value :=
  if m.body.rest == name.toList then .ok v
  else if m.text.contains ' ' then unquoted m.span m.text
  else failOver (.invalidSymbol kind name) m.body.offset m.span.stop

/-- Reads a number that begins with zero. -/
def zero (signed : Bool) (m : Numeral) : Except Fault Value :=
  let named (letter : Char) (base : Nat) (kind : String) (c : Char) : Except Fault Value :=
    if signed then failOn .signedWithRadix m.span.start
    else if c != letter then failOver (.upperCaseRadix letter) m.body.offset (m.body.offset + 2)
    else m.based base kind (m.body.drop 2)
  match (m.body.rest.drop 1).head? with
  | none => .ok (.integer 0)
  | some c =>
    match c.toLower with
    | 'x' => named 'x' 16 "hexadecimal" c
    | 'o' => named 'o' 8 "octal" c
    | 'b' => named 'b' 2 "binary" c
    | 'd' =>
      if signed then failOn .signedWithRadix m.span.start
      else failOver .redundantRadix m.body.offset (m.body.offset + 2)
    | _ => m.decimalOrDate

/-- Reads what follows a sign. -/
def signed (m : Numeral) : Except Fault Value :=
  let shown (s : String) : String := if m.isNegative then "-" ++ s else s
  match m.body.rest with
  | [] => unquoted m.span m.text
  | c :: _ =>
    if c == '+' || c == '-' then failOn .redundantSign m.body.offset
    else if c == '0' then m.zero true
    else if c.isDigit || c == '_' then m.decimalOrDate
    else if c == '.' then real { m with body := m.whole }
    else if c == 'i' || c == 'I' then m.symbol "float" "inf" (.real (shown "inf"))
    else if c == 'n' || c == 'N' then m.symbol "float" "nan" (.real "NaN")
    else unquoted m.span m.text

end Numeral

/-- The value of a scalar without quotes. -/
def plainScalar (span : Span) (text : List Char) : Except Fault Value :=
  let p : Piece := ⟨text, span.start⟩
  let m : Numeral := ⟨false, span, text, p⟩
  match text with
  | [] => unquoted span text
  | c :: _ =>
    if c == '+' || c == '-' then Numeral.signed ⟨c == '-', span, text, p.drop 1⟩
    else if c == '0' then m.zero false
    else if c.isDigit || c == '_' then m.decimalOrDate
    else if c == '.' then m.real
    else if c == 't' || c == 'T' then m.symbol "boolean" "true" (.flag true)
    else if c == 'f' || c == 'F' then m.symbol "boolean" "false" (.flag false)
    else if c == 'i' || c == 'I' then m.symbol "float" "inf" (.real "inf")
    else if c == 'n' || c == 'N' then m.symbol "float" "nan" (.real "NaN")
    else unquoted span text

/-- The value of a scalar. -/
def scalar (form : Option StringForm) (span : Span) (text : List Char) : Except Fault Value :=
  match form with
  | some form => do return .text (← stringText form span text)
  | none => plainScalar span text

end SceneRender.Toml
