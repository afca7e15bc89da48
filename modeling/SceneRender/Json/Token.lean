import SceneRender.Json.Cursor

/-!
# Texts and numbers of a JSON document

A text is read after its opening quote: raw characters from U+0020 on, the
short escapes, and `\u` with four hexadecimal digits, a pair of them for a
character beyond U+FFFF.  A whole number that fits 64 bits is exact.  Any other
number is a significand of at most 64 bits times a power of ten, computed in
doubles with one multiplication or division by a power of ten, so that a long
one may miss its nearest double.
-/

namespace SceneRender.Json

open SceneRender.Text

/-- The value of a hexadecimal digit. -/
def hexValue? (c : Char) : Option Nat :=
  if c.isDigit then some (c.toNat - '0'.toNat)
  else if 'a' ≤ c && c ≤ 'f' then some (c.toNat - 'a'.toNat + 10)
  else if 'A' ≤ c && c ≤ 'F' then some (c.toNat - 'A'.toNat + 10)
  else none

/-- The value of four hexadecimal digits. -/
def hexValue4? (a b c d : Char) : Option Nat := do
  let high := (← hexValue? a) * 16 + (← hexValue? b)
  let low := (← hexValue? c) * 16 + (← hexValue? d)
  return high * 256 + low

/-- The number of bytes of a character list. -/
def byteCount (cs : List Char) : Nat := cs.foldl (fun n c => n + c.utf8Size) 0

namespace Cursor

/-- Reads the four digits of a `\u` escape. -/
def hexEscape (c : Cursor) : Except SyntaxProblem (Nat × Cursor) :=
  match c.rest with
  | x :: y :: z :: w :: rest =>
    match hexValue4? x y z w with
    | some n => .ok (n, ⟨rest, c.place.afterBytes 4 c.rest⟩)
    | none => .error ⟨.invalidEscape, c.place.afterBytes 4 c.rest⟩
  | short =>
    if byteCount short < 4 then .error ⟨.unclosedText, c.place.afterBytes 4 short⟩
    else .error ⟨.invalidEscape, c.place.afterBytes 4 short⟩

/-- Takes the given character as the next part of a surrogate pair. -/
def pairPart (c : Cursor) (expected : Char) : Except SyntaxProblem Cursor :=
  match c.rest with
  | [] => c.fail .unclosedText
  | ch :: _ => if ch == expected then .ok c.advance else c.failAhead .halfSurrogatePair

/-- Reads a `\u` escape after its letter. -/
def unicodeEscape (c : Cursor) : Except SyntaxProblem (Char × Cursor) := do
  let (high, c) ← c.hexEscape
  if 0xDC00 ≤ high && high ≤ 0xDFFF then c.fail .loneSurrogate
  else if high < 0xD800 || 0xDBFF < high then return (Char.ofNat high, c)
  else
    let c ← c.pairPart '\\'
    let c ← c.pairPart 'u'
    let (low, c) ← c.hexEscape
    if low < 0xDC00 || 0xDFFF < low then c.fail .loneSurrogate
    else return (Char.ofNat (0x10000 + (high - 0xD800) * 0x400 + (low - 0xDC00)), c)

/-- Reads an escape after its backslash. -/
def escape (c : Cursor) : Except SyntaxProblem (Char × Cursor) :=
  match c.rest with
  | [] => c.fail .unclosedText
  | '"' :: _ => .ok ('"', c.advance)
  | '\\' :: _ => .ok ('\\', c.advance)
  | '/' :: _ => .ok ('/', c.advance)
  | 'b' :: _ => .ok (Char.ofNat 8, c.advance)
  | 'f' :: _ => .ok (Char.ofNat 12, c.advance)
  | 'n' :: _ => .ok ('\n', c.advance)
  | 'r' :: _ => .ok ('\r', c.advance)
  | 't' :: _ => .ok ('\t', c.advance)
  | 'u' :: _ => c.advance.unicodeEscape
  | _ => c.failAhead .invalidEscape

/-- Reads the characters of a text up to its closing quote, in reverse; `fuel`
bounds their number. -/
def textChars : Nat → List Char → Cursor → Except SyntaxProblem (List Char × Cursor)
  | 0, _, c => c.fail .unclosedText
  | fuel + 1, taken, c =>
    match c.rest with
    | [] => c.fail .unclosedText
    | '"' :: _ => .ok (taken, c.advance)
    | '\\' :: _ => do
      let (ch, c) ← c.advance.escape
      textChars fuel (ch :: taken) c
    | ch :: _ =>
      if ch.toNat < 32 then c.failAhead .controlCharacter
      else textChars fuel (ch :: taken) c.advance

/-- Reads a text after its opening quote. -/
def text (c : Cursor) : Except SyntaxProblem (String × Cursor) := do
  let (taken, c) ← textChars (c.rest.length + 1) [] c
  return (String.ofList taken.reverse, c)

end Cursor

/-- The largest significand that is kept. -/
def maxSignificand : Nat := Nat.pow 2 64 - 1

/-- The power of ten as a double. -/
def powerOfTen (n : Nat) : Binary := (BinaryFormat.double.nearest? (Nat.pow 10 n) 1).getD ⟨0, 0⟩

/-- A double times a power of ten; nothing when that is beyond all doubles. -/
def timesPower? (b : Binary) (n : Nat) : Option Binary :=
  let p := powerOfTen n
  let f := scale 2 (b.mantissa * p.mantissa) 1 (b.exponent + p.exponent)
  BinaryFormat.double.nearest? f.1 f.2

/-- A double divided by a power of ten. -/
def overPower (b : Binary) (n : Nat) : Binary :=
  let p := powerOfTen n
  let f := scale 2 b.mantissa p.mantissa (b.exponent - p.exponent)
  (BinaryFormat.double.nearest? f.1 f.2).getD ⟨0, 0⟩

/-- Divides by powers of ten up to the 308th until the exponent is used up. -/
def overPowers : Nat → Binary → Nat → Binary
  | 0, b, _ => b
  | fuel + 1, b, n =>
    if n ≤ 308 then overPower b n
    else if b.mantissa == 0 then b
    else overPowers fuel (overPower b 308) (n - 308)

/-- The double `significand · 10 ^ exponent`; nothing when it is beyond all
doubles. -/
def scaled? (significand : Nat) (exponent : Int) : Option Binary :=
  let b := (BinaryFormat.double.nearest? significand 1).getD ⟨0, 0⟩
  if exponent < 0 then some (overPowers 3 b (-exponent).toNat)
  else if exponent ≤ 308 then timesPower? b exponent.toNat
  else if significand == 0 then some b
  else none

/-- The largest exponent that is computed with. -/
def maxExponent : Nat := Nat.pow 2 31 - 1

namespace Cursor

/-- The double of a significand and an exponent. -/
def real (c : Cursor) (isNegative : Bool) (significand : Nat) (exponent : Int) :
    Except SyntaxProblem (Number × Cursor) :=
  match scaled? significand exponent with
  | some b => .ok (.real isNegative b, c)
  | none => c.fail .numberOutOfRange

/-- The digits that come next, as a number. -/
def digitsValue (cs : List Char) : Nat :=
  cs.foldl (fun n c => n * 10 + (c.toNat - '0'.toNat)) 0

/-- Reads an exponent after its letter. -/
def exponentPart (c : Cursor) (isNegative : Bool) (significand : Nat) (start : Int) :
    Except SyntaxProblem (Number × Cursor) :=
  let down := c.peek? == some '-'
  let c := if down || c.peek? == some '+' then c.advance else c
  match c.rest with
  | [] => c.fail .missingValue
  | ch :: _ =>
    if !ch.isDigit then c.failAhead .invalidNumber
    else
      let digits := c.rest.takeWhile Char.isDigit
      let exponent := digitsValue digits
      if exponent ≤ maxExponent then
        c.pastDigits.real isNegative significand
          (if down then start - exponent else start + exponent)
      else if significand != 0 && !down then
        -- the place is where the exponent grew too large
        let fitting := (List.range (digits.length + 1)).find? fun n =>
          maxExponent < digitsValue (digits.take n)
        .error ⟨.numberOutOfRange, c.place.afterBytes (fitting.getD digits.length) digits⟩
      else .ok (.real isNegative ⟨0, 0⟩, c.pastDigits)

/-- Is an exponent next? -/
def atExponent (c : Cursor) : Bool := c.peek? == some 'e' || c.peek? == some 'E'

/-- Takes the digits of a significand while it fits: the significand, how many
digits were taken, and the cursor after them. -/
def significandDigits : List Char → Nat → Nat → Place → Nat × Nat × Cursor
  | [], n, count, place => (n, count, ⟨[], place⟩)
  | ch :: rest, n, count, place =>
    let next := n * 10 + (ch.toNat - '0'.toNat)
    if ch.isDigit && next ≤ maxSignificand then
      significandDigits rest next (count + 1) (place.after ch)
    else (n, count, ⟨ch :: rest, place⟩)

/-- Reads the places after the point. -/
def fractionPart (c : Cursor) (isNegative : Bool) (significand : Nat) (start : Int) :
    Except SyntaxProblem (Number × Cursor) :=
  let (n, count, after) := significandDigits c.rest significand 0 c.place
  let full := (after.peek?).any Char.isDigit
  if count == 0 && !full then
    match after.peek? with
    | some _ => after.failAhead .invalidNumber
    | none => after.failAhead .missingValue
  else
    let exponent := start - count
    let after := after.pastDigits
    if after.atExponent then after.advance.exponentPart isNegative n exponent
    else after.real isNegative n exponent

/-- Reads a number after its sign. -/
def number (c : Cursor) (isNegative : Bool) : Except SyntaxProblem (Number × Cursor) :=
  match c.rest with
  | [] => c.fail .missingValue
  | ch :: _ =>
    if !ch.isDigit then c.failAhead .invalidNumber
    else if ch == '0' && (c.advance.peek?).any Char.isDigit then c.advance.failAhead .invalidNumber
    else
      let (n, _, after) := significandDigits c.rest 0 0 c.place
      let dropped := (after.rest.takeWhile Char.isDigit).length
      let after := after.pastDigits
      if after.peek? == some '.' then after.advance.fractionPart isNegative n dropped
      else if after.atExponent then after.advance.exponentPart isNegative n dropped
      else if dropped != 0 then after.real isNegative n dropped
      else if !isNegative then .ok (.natural n, after)
      else if n == 0 || Nat.pow 2 63 < n then after.real true n 0
      else .ok (.negative n, after)

end Cursor

end SceneRender.Json
