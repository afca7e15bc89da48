/-!
# Reading bytes as text

Bytes that somebody else wrote need not be UTF-8.  They are read character by
character; what does not belong to one is read as the replacement character, once
for each longest beginning of a character and once for each byte that begins
none.  Bytes that are UTF-8 are read as they are meant.
-/

namespace SceneRender.Text

/-- What stands for bytes that are no character. -/
def replacement : Char := '\ufffd'

/-- A character that has begun: the bits so far, how many bytes are missing, and
the bounds of the next one. -/
structure Begun where
  bits : Nat
  missing : Nat
  low : Nat
  high : Nat
  deriving DecidableEq, Repr

/-- The character that a byte begins, if it is one of several bytes.  The bounds
of the second byte leave out long spellings, surrogates and what lies beyond the
last character. -/
def begun? (b : Nat) : Option Begun :=
  if 0xC2 ≤ b && b ≤ 0xDF then some ⟨b - 0xC0, 1, 0x80, 0xBF⟩
  else if b == 0xE0 then some ⟨0, 2, 0xA0, 0xBF⟩
  else if b == 0xED then some ⟨0xD, 2, 0x80, 0x9F⟩
  else if 0xE1 ≤ b && b ≤ 0xEF then some ⟨b - 0xE0, 2, 0x80, 0xBF⟩
  else if b == 0xF0 then some ⟨0, 3, 0x90, 0xBF⟩
  else if b == 0xF4 then some ⟨4, 3, 0x80, 0x8F⟩
  else if 0xF1 ≤ b && b ≤ 0xF3 then some ⟨b - 0xF0, 3, 0x80, 0xBF⟩
  else none

/-- Where the reading of bytes stands: what was read, reversed, and the character
that has begun. -/
structure Reading where
  chars : List Char := []
  begun : Option Begun := none
  deriving DecidableEq, Repr

namespace Reading

/-- Adds a character. -/
def push (r : Reading) (c : Char) : Reading := { chars := c :: r.chars }

/-- Reads a byte with which a character may begin. -/
def first (r : Reading) (b : Nat) : Reading :=
  if b < 0x80 then r.push (Char.ofNat b)
  else match begun? b with
    | some begun => { r with begun := some begun }
    | none => r.push replacement

/-- Reads a byte. -/
def next (r : Reading) (byte : UInt8) : Reading :=
  let b := byte.toNat
  match r.begun with
  | none => r.first b
  | some begun =>
    if begun.low ≤ b && b ≤ begun.high then
      let bits := begun.bits * 64 + (b - 0x80)
      if begun.missing ≤ 1 then r.push (Char.ofNat bits)
      else { r with begun := some ⟨bits, begun.missing - 1, 0x80, 0xBF⟩ }
    else (r.push replacement).first b

/-- What was read; a character that is not complete is none. -/
def text (r : Reading) : String :=
  String.ofList (if r.begun.isSome then r.push replacement else r).chars.reverse

end Reading

/-- Bytes as text. -/
def ofBytes (bytes : ByteArray) : String :=
  (bytes.toList.foldl Reading.next {}).text

end SceneRender.Text
