/-!
# Percent-encoded text

In a path, a percent sign followed by two hexadecimal digits stands for one byte.
A percent sign that is followed by anything else stands for itself.  The bytes of
a decoded text have to form characters.
-/

namespace SceneRender.PercentText

/-- The value of a hexadecimal digit, given as a byte. -/
def digit? (b : UInt8) : Option UInt8 :=
  if 48 ≤ b && b ≤ 57 then some (b - 48)
  else if 65 ≤ b && b ≤ 70 then some (b - 55)
  else if 97 ≤ b && b ≤ 102 then some (b - 87)
  else none

/-- The bytes that an encoded text stands for. -/
def decodeBytes : List UInt8 → List UInt8
  | 37 :: high :: low :: rest =>
    match digit? high, digit? low with
    | some h, some l => (16 * h + l) :: decodeBytes rest
    | _, _ => 37 :: decodeBytes (high :: low :: rest)
  | b :: rest => b :: decodeBytes rest
  | [] => []

/-- The text that an encoded text stands for, if its bytes form one. -/
def decode? (s : String) : Option String :=
  String.fromUTF8? ⟨(decodeBytes s.toUTF8.data.toList).toArray⟩

end SceneRender.PercentText
