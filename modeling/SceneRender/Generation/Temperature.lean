import SceneRender.Json.Value

/-!
# Sampling temperatures

How freely a language model chooses its words.  A temperature is kept in single
precision; when it is sent, it is the double of the same value.
-/

namespace SceneRender

open SceneRender.Text

/-- A sampling temperature, given as a decimal. -/
structure Temperature where
  decimal : Decimal
  deriving DecidableEq, Repr

namespace Temperature

/-- The temperature for new and for revised code. -/
def creative : Temperature := ⟨⟨2, -1⟩⟩

/-- The temperature for repairs. -/
def careful : Temperature := ⟨⟨1, -1⟩⟩

/-- The double of a number of single precision. -/
def widened (b : Binary) : Binary :=
  let fraction := scale 2 b.mantissa 1 b.exponent
  (BinaryFormat.double.nearest? fraction.1 fraction.2).getD b

/-- A temperature as it is sent; one that is out of range is sent as null. -/
def toJson (t : Temperature) : Json.Value :=
  match BinaryFormat.single.ofDecimal? t.decimal with
  | some b => .number (.real false (widened b))
  | none => .null

end Temperature

end SceneRender
