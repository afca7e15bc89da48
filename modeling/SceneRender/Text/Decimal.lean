/-!
# Binary fractions in decimal

A binary floating point number is a pair `m · 2 ^ q`.  This module rounds a
quotient of naturals to the nearest such number of a format, ties to even, and
goes back from a number to the **shortest decimal that reads back** as it: of
the decimal grids of 1, 2, 3 … digits the first one with a point inside the
rounding interval wins, and of two such points the nearer.  All arithmetic is
exact, on naturals.
-/

namespace SceneRender.Text

/-- A binary format: the bits of the mantissa and the range of the exponent of
its last bit. -/
structure BinaryFormat where
  precision : Nat
  lowest : Int
  highest : Int

/-- Double precision. -/
def BinaryFormat.double : BinaryFormat := ⟨53, -1074, 971⟩

/-- Single precision. -/
def BinaryFormat.single : BinaryFormat := ⟨24, -149, 104⟩

/-- The number `mantissa · 2 ^ exponent`. -/
structure Binary where
  mantissa : Nat
  exponent : Int
  deriving DecidableEq, Repr

/-- The decimal `digits · 10 ^ exponent`. -/
structure Decimal where
  digits : Nat
  exponent : Int
  deriving DecidableEq, Repr

/-- The quotient rounded to the nearest natural, a half to the even neighbour. -/
def roundDiv (num den : Nat) : Nat :=
  let quotient := num / den
  let rest := 2 * (num % den)
  if rest < den || (rest == den && quotient % 2 == 0) then quotient else quotient + 1

/-- The fraction `num / den` scaled by a power of the base, as a fraction. -/
def scale (base : Nat) (num den : Nat) (by_ : Int) : Nat × Nat :=
  if 0 ≤ by_ then (num * base.pow by_.toNat, den) else (num, den * base.pow (-by_).toNat)

/-- The exponent `k` with `2 ^ k ≤ num / den < 2 ^ (k + 1)`. -/
def floorLog2 (num den : Nat) : Int :=
  let guess : Int := (num.log2 : Int) - (den.log2 : Int)
  let scaled := scale 2 num den (-guess)
  if scaled.1 < scaled.2 then guess - 1 else guess

/-- The number of the format nearest to `num / den`, a half to the even
mantissa; nothing when it is beyond the largest number. -/
def BinaryFormat.nearest? (f : BinaryFormat) (num den : Nat) : Option Binary :=
  if num == 0 then some ⟨0, f.lowest⟩
  else
    let q := max (floorLog2 num den - ((f.precision : Int) - 1)) f.lowest
    let scaled := scale 2 num den (-q)
    let m := roundDiv scaled.1 scaled.2
    let b : Binary := if m == Nat.pow 2 f.precision then ⟨m / 2, q + 1⟩ else ⟨m, q⟩
    if b.exponent > f.highest then none else some b

/-- The number of the format nearest to a decimal.  A decimal far beyond the
format's range is settled by its length alone. -/
def BinaryFormat.ofDecimal? (f : BinaryFormat) (d : Decimal) : Option Binary :=
  let size : Int := ((Nat.toDigits 10 d.digits).length : Int) + d.exponent
  if d.digits == 0 || size < -400 then some ⟨0, f.lowest⟩
  else if size > 400 then none
  else
    let fraction := scale 10 d.digits 1 d.exponent
    f.nearest? fraction.1 fraction.2

/-- The rounding interval of a number, as two numerators over the denominator
`4 · 2 ^ (-q)`: everything between them is rounded to the number. -/
def BinaryFormat.interval (f : BinaryFormat) (b : Binary) : Nat × Nat :=
  let low := if b.mantissa == Nat.pow 2 (f.precision - 1) && b.exponent > f.lowest
    then 4 * b.mantissa - 1 else 4 * b.mantissa - 2
  (low, 4 * b.mantissa + 2)

/-- The best point of the decimal grid `10 ^ k` inside the rounding interval of
a number: the nearer of the number's two neighbours on the grid. -/
def BinaryFormat.gridPoint? (f : BinaryFormat) (b : Binary) (k : Int) : Option Nat :=
  -- everything is measured in quarters of the last bit, over the grid
  let measure (n : Nat) : Nat × Nat :=
    let s := scale 2 n 4 b.exponent
    scale 10 s.1 s.2 (-k)
  let den := (measure 1).2
  let value := (measure (4 * b.mantissa)).1
  let low := (measure (f.interval b).1).1
  let high := (measure (f.interval b).2).1
  let inside (n : Nat) : Bool :=
    let p := n * den
    if b.mantissa % 2 == 0 then low ≤ p && p ≤ high else low < p && p < high
  let below := value / den
  let above := below + 1
  let belowNearer := 2 * value < (below + above) * den ||
    (2 * value == (below + above) * den && below % 2 == 0)
  if inside below && (belowNearer || !inside above) then some below
  else if inside above then some above
  else none

/-- The exponent `k` with `10 ^ k ≤ num / den < 10 ^ (k + 1)`, found from a
guess by at most two corrections. -/
def floorLog10 (num den : Nat) : Int :=
  let guess : Int := floorLog2 num den * 30103 / 100000
  let fits (k : Int) : Bool :=
    let s := scale 10 num den (-k)
    s.2 ≤ s.1
  if fits (guess + 1) then guess + 1 else if fits guess then guess else guess - 1

/-- Tries the decimal grids from the coarsest on, `grids` of them. -/
def BinaryFormat.firstGrid (f : BinaryFormat) (b : Binary) : Nat → Int → Decimal
  | 0, k => ⟨0, k⟩
  | grids + 1, k =>
    match f.gridPoint? b k with
    | some n => ⟨n, k⟩
    | none => f.firstGrid b grids (k - 1)

/-- A decimal without trailing zeros in its digits. -/
def Decimal.strip : Nat → Decimal → Decimal
  | 0, d => d
  | fuel + 1, d =>
    if d.digits != 0 && d.digits % 10 == 0 then strip fuel ⟨d.digits / 10, d.exponent + 1⟩ else d

/-- The shortest decimal that reads back as the number. -/
def BinaryFormat.shortest (f : BinaryFormat) (b : Binary) : Decimal :=
  if b.mantissa == 0 then ⟨0, 0⟩
  else
    let fraction := scale 2 b.mantissa 1 b.exponent
    Decimal.strip 20 (f.firstGrid b 20 (floorLog10 fraction.1 fraction.2))

/-- A decimal written out without an exponent. -/
def Decimal.positional (d : Decimal) : String :=
  let digits := Nat.toDigits 10 d.digits
  if 0 ≤ d.exponent then
    String.ofList (if d.digits == 0 then ['0'] else digits ++ List.replicate d.exponent.toNat '0')
  else
    let places := (-d.exponent).toNat
    let padded := List.replicate (places + 1 - digits.length) '0' ++ digits
    let whole := padded.length - places
    String.ofList (padded.take whole ++ '.' :: padded.drop whole)

end SceneRender.Text
