/-!
# Lines of a text

Which line a byte offset lies in: one more than the number of line feeds before
it.  The index keeps the offsets at which lines start, in ascending order, and
finds the last one that is not beyond the offset by halving.
-/

namespace SceneRender.Script

/-- The byte that ends a line. -/
def lineFeed : UInt8 := 10

/-- The offsets at which the lines of a text start, in ascending order. -/
structure LineIndex where
  starts : Array Nat

namespace LineIndex

/-- The offsets after each line feed, for bytes that begin at `pos`. -/
def startsAfter (pos : Nat) : List UInt8 → List Nat
  | [] => []
  | b :: rest =>
    if b == lineFeed then (pos + 1) :: startsAfter (pos + 1) rest else startsAfter (pos + 1) rest

/-- The index of a text given by its bytes. -/
def ofBytes (bytes : List UInt8) : LineIndex := ⟨(0 :: startsAfter 0 bytes).toArray⟩

/-- The number of entries below `high` that are at most `offset`, given that this
holds of all below `low`. -/
def countUpTo (starts : Array Nat) (offset low high : Nat) : Nat :=
  if h : low < high then
    let middle := (low + high) / 2
    if (starts[middle]?).any (· ≤ offset) then countUpTo starts offset (middle + 1) high
    else countUpTo starts offset low middle
  else low
  termination_by high - low

/-- The line of an offset, counted from one. -/
def lineOf (index : LineIndex) (offset : Nat) : Nat :=
  max 1 (countUpTo index.starts offset 0 index.starts.size)

end LineIndex

end SceneRender.Script
