import SceneRender.Text.Decimal

/-!
# JSON values

The value type of JSON documents.  A whole number that fits 64 bits keeps its
exact value; every other number is a double, given by its sign and magnitude.
The fields of a record stand in the order in which they are written out.
-/

namespace SceneRender.Json

open SceneRender.Text

/-- A number of a document. -/
inductive Number where
  /-- A whole number that is not negative. -/
  | natural (n : Nat)
  /-- The whole number `-n`, for a positive `n`. -/
  | negative (n : Nat)
  /-- A double. -/
  | real (isNegative : Bool) (magnitude : Binary)
  deriving DecidableEq, Repr

/-- A JSON value. -/
inductive Value where
  | null
  | flag (b : Bool)
  | number (n : Number)
  | text (s : String)
  | list (items : List Value)
  | record (fields : List (String × Value))
  deriving Repr, Inhabited

namespace Value

/-- A natural number as a value. -/
def natural (n : Nat) : Value := .number (.natural n)

/-- A text, or null when there is none. -/
def textOrNull : Option String → Value
  | some s => .text s
  | none => .null

/-- A list of texts. -/
def texts (ss : List String) : Value := .list (ss.map .text)

/-- The member of a record with the given name. -/
def field? (v : Value) (name : String) : Option Value :=
  match v with
  | .record fields => fields.lookup name
  | _ => none

/-- The text that the value is. -/
def text? : Value → Option String
  | .text s => some s
  | _ => none

/-- The natural number that the value is. -/
def natural? : Value → Option Nat
  | .number (.natural n) => some n
  | _ => none

/-- The flag that the value is. -/
def flag? : Value → Option Bool
  | .flag b => some b
  | _ => none

/-- The items of the list that the value is. -/
def items? : Value → Option (List Value)
  | .list items => some items
  | _ => none

/-- Is the value null? -/
def isNull : Value → Bool
  | .null => true
  | _ => false

end Value

end SceneRender.Json
