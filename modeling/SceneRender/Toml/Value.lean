import SceneRender.Toml.Fault
import SceneRender.Text.Decimal

/-!
# TOML values

The value type of TOML documents.  Every value in a list or a table keeps the
span it was written in, so that a later complaint can show it.

A table remembers how it came about.  A table that only a longer name mentions is
implied and may still be written out; one that a dotted key makes or passes through
is grown and may grow on; one that is written between braces is inline and never
grows; all others are complete.
-/

namespace SceneRender.Toml

open SceneRender.Text

/-- How a table came about. -/
inductive TableOrigin where
  | complete
  | implied
  | grown
  | inline
  deriving DecidableEq, Repr

/-- A TOML value. -/
inductive Value where
  | text (s : String)
  | integer (n : Int)
  /-- A whole number of more than 128 bits, or one whose digits spell no number. -/
  | hugeInteger
  /-- A fraction, given by how a message shows it. -/
  | real (shown : String)
  /-- A fraction beyond all doubles. -/
  | hugeReal
  | flag (b : Bool)
  | datetime
  /-- A list; one that headers make holds tables only and can be extended. -/
  | list (ofHeaders : Bool) (items : List (Span × Value))
  | table (origin : TableOrigin) (fields : List (String × Span × Value))
  deriving Repr

/-- How a message names the kind of a value. -/
def Value.kind : Value → String
  | text _ => "string"
  | integer _ | hugeInteger => "integer"
  | real _ | hugeReal => "float"
  | flag _ => "boolean"
  | datetime => "datetime"
  | list .. => "array"
  | table .. => "table"

/-- The fields of a table, in the order of their names. -/
abbrev Fields := List (String × Span × Value)

/-- The value of a field. -/
def Fields.get? (fields : Fields) (name : String) : Option (Span × Value) := fields.lookup name

/-- The fields with one replaced or added; they stay in the order of their names. -/
def Fields.set : Fields → String → Span → Value → Fields
  | [], name, span, v => [(name, span, v)]
  | f :: rest, name, span, v =>
    if f.1 == name then (name, span, v) :: rest
    else if name < f.1 then (name, span, v) :: f :: rest
    else f :: Fields.set rest name span v

/-- The fields without one. -/
def Fields.erase (fields : Fields) (name : String) : Fields := fields.filter (·.1 != name)

end SceneRender.Toml
