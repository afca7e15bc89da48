import SceneRender.Json.Printer
import SceneRender.Schema.JsonText

/-!
# Forms read from a JSON value

The fields of a record are taken in the order of their names, so that the first
mismatch does not depend on how the record was written.
-/

namespace SceneRender.Schema

open SceneRender.Json

/-- What a value is found as where something else was expected. -/
def foundValue : Value → Found
  | .null => .null
  | .flag b => .flag b
  | .number n => foundNumber n
  | .text s => .text s
  | .list _ => .list
  | .record _ => .record

/-- A value of another kind than expected. -/
def wrongValue {α : Type} (v : Value) (expected : String) : Except Mismatch α :=
  .error (.kind (foundValue v) expected)

/-- The texts of a list. -/
def textItems : List Value → Except Mismatch (List String)
  | [] => .ok []
  | .text s :: rest => do return s :: (← textItems rest)
  | v :: _ => wrongValue v "a string"

/-- Fits a value into a slot. -/
def Slot.ofValue {σ : Type} (slot : Slot σ) (v : Value) : Except Mismatch (σ → σ) :=
  match slot, v with
  | .text _ _ fill, .text s => .ok (fill s)
  | .text _ true _, .null => .ok id
  | .text expected _ _, v => wrongValue v expected
  | .flag fill, .flag b => .ok (fill b)
  | .flag _, v => wrongValue v "a boolean"
  | .natural kind largest fill, .number (.natural n) => fitNatural kind largest fill n
  | .natural kind _ _, .number (.negative n) => .error (.value (.integer (-(n : Int))) kind)
  | .natural kind _ _, v => wrongValue v kind
  | .choice options, .text name => fitChoice options name
  | .choice options, .record [(name, inner)] => do
    let set ← fitChoice options name
    match inner with
    | .null => return set
    | v => wrongValue v "unit"
  | .choice _, .record _ => .error (.value .record "map with a single key")
  | .choice _, v => wrongValue v "string or map"
  | .texts fill, .list items => do return fill (← textItems items)
  | .texts _, v => wrongValue v "a sequence"

namespace Form

variable {σ : Type}

/-- Fills the form from fields in the given order. -/
def fillFields (form : Form σ) : List (String × Value) → σ → Except Mismatch σ
  | [], filled => .ok filled
  | (name, v) :: rest, filled =>
    match form.field? name with
    | none => form.fillFields rest filled
    | some f => do form.fillFields rest ((← f.slot.ofValue v) filled)

/-- Fills fields from values in the order of the form; `n` were filled before. -/
def fillItems (form : Form σ) : List (Field σ) → List Value → Nat → σ → Except Mismatch σ
  | _, [], n, filled =>
    match (form.fields.drop n).find? (·.required) with
    | none => .ok filled
    | some _ => .error (.length n form.expectedLength)
  | [], _ :: rest, n, _ => .error (.length (n + 1 + rest.length) "fewer elements in array")
  | f :: fields, v :: rest, n, filled => do
    form.fillItems fields rest (n + 1) ((← f.slot.ofValue v) filled)

/-- Fills the form from a value, starting with the given thing. -/
def ofValue (form : Form σ) (start : σ) (v : Value) : Except Mismatch σ :=
  match v with
  | .record fields => do
    let filled ← form.fillFields (fields.mergeSort fun a b => a.1 ≤ b.1) start
    match form.missing? (fields.map (·.1)) with
    | some name => .error (.missingField name)
    | none => return filled
  | .list items => form.fillItems form.fields items 0 start
  | v => wrongValue v form.expected

end Form

end SceneRender.Schema
