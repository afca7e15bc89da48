import SceneRender.Schema.Form
import SceneRender.Toml.Document

/-!
# Forms read from a TOML document

The fields of a table are taken in the order of their names.  A mismatch is
reported at the span of the value that does not fit.  A table may also be given
as a list of its values in the order of the form; values beyond its fields do not
count.
-/

namespace SceneRender.Schema

open SceneRender

/-- Why a document does not fill a form. -/
structure TomlProblem where
  message : String
  span : Toml.Span
  deriving DecidableEq, Repr

/-- A mismatch at a span. -/
def mismatchOn {α : Type} (span : Toml.Span) (m : Mismatch) : Except TomlProblem α :=
  .error ⟨m.message, span⟩

/-- What a value is found as where something else was expected. -/
def foundToml : Toml.Value → Found
  | .text s => .text s
  | .integer n => .integer n
  | .hugeInteger => .integer 0
  | .real shown => .real shown
  | .hugeReal => .real "inf"
  | .flag b => .flag b
  | .list .. => .list
  | .datetime | .table .. => .record

/-- A value of another kind than expected. -/
def wrongToml {α : Type} (span : Toml.Span) (v : Toml.Value) (expected : String) :
    Except TomlProblem α :=
  match v with
  | .integer n =>
    if -(Nat.pow 2 63 : Int) ≤ n && n < (Nat.pow 2 64 : Int) then
      mismatchOn span (.kind (.integer n) expected)
    else
      let width := if n < (Nat.pow 2 127 : Int) then "i128" else "u128"
      .error ⟨"invalid type: integer `" ++ toString n ++ "` as " ++ width ++ ", expected " ++
        expected, span⟩
  | .hugeInteger => .error ⟨"integer number overflowed", span⟩
  | .hugeReal => .error ⟨"floating-point number overflowed", span⟩
  | v => mismatchOn span (.kind (foundToml v) expected)

/-- The texts of a list. -/
def tomlTexts : List (Toml.Span × Toml.Value) → Except TomlProblem (List String)
  | [] => .ok []
  | (_, .text s) :: rest => do return s :: (← tomlTexts rest)
  | (span, v) :: _ => wrongToml span v "a string"

/-- Fits the mismatch of a value to its span. -/
def onSpan {α : Type} (span : Toml.Span) (r : Except Mismatch α) : Except TomlProblem α :=
  match r with
  | .ok a => .ok a
  | .error m => mismatchOn span m

/-- Fits a value into a slot. -/
def Slot.ofToml {σ : Type} (slot : Slot σ) (span : Toml.Span) (v : Toml.Value) :
    Except TomlProblem (σ → σ) :=
  match slot, v with
  | .text _ _ fill, .text s => .ok (fill s)
  | .text expected _ _, v => wrongToml span v expected
  | .flag fill, .flag b => .ok (fill b)
  | .flag _, v => wrongToml span v "a boolean"
  | .natural kind largest fill, .integer n =>
    if (Nat.pow 2 64 : Int) ≤ n || n < -(Nat.pow 2 63 : Int) then wrongToml span (.integer n) kind
    else if n < 0 then mismatchOn span (.value (.integer n) kind)
    else onSpan span (fitNatural kind largest fill n.toNat)
  | .natural kind _ _, v => wrongToml span v kind
  | .choice options, .text name => onSpan span (fitChoice options name)
  | .choice options, .table _ fields =>
    match fields with
    | [] => .error ⟨"wanted exactly 1 element, found 0 elements", span⟩
    | [(name, inner, v)] =>
      match onSpan span (fitChoice options name), v with
      | .ok set, .list _ [] => .ok set
      | .ok set, .table _ [] => .ok set
      | .ok _, .list .. => .error ⟨"expected empty array", inner⟩
      | .ok _, .table .. => .error ⟨"expected empty table", inner⟩
      | .ok _, v => .error ⟨"expected table, found " ++ v.kind, inner⟩
      | .error e, _ => .error e
    | _ => .error ⟨"wanted exactly 1 element, more than 1 element", span⟩
  | .choice _, _ => .error ⟨"wanted string or table", span⟩
  | .texts fill, .list _ items => do return fill (← tomlTexts items)
  | .texts _, v => wrongToml span v "a sequence"

mutual

/-- Passes over a value that no field wants; its numbers have to be read all the same. -/
def passToml (span : Toml.Span) : Toml.Value → Except TomlProblem Unit
  | .hugeInteger => wrongToml span .hugeInteger ""
  | .hugeReal => wrongToml span .hugeReal ""
  | .list _ items => passTomlItems items
  | .table _ fields => passTomlFields fields
  | _ => .ok ()

/-- Passes over the items of a list. -/
def passTomlItems : List (Toml.Span × Toml.Value) → Except TomlProblem Unit
  | [] => .ok ()
  | (span, v) :: rest => do
    passToml span v
    passTomlItems rest

/-- Passes over the fields of a table. -/
def passTomlFields : List (String × Toml.Span × Toml.Value) → Except TomlProblem Unit
  | [] => .ok ()
  | (_, span, v) :: rest => do
    passToml span v
    passTomlFields rest

end

namespace Form

variable {σ : Type}

/-- Fills the form from the fields of a table. -/
def ofTomlFields (form : Form σ) : Toml.Fields → σ → Except TomlProblem σ
  | [], filled => .ok filled
  | (name, span, v) :: rest, filled =>
    match form.field? name with
    | none => do
      passToml span v
      form.ofTomlFields rest filled
    | some f => do form.ofTomlFields rest ((← f.slot.ofToml span v) filled)

/-- Fills fields from values in the order of the form. -/
def ofTomlItems : List (Field σ) → List (Toml.Span × Toml.Value) → σ → Except TomlProblem σ
  | f :: fields, (span, v) :: rest, filled => do
    ofTomlItems fields rest ((← f.slot.ofToml span v) filled)
  | _, _, filled => .ok filled

/-- Fills the form from a value, starting with the given thing. -/
def ofToml (form : Form σ) (start : σ) (span : Toml.Span) (v : Toml.Value) :
    Except TomlProblem σ :=
  match v with
  | .table _ fields => form.ofTomlFields fields start
  | .list _ items => ofTomlItems form.fields items start
  | v => wrongToml span v form.expected

end Form

/-- A part of a document: a named table with its form. -/
structure Section (σ : Type) where
  name : String
  form : Form σ

/-- Fills the parts of a document from its tables. -/
def fillSections {σ : Type} (sections : List (Section σ)) :
    Toml.Fields → σ → Except TomlProblem σ
  | [], filled => .ok filled
  | (name, span, v) :: rest, filled =>
    match sections.find? (·.name == name) with
    | none => do
      passToml span v
      fillSections sections rest filled
    | some part => do fillSections sections rest (← part.form.ofToml filled span v)

/-- Fills the parts of a document from its text.  A problem is given as the report
that shows it in the text. -/
def readSections {σ : Type} (sections : List (Section σ)) (start : σ) (source : String) :
    Except String σ :=
  match Toml.readDocument source with
  | .error fault => .error (fault.report source)
  | .ok fields =>
    match fillSections sections fields start with
    | .error p => .error (Toml.report source (some p.span) p.message)
    | .ok filled => .ok filled

end SceneRender.Schema
