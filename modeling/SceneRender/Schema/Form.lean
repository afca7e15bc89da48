import SceneRender.Text.Quoted

/-!
# Forms

A form says which fields a record has, what kind of value each takes, and what a
value does to the thing that is being filled in.  It says nothing about where the
values come from: the same form is read from a JSON text, from a JSON value and
from a configuration file.

A **mismatch** is a value that does not fit its slot, or a set of fields that
does not fit the form; its wording is the same for all sources.
-/

namespace SceneRender.Schema

open SceneRender.Text

/-- The value that was found where another kind was expected. -/
inductive Found where
  | null
  | flag (b : Bool)
  | integer (n : Int)
  /-- A fraction, given by how the source writes it. -/
  | real (shown : String)
  | text (s : String)
  | list
  | record
  deriving DecidableEq, Repr

/-- How a message names what was found. -/
def Found.message : Found → String
  | null => "null"
  | flag b => "boolean `" ++ toString b ++ "`"
  | integer n => "integer `" ++ toString n ++ "`"
  | real shown => "floating point `" ++ shown ++ "`"
  | text s => "string " ++ quoted s
  | list => "sequence"
  | record => "map"

/-- Why a value does not fit. -/
inductive Mismatch where
  /-- A value of another kind. -/
  | kind (found : Found) (expected : String)
  /-- A value of the right kind that is out of bounds. -/
  | value (found : Found) (expected : String)
  /-- A name that is none of the options. -/
  | unknownOption (name : String) (options : List String)
  | missingField (name : String)
  | repeatedField (name : String)
  /-- A list with another number of items than expected. -/
  | length (count : Nat) (expected : String)
  deriving DecidableEq, Repr

/-- A list of options as a message names it. -/
def optionsText (options : List String) : String :=
  match options.map fun o => "`" ++ o ++ "`" with
  | [] => "there are no variants"
  | [a] => "expected " ++ a
  | [a, b] => "expected " ++ a ++ " or " ++ b
  | more => "expected one of " ++ ", ".intercalate more

/-- The wording of a mismatch. -/
def Mismatch.message : Mismatch → String
  | kind found expected => "invalid type: " ++ found.message ++ ", expected " ++ expected
  | value found expected => "invalid value: " ++ found.message ++ ", expected " ++ expected
  | unknownOption name options => "unknown variant `" ++ name ++ "`, " ++ optionsText options
  | missingField name => "missing field `" ++ name ++ "`"
  | repeatedField name => "duplicate field `" ++ name ++ "`"
  | length count expected => "invalid length " ++ toString count ++ ", expected " ++ expected

/-- What a field takes, and what its value does to the thing that is filled in. -/
inductive Slot (σ : Type) where
  /-- A text; `expected` is how a message names the kind.  Null leaves a nullable
  slot as it is. -/
  | text (expected : String) (nullable : Bool) (fill : String → σ → σ)
  | flag (fill : Bool → σ → σ)
  /-- A natural number of a kind with a largest value. -/
  | natural (kind : String) (largest : Nat) (fill : Nat → σ → σ)
  /-- One of several names, each with what it does. -/
  | choice (options : List (String × (σ → σ)))
  | texts (fill : List String → σ → σ)

/-- A plain text. -/
def Slot.string {σ : Type} (fill : String → σ → σ) : Slot σ := .text "a string" false fill

/-- A text that may be left open. -/
def Slot.string? {σ : Type} (fill : String → σ → σ) : Slot σ := .text "a string" true fill

/-- The path of a file. -/
def Slot.path {σ : Type} (fill : String → σ → σ) : Slot σ := .text "path string" false fill

/-- The path of a file that may be left open. -/
def Slot.path? {σ : Type} (fill : String → σ → σ) : Slot σ := .text "path string" true fill

/-- A natural number of 16 bits. -/
def Slot.u16 {σ : Type} (fill : Nat → σ → σ) : Slot σ := .natural "u16" (Nat.pow 2 16 - 1) fill

/-- A natural number of 32 bits. -/
def Slot.u32 {σ : Type} (fill : Nat → σ → σ) : Slot σ := .natural "u32" (Nat.pow 2 32 - 1) fill

/-- A natural number of 64 bits. -/
def Slot.u64 {σ : Type} (fill : Nat → σ → σ) : Slot σ := .natural "u64" (Nat.pow 2 64 - 1) fill

/-- A count of things in memory. -/
def Slot.count {σ : Type} (fill : Nat → σ → σ) : Slot σ := .natural "usize" (Nat.pow 2 64 - 1) fill

/-- A field of a form. -/
structure Field (σ : Type) where
  name : String
  required : Bool
  slot : Slot σ

/-- A named list of fields. -/
structure Form (σ : Type) where
  name : String
  fields : List (Field σ)

namespace Form

variable {σ : Type}

/-- How a message names the form. -/
def expected (form : Form σ) : String := "struct " ++ form.name

/-- How a message names the form with the number of its fields. -/
def expectedLength (form : Form σ) : String :=
  form.expected ++ " with " ++ toString form.fields.length ++
    (if form.fields.length == 1 then " element" else " elements")

/-- The field with the given name. -/
def field? (form : Form σ) (name : String) : Option (Field σ) :=
  form.fields.find? (·.name == name)

/-- The first required field that is not among the given names. -/
def missing? (form : Form σ) (given : List String) : Option String :=
  (form.fields.find? fun f => f.required && !given.contains f.name).map (·.name)

end Form

/-- Fills a slot by a natural number, if that is in bounds. -/
def fitNatural {σ : Type} (kind : String) (largest : Nat) (fill : Nat → σ → σ) (n : Nat) :
    Except Mismatch (σ → σ) :=
  if n ≤ largest then .ok (fill n) else .error (.value (.integer n) kind)

/-- Fills a slot by one of its options. -/
def fitChoice {σ : Type} (options : List (String × (σ → σ))) (name : String) :
    Except Mismatch (σ → σ) :=
  match options.lookup name with
  | some set => .ok set
  | none => .error (.unknownOption name (options.map (·.1)))

end SceneRender.Schema
