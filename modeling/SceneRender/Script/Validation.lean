import SceneRender.Script.Grammar.Statement
import SceneRender.Script.Nesting
import SceneRender.Script.Safety
import SceneRender.Script.EntryClass

/-!
# Validation

Whether a script may be rendered.  A script that is too long, nests too deep or
cannot be read has that one violation; otherwise every breach of the policy and
every flaw of the entry class is reported, each wording once, in the order in
which it was first found.
-/

namespace SceneRender.Script

/-- The longest script accepted, in bytes. -/
def maxScriptBytes : Nat := 100000

/-- A reason to refuse a script. -/
inductive Violation where
  | tooLong
  | unreadable (message : String) (line : Nat)
  | breach (breach : Breach)
  | missingImport
  | flaw (flaw : EntryFlaw)
  deriving DecidableEq, Repr

/-- The wording of a violation. -/
def Violation.message : Violation → String
  | tooLong => "Code exceeds max size " ++ toString (maxScriptBytes / 1000) ++ "KB"
  | unreadable message line => "Syntax error: " ++ message ++ " at line " ++ toString line
  | breach b => b.message
  | missingImport => "Missing required import: from " ++ requiredModule ++ " import *"
  | flaw f => f.message

/-- The list without what repeats an earlier member. -/
def dropRepeats {α : Type} [BEq α] (seen : List α) : List α → List α
  | [] => []
  | a :: rest =>
    if seen.contains a then dropRepeats seen rest else a :: dropRepeats (a :: seen) rest

/-- The bytes of a text. -/
def utf8 (s : String) : List UInt8 := s.toUTF8.data.toList

/-- The violations of a script that can be read. -/
def treeViolations (index : LineIndex) (body : List Stmt) : List Violation :=
  let report := safetyReport body
  report.breaches.map .breach ++
    (if report.imported then [] else [.missingImport]) ++
    (entryFlaws index.lineOf body).map .flaw

/-- The violations of a script, repeated ones included. -/
def violations (source : String) : List Violation :=
  if source.utf8ByteSize > maxScriptBytes then [.tooLong]
  else
    let bytes := utf8 source
    match Nesting.check bytes with
    | some v => [.unreadable v.limit.message v.line]
    | none =>
      let index := LineIndex.ofBytes bytes
      match readScript source.toList with
      | .error e => [.unreadable e.fault.message (index.lineOf e.offset)]
      | .ok body => treeViolations index body

/-- The outcome of validating a script: the wordings of its violations. -/
structure Verdict where
  errors : List String
  deriving DecidableEq, Repr

/-- May the script be rendered? -/
def Verdict.ok (v : Verdict) : Bool := v.errors.isEmpty

/-- All wordings as one line. -/
def Verdict.joined (v : Verdict) : String := "; ".intercalate v.errors

/-- Validates a script. -/
def validate (source : String) : Verdict :=
  ⟨dropRepeats [] ((violations source).map (·.message))⟩

end SceneRender.Script
