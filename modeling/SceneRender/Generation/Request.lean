import SceneRender.Json.Printer
import SceneRender.Schema.Form

/-!
# Generation requests

What a client says about the scene it wants: a topic, a length, a style, an
audience, and further instructions.  A request is acceptable when its texts and
its length are within bounds; texts are measured in characters.
-/

namespace SceneRender

open SceneRender.Json SceneRender.Schema

/-- The look of a scene. -/
inductive Style where
  | minimal
  | colorful
  | geometricHeavy
  deriving DecidableEq, Repr, Inhabited

namespace Style

/-- All styles. -/
def all : List Style := [minimal, colorful, geometricHeavy]

/-- The name of a style. -/
def name : Style → String
  | minimal => "minimal"
  | colorful => "colorful"
  | geometricHeavy => "geometric-heavy"

/-- The style of a name. -/
def ofName? (name : String) : Option Style := all.find? (·.name == name)

end Style

/-- The audience of a scene. -/
inductive Level where
  | school
  | undergraduate
  | advanced
  deriving DecidableEq, Repr, Inhabited

namespace Level

/-- All levels. -/
def all : List Level := [school, undergraduate, advanced]

/-- The name of a level. -/
def name : Level → String
  | school => "school"
  | undergraduate => "undergraduate"
  | advanced => "advanced"

/-- The level of a name. -/
def ofName? (name : String) : Option Level := all.find? (·.name == name)

end Level

/-- A request for a scene. -/
structure GenerationRequest where
  topic : String
  durationSeconds : Nat
  style : Style
  level : Level
  instructions : String
  deriving DecidableEq, Repr, Inhabited

namespace GenerationRequest

/-- The bounds of the topic's length in characters. -/
def topicBounds : Nat × Nat := (3, 300)

/-- The bounds of the scene's length in seconds. -/
def durationBounds : Nat × Nat := (15, 180)

/-- The most characters of further instructions. -/
def maxInstructions : Nat := 500

/-- A bound that a request breaks. -/
inductive Problem where
  | topicLength
  | duration
  | instructionsLength
  deriving DecidableEq, Repr

/-- The wording of a problem. -/
def Problem.message : Problem → String
  | topicLength =>
    "topic must be between " ++ toString topicBounds.1 ++ " and " ++ toString topicBounds.2 ++
      " characters"
  | duration =>
    "duration_seconds must be between " ++ toString durationBounds.1 ++ " and " ++
      toString durationBounds.2
  | instructionsLength =>
    "additional_instructions must be at most " ++ toString maxInstructions ++ " characters"

/-- Is a number within bounds? -/
def within (bounds : Nat × Nat) (n : Nat) : Bool := bounds.1 ≤ n && n ≤ bounds.2

/-- The bounds that a request breaks, in the order of its fields. -/
def problems (r : GenerationRequest) : List Problem :=
  (if within topicBounds r.topic.length then [] else [.topicLength]) ++
  (if within durationBounds r.durationSeconds then [] else [.duration]) ++
  (if r.instructions.length ≤ maxInstructions then [] else [.instructionsLength])

/-- The form in which a request is sent. -/
def form : Form GenerationRequest where
  name := "GenerateRequest"
  fields := [
    ⟨"topic", true, .string fun s r => { r with topic := s }⟩,
    ⟨"duration_seconds", true, .u32 fun n r => { r with durationSeconds := n }⟩,
    ⟨"style", true, .choice (Style.all.map fun s => (s.name, fun r => { r with style := s }))⟩,
    ⟨"level", true, .choice (Level.all.map fun l => (l.name, fun r => { r with level := l }))⟩,
    ⟨"additional_instructions", false, .string fun s r => { r with instructions := s }⟩]

/-- What a request is filled in from: nothing is said yet. -/
def blank : GenerationRequest := ⟨"", 0, .minimal, .school, ""⟩

/-- A request as a JSON value. -/
def toJson (r : GenerationRequest) : Value := .record [
  ("topic", .text r.topic),
  ("duration_seconds", .natural r.durationSeconds),
  ("style", .text r.style.name),
  ("level", .text r.level.name),
  ("additional_instructions", .text r.instructions)]

end GenerationRequest

end SceneRender
