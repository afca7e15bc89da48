/-!
# Render quality

The three profiles in which a scene can be rendered.
-/

namespace SceneRender

/-- A quality profile. -/
inductive Quality where
  | high
  | medium
  | low
  deriving DecidableEq, Repr, Inhabited

namespace Quality

/-- All profiles, the best first. -/
def all : List Quality := [high, medium, low]

/-- The name of a profile: its height and its frame rate. -/
def name : Quality → String
  | high => "1080p30"
  | medium => "720p30"
  | low => "480p15"

/-- The flag by which the renderer's command line selects the profile. -/
def flag : Quality → String
  | high => "-qh"
  | medium => "-qm"
  | low => "-ql"

/-- The profile of a name. -/
def ofName? (name : String) : Option Quality := all.find? (·.name == name)

/-- The wording for a name that no profile has. -/
def unknownMessage (name : String) : String :=
  "Invalid quality '" ++ name ++ "'. Valid values: " ++ ", ".intercalate (all.map Quality.name)

/-- Every profile is found again by its name. -/
theorem ofName?_name (q : Quality) : ofName? q.name = some q := by
  cases q <;> decide

end Quality

end SceneRender
