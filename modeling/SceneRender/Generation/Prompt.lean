import SceneRender.Generation.Request
import SceneRender.Text.Blank

/-!
# Prompts

The texts that ask a language model for a scene, for a repair and for a
revision, and the placeholder scene that stands in when there is no answer.
-/

namespace SceneRender

open SceneRender.Text

/-- The rules that a repair or a revision has to keep. -/
def sceneRules : String :=
  "- Keep `GeneratedScene(Scene)` and its `construct(self)` method.\n" ++
  "- Import only with `from manim import *`.\n" ++
  "- No unsafe imports and no system, file or network access.\n" ++
  "- Respond with code only."

/-- The further instructions as the prompt shows them. -/
def shownInstructions (instructions : String) : String :=
  if isBlankText instructions then "None" else trim instructions

/-- Asks for a scene. -/
def generationPrompt (r : GenerationRequest) : String :=
  "You write Manim Community Edition scripts for short educational animations.\n" ++
  "\n" ++
  "Requirements:\n" ++
  "- Respond with Python code only.\n" ++
  "- The first line must be: from manim import *\n" ++
  "- Define exactly one class, GeneratedScene, inheriting from Scene.\n" ++
  "- GeneratedScene must define construct(self).\n" ++
  "- No unsafe imports and no system, file or network access.\n" ++
  "- Never call Scene helpers that do not exist (such as `play_and_wait` or " ++
    "`_set_background`).\n" ++
  "- Call only public Scene APIs such as play, wait, add, remove, clear, next_section and " ++
    "add_sound.\n" ++
  "- Any helper method you call on self must be defined inside GeneratedScene.\n" ++
  "- Target an animation length of about " ++ toString r.durationSeconds ++ " seconds.\n" ++
  "- Audience level: " ++ r.level.name ++ "\n" ++
  "- Visual style: " ++ r.style.name ++ "\n" ++
  "- Prefer simple constructs that render reliably.\n" ++
  "\n" ++
  "Topic:\n" ++
  r.topic ++ "\n" ++
  "\n" ++
  "Additional instructions:\n" ++
  shownInstructions r.instructions ++ "\n" ++
  "\n" ++
  "Respond with valid Python code only."

/-- Asks for a repair of code that a diagnostic complains about. -/
def repairPrompt (code diagnostic : String) : String :=
  "Repair this Manim script so that it validates and renders.\n" ++
  "Rules:\n" ++ sceneRules ++ "\n" ++
  "\n" ++
  "Error:\n" ++ diagnostic ++ "\n" ++
  "\n" ++
  "Code:\n" ++ code

/-- Asks for a revision of code after an instruction. -/
def revisionPrompt (code instruction : String) : String :=
  "Revise this Manim script according to the instruction.\n" ++
  "Rules:\n" ++ sceneRules ++ "\n" ++
  "\n" ++
  "Instruction:\n" ++ instruction ++ "\n" ++
  "\n" ++
  "Code:\n" ++ code

/-- A character of a topic inside the title of the placeholder scene.  A double
quote becomes a single one and a line break a blank, so that the title stays one
literal. -/
def titleChar (c : Char) : List Char :=
  match c with
  | '\\' => ['\\', '\\']
  | '"' => ['\'']
  | '\n' => [' ']
  | '\r' => [' ']
  | c => [c]

/-- The title of the placeholder scene. -/
def placeholderTitle (topic : String) : String := String.ofList (topic.toList.flatMap titleChar)

/-- The scene that stands in for an answer. -/
def placeholderScene (topic : String) : String :=
  "from manim import *\n" ++
  "\n" ++
  "\n" ++
  "class GeneratedScene(Scene):\n" ++
  "    def construct(self):\n" ++
  "        title = Text(\"" ++ placeholderTitle topic ++ "\", font_size=48)\n" ++
  "        self.play(Write(title))\n" ++
  "        self.wait(1)\n"

end SceneRender
