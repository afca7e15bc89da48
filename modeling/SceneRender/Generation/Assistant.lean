import SceneRender.Generation.Prompt
import SceneRender.Generation.Provider
import SceneRender.Generation.Reply
import SceneRender.Generation.Temperature

/-!
# The code assistant

New code, repaired code and revised code by way of a language model.  None of
these fails: when the model gives no text, new code is a placeholder scene with a
warning, and code that was to be changed stays as it is.
-/

namespace SceneRender

namespace Assistant

/-- The warning that no language model could be reached. -/
def unavailableWarning (provider : String) : String :=
  "LLM unavailable (" ++ provider ++ "), using fallback template"

/-- New code for a request, by what the language model of a provider says, and the
warnings about it. -/
def generated (provider : String) (request : GenerationRequest) :
    Except ModelFault String → String × List String
  | .ok reply => (extractCode reply, [])
  | .error _ => (placeholderScene request.topic, [unavailableWarning provider])

/-- Changed code, by what a language model says. -/
def changed (code : String) : Except ModelFault String → String
  | .ok reply => extractCode reply
  | .error _ => code

end Assistant

end SceneRender
