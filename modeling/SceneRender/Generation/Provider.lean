import SceneRender.Text.Blank

/-!
# Language model providers

Where generated code comes from.  The provider is named in any case, with blanks
around it; the offline provider never answers, so that its callers fall back to
the placeholder scene.  A model that gives no text says why.
-/

namespace SceneRender

open SceneRender.Text

/-- A provider of generated code. -/
inductive Provider where
  | ollama
  | openai
  | template
  deriving DecidableEq, Repr, Inhabited

namespace Provider

/-- All providers. -/
def all : List Provider := [ollama, openai, template]

/-- The name of a provider. -/
def name : Provider → String
  | ollama => "ollama"
  | openai => "openai"
  | template => "template"

/-- How a written name is compared: without the blanks around it and in lower
case. -/
def normalize (text : String) : String := (trim text).map Char.toLower

/-- The provider of a written name. -/
def ofText? (text : String) : Option Provider := all.find? (·.name == normalize text)

/-- The wording for a written name that no provider has. -/
def unknownMessage (text : String) : String :=
  "Unknown LLM provider '" ++ normalize text ++ "'. Valid values: " ++
    ", ".intercalate (all.map Provider.name)

end Provider

/-- Why a language model gives no text. -/
inductive ModelFault where
  /-- The provider cannot be asked as things are set. -/
  | unavailable (provider : String)
  /-- The exchange broke off, or the reply is not the agreed document. -/
  | exchange
  /-- The service replied with a status that is no success. -/
  | badStatus (status : Nat) (body : String)
  /-- The reply holds no text. -/
  | emptyResponse
  deriving DecidableEq, Repr

/-- The wording of a failure. -/
def ModelFault.message : ModelFault → String
  | unavailable provider => "LLM provider '" ++ provider ++ "' is not available"
  | exchange => "LLM request failed"
  | badStatus status body => "LLM returned status " ++ toString status ++ ": " ++ body
  | emptyResponse => "LLM returned an empty response"

end SceneRender
