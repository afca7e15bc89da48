import SceneRender.Generation.Provider
import SceneRender.Generation.Temperature
import SceneRender.Json.Document
import SceneRender.Plan
import SceneRender.Schema.JsonText
import SceneRender.Text.Blank

/-!
# Exchanges with language models

How each provider is asked, and how a text is found in its reply.  An exchange is
a plan: it sends requests and goes on with what comes back, which may be nothing
when the transport fails.

* A local server is asked once.
* The hosted service is asked once more, without the temperature, when it says
  that it does not support that.  Without a key it is not asked at all.
* The template is never asked: it stands for having no language model.
-/

namespace SceneRender

open SceneRender.Json SceneRender.Schema

/-! ## Messages -/

/-- A request to a language model. -/
structure ModelRequest where
  url : String
  /-- The key that the sender shows, if it has one. -/
  key : Option String
  body : List (String × Value)
  deriving Repr

/-- A reply of a language model. -/
structure ModelReply where
  status : Nat
  body : String
  deriving DecidableEq, Repr

/-- Does the reply report success? -/
def ModelReply.isSuccess (r : ModelReply) : Bool := 200 ≤ r.status && r.status < 300

/-- The failure that a reply without success is. -/
def ModelReply.fault (r : ModelReply) : ModelFault := .badStatus r.status r.body

/-- What an exchange asks: that a request be sent.  Nothing comes back when the
transport fails. -/
def exchangeVocabulary : Vocabulary := ⟨ModelRequest, fun _ => Option ModelReply⟩

/-- An exchange with a language model. -/
abbrev Exchange := Plan exchangeVocabulary (Except ModelFault String)

/-! ## Backends -/

/-- A language model and how to reach it. -/
inductive ModelBackend where
  | ollama (baseUrl model : String)
  | openai (baseUrl model : String) (key : Option String)
  | template
  deriving DecidableEq, Repr

namespace ModelBackend

/-- The provider of a backend. -/
def provider : ModelBackend → Provider
  | ollama _ _ => .ollama
  | openai _ _ _ => .openai
  | template => .template

/-- The model of a backend. -/
def model : ModelBackend → String
  | ollama _ model | openai _ model _ => model
  | template => Provider.template.name

/-- An address without slashes at its end. -/
def trimUrl (url : String) : String :=
  String.ofList (url.toList.reverse.dropWhile (· == '/')).reverse

/-! ## The local server -/

/-- What is sent to a local server. -/
def ollamaBody (model prompt : String) (temperature : Option Temperature) :
    List (String × Value) :=
  [("model", .text model)] ++
  (temperature.map fun t => ("options", .record [("temperature", t.toJson)])).toList ++
  [("prompt", .text prompt), ("stream", .flag false)]

/-- The form of a local server's reply. -/
def ollamaForm : Form String where
  name := "OllamaReply"
  fields := [⟨"response", false, .string fun s _ => s⟩]

/-- A text of a reply, unless it is blank. -/
def spoken (text : String) : Except ModelFault String :=
  if Text.isBlankText text then .error .emptyResponse else .ok text

/-- The text of a local server's reply. -/
def ollamaText (reply : ModelReply) : Except ModelFault String :=
  if !reply.isSuccess then .error reply.fault
  else match ollamaForm.ofJsonText "" reply.body with
    | .ok text => spoken text
    | .error _ => .error .exchange

/-! ## The hosted service -/

/-- What is sent to the hosted service. -/
def openaiBody (model prompt : String) (temperature : Option Temperature) :
    List (String × Value) :=
  [("input", .text prompt), ("model", .text model)] ++
  (temperature.map fun t => ("temperature", t.toJson)).toList

/-- The text of a part of a reply. -/
def partText? (part : Value) : Option String := do
  if (part.field? "type").bind Value.text? == some "output_text" then
    (← part.field? "text").text?
  else none

/-- The parts of an item of a reply. -/
def itemParts (item : Value) : List Value := ((item.field? "content").bind Value.items?).getD []

/-- All text of a reply, in order. -/
def outputText (reply : Value) : String :=
  let items := ((reply.field? "output").bind Value.items?).getD []
  String.join ((items.flatMap itemParts).filterMap partText?)

/-- The text of the hosted service's reply. -/
def openaiText (reply : ModelReply) : Except ModelFault String :=
  if !reply.isSuccess then .error reply.fault
  else match Value.ofString reply.body with
    | .ok value => spoken (outputText value)
    | .error _ => .error .exchange

/-- Does a text hold a word? -/
def mentions (word : String) (text : String) : Bool := text.contains word

/-- Does a reply say that the temperature is not supported? -/
def rejectsTemperature (reply : ModelReply) : Bool :=
  let body := reply.body.map Char.toLower
  reply.status == 400 && mentions "temperature" body && mentions "unsupported" body

/-! ## Asking -/

/-- Sends a request. -/
def send (request : ModelRequest) : Plan exchangeVocabulary (Option ModelReply) :=
  Plan.question (V := exchangeVocabulary) request

/-- Sends a request and reads its reply. -/
def sendAndRead (request : ModelRequest)
    (read : ModelReply → Except ModelFault String) : Exchange := do
  match ← send request with
  | none => return .error .exchange
  | some reply => return read reply

/-- Asks a language model to complete a prompt. -/
def complete (backend : ModelBackend) (prompt : String) (temperature : Option Temperature) :
    Exchange :=
  match backend with
  | ollama baseUrl model =>
    sendAndRead ⟨trimUrl baseUrl ++ "/api/generate", none, ollamaBody model prompt temperature⟩
      ollamaText
  | openai _ _ none => return .error (.unavailable Provider.openai.name)
  | openai baseUrl model (some key) => do
    let request (t : Option Temperature) : ModelRequest :=
      ⟨trimUrl baseUrl ++ "/responses", some key, openaiBody model prompt t⟩
    match ← send (request temperature) with
    | none => return .error .exchange
    | some reply =>
      if temperature.isSome && rejectsTemperature reply then
        sendAndRead (request none) openaiText
      else return openaiText reply
  | template => return .error (.unavailable Provider.template.name)

end ModelBackend

end SceneRender
