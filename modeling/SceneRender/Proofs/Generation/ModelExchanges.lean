import SceneRender.Generation.Exchange
import SceneRender.Service.Work
import SceneRender.Proofs.Course

/-!
# Exchanges with the hosted service

However the hosted service replies, it is asked at most twice, and the second time only because
it said that it does not support the temperature.  `Says` is what a conversation comes to: its
last reply is a success with texts in it that together are not blank.  An exchange ends with
that text, and with a failure otherwise (`complete_course`); what is made of it is made of the
text or is what was there before (`MadeOf`).
-/

namespace SceneRender

open SceneRender.Json

/-- What was sent to a language model, and what came back. -/
abbrev Conversation := List (Answered exchangeVocabulary)

/-- What was sent. -/
def Answered.modelRequest (e : Answered exchangeVocabulary) : ModelRequest := e.question

/-- What came back, if anything did. -/
def Answered.modelReply? (e : Answered exchangeVocabulary) : Option ModelReply := e.reply

/-! ## The text of a reply -/

/-- Is a value a part of a reply with a text in it? -/
def IsTextPart (part : Value) (text : String) : Prop :=
  part.field? "type" = some (.text "output_text") ∧ part.field? "text" = some (.text text)

/-- The texts among the parts of a reply, in order. -/
inductive TextsOf : List Value → List String → Prop
  | nil : TextsOf [] []
  | text {part : Value} {text : String} {parts : List Value} {texts : List String}
      (h : IsTextPart part text) (rest : TextsOf parts texts) :
      TextsOf (part :: parts) (text :: texts)
  | other {part : Value} {parts : List Value} {texts : List String}
      (h : ∀ text, ¬IsTextPart part text) (rest : TextsOf parts texts) :
      TextsOf (part :: parts) texts

/-- The items of the list that a value has as a member; none if it has no such member. -/
def listMember (name : String) (v : Value) : List Value :=
  ((v.field? name).bind Value.items?).getD []

/-- The text that a successful reply is: the texts of its parts one after the other, unless they
are blank. -/
def ModelReply.Speaks (reply : ModelReply) (text : String) : Prop :=
  (200 ≤ reply.status ∧ reply.status < 300) ∧ ∃ v texts, Value.ofString reply.body = .ok v ∧
    TextsOf ((listMember "output" v).flatMap (listMember "content")) texts ∧
    text = String.join texts ∧ Text.isBlankText text = false

namespace ModelRequest

/-- A member of the body of a request. -/
def member? (request : ModelRequest) (name : String) : Option Value :=
  (Value.record request.body).field? name

/-- A request without one member of its body. -/
def without (name : String) (request : ModelRequest) : ModelRequest :=
  { request with body := request.body.filter (·.1 != name) }

/-- The body of a request to the hosted service: the prompt and the model, a temperature if
there is one, and nothing else. -/
structure Asks (request : ModelRequest) (model prompt : String)
    (temperature : Option Temperature) : Prop where
  names : request.body.map Prod.fst =
    ["input", "model"] ++ (temperature.map fun _ => "temperature").toList
  input : request.member? "input" = some (.text prompt)
  model : request.member? "model" = some (.text model)
  temperature : request.member? "temperature" = temperature.map Temperature.toJson

end ModelRequest

namespace ModelBackend

variable {part : Value} {parts : List Value} {text : String} {texts : List String}

/-- A value is a text only if it was written as one. -/
theorem text?_eq_some_iff {v : Value} : v.text? = some text ↔ v = .text text := by
  cases v <;> simp [Value.text?]

/-- The text of a part is found where it is. -/
theorem partText?_eq_some_iff : partText? part = some text ↔ IsTextPart part text := by
  have hkind : ((part.field? "type").bind Value.text? == some "output_text") = true ↔
      part.field? "type" = some (.text "output_text") := by
    rw [beq_iff_eq, Option.bind_eq_some_iff]
    simp only [text?_eq_some_iff, exists_eq_right]
  rw [partText?, IsTextPart]
  split
  · next h =>
    simp only [hkind.mp h, true_and, Option.bind_eq_bind, Option.bind_eq_some_iff,
      text?_eq_some_iff, exists_eq_right]
  · next h =>
    rw [hkind] at h
    simp only [h, false_and, reduceCtorEq]

/-- The texts of parts are those that can be read. -/
theorem textsOf_iff : TextsOf parts texts ↔ parts.filterMap partText? = texts := by
  induction parts generalizing texts with
  | nil =>
      constructor
      · intro h
        cases h
        rfl
      · rintro rfl
        exact .nil
  | cons part parts ih =>
      rw [List.filterMap_cons]
      constructor
      · intro h
        cases h with
        | text h rest => simp only [partText?_eq_some_iff.mpr h, ih.mp rest]
        | other h rest =>
            have hnone : partText? part = none := by
              rw [Option.eq_none_iff_forall_ne_some]
              exact fun text htext => h text (partText?_eq_some_iff.mp htext)
            simp only [hnone, ih.mp rest]
      · intro h
        cases hpart : partText? part with
        | none =>
            rw [hpart] at h
            refine .other (fun text htext => ?_) (ih.mpr h)
            rw [partText?_eq_some_iff.mpr htext] at hpart
            cases hpart
        | some text =>
            rw [hpart] at h
            subst h
            exact .text (partText?_eq_some_iff.mp hpart) (ih.mpr rfl)

/-- A text that is not blank is spoken. -/
theorem spoken_eq_ok_iff {said : String} :
    spoken said = .ok text ↔ text = said ∧ Text.isBlankText text = false := by
  rw [spoken]
  split
  · next hblank =>
    simp only [reduceCtorEq, false_iff, not_and, Bool.not_eq_false]
    rintro rfl
    exact hblank
  · next hblank =>
    rw [Except.ok.injEq]
    constructor
    · rintro rfl
      exact ⟨rfl, Bool.not_eq_true _ ▸ hblank⟩
    · exact fun h => h.1.symm

/-- **A reply is read as what it says.** -/
theorem openaiText_eq_ok_iff {reply : ModelReply} :
    openaiText reply = .ok text ↔ reply.Speaks text := by
  have hstatus : reply.isSuccess = true ↔ 200 ≤ reply.status ∧ reply.status < 300 := by
    simp only [ModelReply.isSuccess, Bool.and_eq_true, decide_eq_true_eq]
  rw [openaiText, ModelReply.Speaks, ← hstatus]
  cases hsuccess : reply.isSuccess with
  | false => simp
  | true =>
      cases hvalue : Value.ofString reply.body with
      | error problem => simp
      | ok v =>
          simp only [Bool.not_true, Bool.false_eq_true, if_false, spoken_eq_ok_iff, true_and,
            Except.ok.injEq, exists_and_left, exists_eq_left', textsOf_iff]
          rfl

/-! ## Asking at most twice -/

/-- Does a text hold a word, whatever the case of the text's letters? -/
def Mentions (word text : String) : Prop :=
  word.toList <:+: text.toList.map Char.toLower

/-- A reply that says that the temperature is not supported. -/
def RefusesTemperature (reply : ModelReply) : Prop :=
  reply.status = 400 ∧ Mentions "temperature" reply.body ∧ Mentions "unsupported" reply.body

/-- A word is found regardless of case. -/
theorem mentions_iff {word : String} :
    mentions word (text.map Char.toLower) = true ↔ Mentions word text := by
  rw [mentions, String.contains_string_iff, String.toList_map, Mentions]

/-- A reply is taken for a refusal of the temperature exactly if it is one. -/
theorem rejectsTemperature_iff {reply : ModelReply} :
    rejectsTemperature reply = true ↔ RefusesTemperature reply := by
  simp only [rejectsTemperature, RefusesTemperature, Bool.and_eq_true, beq_iff_eq, mentions_iff,
    and_assoc]

variable {baseUrl model key prompt : String} {temperature : Option Temperature}
  {calls : Conversation} {result : Except ModelFault String}

/-- The first request of an exchange. -/
def firstRequest (baseUrl model key prompt : String) (temperature : Option Temperature) :
    ModelRequest :=
  ⟨trimUrl baseUrl ++ "/responses", some key, openaiBody model prompt temperature⟩

/-- What the body of the first request holds. -/
theorem firstRequest_asks :
    (firstRequest baseUrl model key prompt temperature).Asks model prompt temperature := by
  cases temperature <;> exact ⟨rfl, rfl, rfl, rfl⟩

/-- The request without a temperature is the first one without that member. -/
theorem firstRequest_without : (firstRequest baseUrl model key prompt temperature).without
    "temperature" = firstRequest baseUrl model key prompt none := by
  cases temperature <;> rfl

/-- What is said by what came back. -/
def readBack (read : ModelReply → Except ModelFault String) :
    Option ModelReply → Except ModelFault String
  | none => .error .exchange
  | some reply => read reply

/-- Sending a request is one exchange. -/
theorem course_send {request : ModelRequest} {reply : Option ModelReply}
    (h : Plan.Course (send request) calls reply) : calls = [⟨request, reply⟩] :=
  Plan.course_question.mp h

/-- Sending a request and reading its reply. -/
theorem course_sendAndRead {request : ModelRequest} {read : ModelReply → Except ModelFault String}
    (h : Plan.Course (sendAndRead request read) calls result) :
    ∃ reply, calls = [⟨request, reply⟩] ∧ result = readBack read reply := by
  obtain ⟨before, after, reply, rfl, hsent, hread⟩ := Plan.course_bind.mp h
  obtain rfl := course_send hsent
  refine ⟨reply, ?_⟩
  cases reply <;> obtain ⟨rfl, rfl⟩ := Plan.course_done.mp hread <;> exact ⟨rfl, rfl⟩

/-- Without a key nothing is sent. -/
theorem course_keyless
    (h : Plan.Course ((openai baseUrl model none).complete prompt temperature) calls result) :
    calls = [] ∧ result = .error (.unavailable Provider.openai.name) :=
  Plan.course_done.mp h

/-- The body of a request had a temperature in it, and the reply refuses that. -/
def IsRefused (e : Answered exchangeVocabulary) : Prop :=
  (e.modelRequest.member? "temperature").isSome ∧
    ∃ refusal ∈ e.modelReply?, RefusesTemperature refusal

/-- Whether the first request is refused. -/
theorem isRefused_first {reply : Option ModelReply} :
    IsRefused ⟨firstRequest baseUrl model key prompt temperature, reply⟩ ↔
      temperature.isSome = true ∧ ∃ refusal ∈ reply, RefusesTemperature refusal := by
  have hmember :
      ((firstRequest baseUrl model key prompt temperature).member? "temperature").isSome =
        temperature.isSome := by
    rw [firstRequest_asks.temperature, Option.isSome_map]
  change (((firstRequest baseUrl model key prompt temperature).member? "temperature").isSome =
    true ∧ _) ↔ _
  rw [hmember]
  rfl

/-- **With a key** one request is sent and its reply is read, unless that refuses the temperature:
then one more request is sent without it, whose reply is read. -/
theorem course_keyed
    (h : Plan.Course ((openai baseUrl model (some key)).complete prompt temperature) calls
      result) :
    let first := firstRequest baseUrl model key prompt temperature
    ∃ reply,
      (¬IsRefused ⟨first, reply⟩ ∧ calls = [⟨first, reply⟩] ∧
        result = readBack openaiText reply) ∨
      ∃ again, IsRefused ⟨first, reply⟩ ∧
        calls = [⟨first, reply⟩, ⟨first.without "temperature", again⟩] ∧
        result = readBack openaiText again := by
  intro first
  obtain ⟨before, after, reply, rfl, hsent, hread⟩ := Plan.course_bind.mp h
  obtain rfl := course_send hsent
  refine ⟨reply, ?_⟩
  cases reply with
  | none =>
      obtain ⟨rfl, rfl⟩ := Plan.course_done.mp hread
      refine Or.inl ⟨fun hrefused => ?_, rfl, rfl⟩
      obtain ⟨-, refusal, hnone, -⟩ := isRefused_first.mp hrefused
      cases hnone
  | some reply =>
      have hrefused : (temperature.isSome && rejectsTemperature reply) = true ↔
          IsRefused ⟨first, some reply⟩ := by
        simp only [first, isRefused_first, Bool.and_eq_true, rejectsTemperature_iff,
          Option.mem_some_iff, exists_eq_left']
      dsimp only at hread
      split at hread
      · next hagain =>
        obtain ⟨again, rfl, rfl⟩ := course_sendAndRead hread
        have hwithout : first.without "temperature" = firstRequest baseUrl model key prompt none :=
          firstRequest_without
        exact Or.inr ⟨again, hrefused.mp hagain, by rw [hwithout]; rfl, rfl⟩
      · next honce =>
        obtain ⟨rfl, rfl⟩ := Plan.course_done.mp hread
        exact Or.inl ⟨fun h => honce (hrefused.mpr h), rfl, rfl⟩

/-- What a conversation comes to: the text that its last reply speaks. -/
def Says (calls : Conversation) (text : String) : Prop :=
  ∃ last ∈ calls.getLast?, ∃ reply ∈ last.modelReply?, reply.Speaks text

/-- A text was read back exactly if a reply speaks it. -/
theorem readBack_eq_ok_iff {reply : Option ModelReply} :
    readBack openaiText reply = .ok text ↔ ∃ said ∈ reply, said.Speaks text := by
  cases reply with
  | none => simp [readBack]
  | some reply => simp [readBack, openaiText_eq_ok_iff]

/-- What may be sent to the hosted service, with the key.  The body of the first request holds
the prompt and the model, and the temperature if there is one.  A second request is sent exactly
if there was a temperature in that body and the reply refuses it, and it is the first request
without the temperature. -/
structure Bounded (baseUrl model : String) (key : Option String) (prompt : String)
    (temperature : Option Temperature) (calls : Conversation) : Prop where
  atMostTwo : calls.length ≤ 2
  keyless : calls = [] ↔ key = none
  addressed : ∀ e ∈ calls.head?, e.modelRequest.url = trimUrl baseUrl ++ "/responses" ∧
    e.modelRequest.key = key
  first : ∀ e ∈ calls.head?, e.modelRequest.Asks model prompt temperature
  refused : calls.length = 2 ↔ ∃ e ∈ calls.head?, IsRefused e
  again : ∀ first second, calls = [first, second] →
    second.modelRequest = first.modelRequest.without "temperature"

/-- Nothing sent is bounded where there is no key. -/
theorem bounded_nil : Bounded baseUrl model none prompt temperature [] where
  atMostTwo := Nat.zero_le 2
  keyless := by simp
  addressed := nofun
  first := nofun
  refused := by simp
  again := nofun

/-- One request is bounded, unless its reply refuses the temperature. -/
theorem bounded_once {reply : Option ModelReply}
    (hheard : ¬IsRefused ⟨firstRequest baseUrl model key prompt temperature, reply⟩) :
    Bounded baseUrl model (some key) prompt temperature
      [⟨firstRequest baseUrl model key prompt temperature, reply⟩] where
  atMostTwo := Nat.le_succ 1
  keyless := by simp
  addressed := by
    rintro e ⟨⟩
    exact ⟨rfl, rfl⟩
  first := by
    rintro e ⟨⟩
    exact firstRequest_asks
  refused := by simp [hheard]
  again := by simp

/-- Two requests are bounded, if the first reply refuses the temperature. -/
theorem bounded_twice {reply again : Option ModelReply} {first : ModelRequest}
    (hfirst : first = firstRequest baseUrl model key prompt temperature)
    (hrefused : IsRefused ⟨first, reply⟩) :
    Bounded baseUrl model (some key) prompt temperature
      [⟨first, reply⟩, ⟨first.without "temperature", again⟩] where
  atMostTwo := Nat.le_refl 2
  keyless := by simp
  addressed := by
    rintro e ⟨⟩
    exact hfirst ▸ ⟨rfl, rfl⟩
  first := by
    rintro e ⟨⟩
    exact hfirst ▸ firstRequest_asks
  refused := by simp [hrefused]
  again := by
    rintro _ _ ⟨⟩
    rfl

/-- **The courses of an exchange** are bounded, and end with the text that was said. -/
theorem complete_course {key : Option String}
    (h : Plan.Course ((openai baseUrl model key).complete prompt temperature) calls result) :
    Bounded baseUrl model key prompt temperature calls ∧
      ∀ text, result = .ok text ↔ Says calls text := by
  cases key with
  | none =>
      obtain ⟨rfl, rfl⟩ := course_keyless h
      exact ⟨bounded_nil, fun text => by simp [Says]⟩
  | some key =>
      obtain ⟨reply, ⟨hheard, rfl, rfl⟩ | ⟨again, hrefused, rfl, rfl⟩⟩ := course_keyed h
      · refine ⟨bounded_once hheard, fun text => Iff.trans readBack_eq_ok_iff ?_⟩
        simp [Says, Answered.modelReply?]
      · refine ⟨bounded_twice rfl hrefused, fun text => Iff.trans readBack_eq_ok_iff ?_⟩
        simp [Says, Answered.modelReply?]

end ModelBackend

/-! ## The assistant -/

open ModelBackend

/-- A request as the machine is asked to send it, with what came back. -/
def Answered.sent (e : Answered exchangeVocabulary) : Answered machineVocabulary :=
  ⟨.send e.question, e.reply⟩

/-- **An exchange on the machine** is a course of the exchange, whose requests are sent. -/
theorem MachinePlan.course_ofExchange {exchange : Exchange}
    {events : List (Answered machineVocabulary)} {result : Except ModelFault String} :
    Plan.Course (ofExchange exchange) events result ↔
      ∃ calls, events = calls.map Answered.sent ∧ Plan.Course exchange calls result := by
  induction exchange generalizing events with
  | done answer =>
      constructor
      · intro h
        obtain ⟨rfl, rfl⟩ := Plan.course_done.mp h
        exact ⟨[], rfl, .done _⟩
      · rintro ⟨calls, rfl, h⟩
        obtain ⟨rfl, rfl⟩ := Plan.course_done.mp h
        exact Plan.course_done.mpr ⟨rfl, rfl⟩
  | ask request next ih =>
      constructor
      · intro h
        obtain ⟨reply, rest, rfl, hrest⟩ := Plan.course_ask.mp h
        obtain ⟨calls, rfl, hcalls⟩ := (ih reply).mp hrest
        exact ⟨⟨request, reply⟩ :: calls, rfl,
          (Plan.course_ask (V := exchangeVocabulary)).mpr ⟨reply, calls, rfl, hcalls⟩⟩
      · rintro ⟨calls, rfl, h⟩
        obtain ⟨reply, rest, rfl, hrest⟩ := Plan.course_ask.mp h
        exact (Plan.course_ask (V := machineVocabulary)).mpr
          ⟨reply, rest.map Answered.sent, rfl, (ih reply).mpr ⟨rest, rfl, hrest⟩⟩

/-- What an answer is made of: the text that a conversation came to, or else what was there
before. -/
def MadeOf {α : Type} (calls : Conversation) (use : String → α) (before answer : α) : Prop :=
  (∃ text, Says calls text ∧ answer = use text) ∨ (∀ text, ¬Says calls text) ∧ answer = before

namespace Service

variable {service : Service} {baseUrl model : String} {key : Option String}
  {prompt code diagnostic : String} {temperature : Temperature} {studio after : Studio}
  {events : List (Answered machineVocabulary)}

/-- An exchange of the service is one on the machine; it leaves the studio alone. -/
theorem course_exchange {exchange : Exchange} {result : Except ModelFault String} :
    Plan.Course ((MachinePlan.ofExchange exchange : StudioWork _) studio) events
      (result, after) ↔
    ∃ calls, events = calls.map Answered.sent ∧ after = studio ∧
      Plan.Course exchange calls result := by
  constructor
  · intro h
    obtain ⟨before, rest, asked, rfl, hasked, hused⟩ := Plan.course_bind.mp h
    obtain ⟨rfl, hresult⟩ := Plan.course_done.mp hused
    cases hresult
    obtain ⟨calls, rfl, hcalls⟩ := MachinePlan.course_ofExchange.mp hasked
    exact ⟨calls, List.append_nil _, rfl, hcalls⟩
  · rintro ⟨calls, rfl, rfl, hcalls⟩
    exact Plan.course_bind.mpr ⟨_, [], result, (List.append_nil _).symm,
      MachinePlan.course_ofExchange.mpr ⟨calls, rfl, hcalls⟩, .done _⟩

/-- What the service is asked to complete, the hosted service completes. -/
theorem course_complete (hmodel : service.model = .openai baseUrl model key)
    {result : Except ModelFault String}
    (h : Plan.Course (service.reply (.complete prompt temperature) studio) events (result, after)) :
    ∃ calls, events = calls.map Answered.sent ∧ after = studio ∧
      Bounded baseUrl model key prompt (some temperature) calls ∧
      ∀ text, result = .ok text ↔ Says calls text := by
  obtain ⟨calls, rfl, rfl, hcalls⟩ := course_exchange.mp h
  rw [hmodel] at hcalls
  exact ⟨calls, rfl, rfl, ModelBackend.complete_course hcalls⟩

/-- What is made of a reply is made of the text that was said, or it is what was there before. -/
theorem madeOf {α : Type} {calls : Conversation} {result : Except ModelFault String}
    (hsaid : ∀ text, result = .ok text ↔ Says calls text) {use : String → α} {before : α}
    {make : Except ModelFault String → α} (hok : ∀ text, make (.ok text) = use text)
    (herror : ∀ fault, make (.error fault) = before) : MadeOf calls use before (make result) := by
  cases result with
  | ok text => exact Or.inl ⟨text, (hsaid text).mp rfl, hok text⟩
  | error fault =>
      refine Or.inr ⟨fun text htext => ?_, herror fault⟩
      cases (hsaid text).mpr htext

/-- A repair is an exchange, and what is made of its reply. -/
theorem course_repair_iff {answer : String} :
    Plan.Course (service.reply (.repair code diagnostic) studio) events (answer, after) ↔
      ∃ calls result, events = calls.map Answered.sent ∧ after = studio ∧
        Plan.Course (service.model.complete (repairPrompt code diagnostic) (some .careful)) calls
          result ∧ answer = Assistant.changed code result := by
  constructor
  · intro h
    obtain ⟨before, rest, ⟨result, still⟩, rfl, hasked, hused⟩ := Plan.course_bind.mp h
    obtain ⟨rfl, hanswer⟩ := Plan.course_done.mp hused
    cases hanswer
    obtain ⟨calls, rfl, rfl, hcalls⟩ := course_exchange.mp hasked
    exact ⟨calls, result, List.append_nil _, rfl, hcalls, rfl⟩
  · rintro ⟨calls, result, rfl, rfl, hcalls, rfl⟩
    exact Plan.course_bind.mpr ⟨_, [], (result, after), (List.append_nil _).symm,
      course_exchange.mpr ⟨calls, rfl, rfl, hcalls⟩, .done _⟩

/-- **The hosted service is asked at most twice, and never takes code away.**  Whatever it
replies, it is asked again only after it refused the temperature, and then without one; what it
says is the text of its last reply; and when it says nothing, code that was to be repaired or
revised stays as it is, and new code is the placeholder scene with one warning. -/
theorem hosted_exchange_bounded (hmodel : service.model = .openai baseUrl model key) :
    (∀ prompt temperature calls result,
      Plan.Course (service.model.complete prompt temperature) calls result →
        Bounded baseUrl model key prompt temperature calls ∧
        ∀ text, result = .ok text ↔ Says calls text) ∧
    (∀ code diagnostic studio events answer after,
      Plan.Course (service.reply (.repair code diagnostic) studio) events (answer, after) →
        ∃ calls, events = calls.map Answered.sent ∧ after = studio ∧
          Bounded baseUrl model key (repairPrompt code diagnostic) (some .careful) calls ∧
          MadeOf calls extractCode code answer) ∧
    (∀ code instruction studio events reply after,
      Plan.Course (service.reply (.complete (revisionPrompt code instruction) .creative) studio)
        events (reply, after) →
        ∃ calls, events = calls.map Answered.sent ∧ after = studio ∧
          Bounded baseUrl model key (revisionPrompt code instruction) (some .creative) calls ∧
          MadeOf calls extractCode code (Assistant.changed code reply)) ∧
    ∀ request studio events reply after,
      Plan.Course (service.reply (.complete (generationPrompt request) .creative) studio)
        events (reply, after) →
        ∃ calls, events = calls.map Answered.sent ∧ after = studio ∧
          Bounded baseUrl model key (generationPrompt request) (some .creative) calls ∧
          MadeOf calls (fun text => (extractCode text, []))
            (placeholderScene request.topic, [Assistant.unavailableWarning Provider.openai.name])
            (Assistant.generated service.model.provider.name request reply) := by
  refine ⟨fun prompt temperature calls result h => ?_,
    fun code diagnostic studio events answer after h => ?_,
    fun code instruction studio events reply after h => ?_,
    fun request studio events reply after h => ?_⟩
  · rw [hmodel] at h
    exact complete_course h
  · obtain ⟨calls, result, rfl, rfl, hcalls, rfl⟩ := course_repair_iff.mp h
    rw [hmodel] at hcalls
    obtain ⟨hbounded, hsaid⟩ := complete_course hcalls
    exact ⟨calls, rfl, rfl, hbounded, madeOf hsaid (fun _ => rfl) fun _ => rfl⟩
  · obtain ⟨calls, rfl, rfl, hbounded, hsaid⟩ := course_complete hmodel h
    exact ⟨calls, rfl, rfl, hbounded, madeOf hsaid (fun _ => rfl) fun _ => rfl⟩
  · obtain ⟨calls, rfl, rfl, hbounded, hsaid⟩ := course_complete hmodel h
    rw [hmodel]
    exact ⟨calls, rfl, rfl, hbounded, madeOf hsaid (fun _ => rfl) fun _ => rfl⟩

/-- A service that asks a hosted model. -/
def hosted : Service where
  model := .openai "http://model/v1/" "small" (some "key")
  renderer := ⟨.host, ⟨"render", []⟩, .default, 1000, "spool", "scratch"⟩
  maxRetries := 1

/-- The refusal of a model that does not know temperatures. -/
def refusal : ModelReply := ⟨400, "Unsupported parameter: Temperature"⟩

/-- The rehearsed refusal is one of the temperature. -/
theorem refusal_refuses : RefusesTemperature refusal := by
  refine ⟨rfl, ⟨"unsupported parameter: ".toList, [], by decide +kernel⟩,
    ⟨[], " parameter: temperature".toList, by decide +kernel⟩⟩

/-- A reply with code. -/
def repaired : ModelReply :=
  ⟨200, "\x7b\"output\":[\x7b\"content\":[\x7b\"type\":\"output_text\",\"text\":\"x\"\x7d]\x7d]\x7d"⟩

/-- The rehearsed answer is read back. -/
theorem repaired_read : openaiText repaired = .ok "x" := rfl

/-- A repair by a model that refuses the temperature first. -/
def mending : Conversation :=
  let first := firstRequest "http://model/v1/" "small" "key" (repairPrompt "x = " "incomplete")
    (some .careful)
  [⟨first, some refusal⟩, ⟨first.without "temperature", some repaired⟩]

/-- The rehearsed exchanges are a course of the repair. -/
theorem complete_mending : Plan.Course
    (hosted.model.complete (repairPrompt "x = " "incomplete") (some .careful)) mending (.ok "x") := by
  refine Plan.course_bind.mpr ⟨[_], [_], some refusal, rfl, Plan.course_question.mpr rfl, ?_⟩
  have hrefused : rejectsTemperature refusal = true := rejectsTemperature_iff.mpr refusal_refuses
  simp only [hrefused, Option.isSome_some, Bool.and_self, if_true]
  refine Plan.course_bind.mpr ⟨[_], [], some repaired, rfl, Plan.course_question.mpr rfl, ?_⟩
  exact Plan.course_done.mpr ⟨rfl, repaired_read.symm⟩

/-- The refused temperature is not sent again, and the code of the second reply is taken. -/
theorem repaired_without_temperature :
    hosted.model = .openai "http://model/v1/" "small" (some "key") ∧
    Plan.Course (hosted.reply (.repair "x = " "incomplete") default) (mending.map Answered.sent)
      ("x", default) ∧
    ∃ calls : Conversation, mending.map Answered.sent = calls.map Answered.sent ∧
      Bounded "http://model/v1/" "small" (some "key") (repairPrompt "x = " "incomplete")
        (some .careful) calls ∧
      MadeOf calls extractCode "x = " "x" := by
  have hcourse : Plan.Course (hosted.reply (.repair "x = " "incomplete") default)
      (mending.map Answered.sent) ("x", default) :=
    course_repair_iff.mpr ⟨mending, .ok "x", rfl, rfl, complete_mending, by decide +kernel⟩
  obtain ⟨calls, hcalls, -, hbounded, hmade⟩ :=
    (hosted_exchange_bounded (show hosted.model = _ from rfl)).2.1 _ _ _ _ _ _ hcourse
  exact ⟨rfl, hcourse, calls, hcalls, hbounded, hmade⟩

end Service

end SceneRender
