import SceneRender.Proofs.Api.CleanCode
import SceneRender.Proofs.Api.Traffic
import SceneRender.Proofs.Cache.CanonicalText

/-!
# New code is made once

Whoever asks for new code with the same values as an earlier request gets the code that was
made then, if it was valid.  The cache is not mentioned in the statement of this: what a
request gets is read from the *day* so far, that is from what was asked before and what the
language model said (`firstCode?`).

* `NewCodeCourse` says what is asked of the surroundings for one acceptable request; every
  course of the server's plan is one of these (`Server.course_generate`).
* `GenerationDay.remembers` is the invariant: under the fingerprint of each request that is
  asked for during the day, the cache holds what `firstCode?` finds.
* Two requests have the same fingerprint only if they have the same canonical text, by
  assumption, and then they are equal (`generationCanonical_inj`).
-/

namespace SceneRender

open Plan Pipeline

/-! ## One request -/

/-- What the language model said in an exchange. -/
def ServiceExchange.said? : ServiceExchange → Option (Except ModelFault String)
  | ⟨.complete _ _, (reply : Except ModelFault String)⟩ => some reply
  | _ => none

/-- The code of a reply, if there is any and it is valid. -/
def validCode? : Except ModelFault String → Option String
  | .ok text => if (Script.validate (extractCode text)).ok then some (extractCode text) else none
  | .error _ => none

namespace Api

variable {settings : ApiSettings} {values : GenerationRequest} {calls : List ServiceExchange}

/-- The values of an acceptable request. -/
def acceptable? (r : Request) : Option GenerationRequest :=
  (readPayload GenerationRequest.form .blank r).toOption.filter (·.problems.isEmpty)

/-- What is remembered after a reply: valid code. -/
def kept (settings : ApiSettings) (values : GenerationRequest)
    (reply : Except ModelFault String) : List ServiceExchange :=
  ((validCode? reply).map fun code =>
    ⟨.remember .generation (generationPrint settings values) code, ()⟩).toList

/-- What is given out after a reply: its code, or the placeholder, with all that is wrong
with it. -/
def made (settings : ApiSettings) (values : GenerationRequest)
    (reply : Except ModelFault String) : String × List String :=
  let (code, warnings) := Assistant.generated settings.provider values reply
  (code, warnings ++ (Script.validate code).errors)

/-- What is asked for an acceptable request, and the code that it gets with its warnings. -/
inductive NewCodeCourse (settings : ApiSettings) (values : GenerationRequest) :
    List ServiceExchange → String × List String → Prop
  /-- The code is found in the cache. -/
  | found (code : String) : NewCodeCourse settings values
      [⟨.lookUp .generation (generationPrint settings values), some code⟩] (code, [cachedWarning])
  /-- The language model is asked. -/
  | asked (reply : Except ModelFault String) : NewCodeCourse settings values
      (⟨.lookUp .generation (generationPrint settings values), none⟩ ::
        ⟨.complete (generationPrompt values) .creative, reply⟩ :: kept settings values reply)
      (made settings values reply)

/-- Valid code has nothing wrong with it. -/
theorem errors_of_ok {code : String} (h : (Script.validate code).ok = true) :
    (Script.validate code).errors = [] := by
  rw [Script.Verdict.ok] at h
  exact List.isEmpty_iff.mp h

/-- Code that is not in the cache is asked for once, and kept if it is valid. -/
theorem course_newCode {given : String × List String}
    (h : Course (newCode settings values) calls given) :
    ∃ reply, calls = ⟨.complete (generationPrompt values) .creative, reply⟩ ::
      kept settings values reply ∧ given = made settings values reply := by
  rw [newCode, course_bind] at h
  obtain ⟨before, after, reply, rfl, hasked, h⟩ := h
  obtain rfl := course_question.mp hasked
  suffices hafter : after = kept settings values reply ∧ given = made settings values reply from
    ⟨reply, congrArg _ hafter.1, hafter.2⟩
  cases reply with
  | error fault =>
      rw [made]
      cases hvalid : (Script.validate (placeholderScene values.topic)).ok with
      | false =>
          simp only [Assistant.generated, hvalid, Bool.not_false, if_true] at h ⊢
          exact course_done.mp h
      | true =>
          simp only [Assistant.generated, hvalid, Bool.not_true, Bool.false_eq_true, if_false,
            List.isEmpty_cons, errors_of_ok hvalid, List.append_nil] at h ⊢
          exact course_done.mp h
  | ok text =>
      rw [made]
      cases hvalid : (Script.validate (extractCode text)).ok with
      | false =>
          simp only [Assistant.generated, hvalid, Bool.not_false, if_true, kept, validCode?,
            Bool.false_eq_true, if_false, Option.map_none, Option.toList_none] at h ⊢
          exact course_done.mp h
      | true =>
          simp only [Assistant.generated, hvalid, Bool.not_true, Bool.false_eq_true, if_false,
            List.isEmpty_nil, if_true, errors_of_ok hvalid, List.append_nil] at h ⊢
          obtain ⟨before, after, ⟨⟩, rfl, hkept, hgiven⟩ := course_bind.mp h
          obtain rfl := course_question.mp hkept
          obtain ⟨rfl, rfl⟩ := course_done.mp hgiven
          refine ⟨?_, rfl⟩
          rw [kept, validCode?, if_pos hvalid]
          rfl

/-- **A request for new code** is refused without a question, or takes one of two courses. -/
theorem course_generate {r : Request} {result : Except ApiFault Response}
    (h : Course (generate settings r).run calls result) :
    match acceptable? r with
    | some values => ∃ given, NewCodeCourse settings values calls given ∧
        result = .ok (generatedResponse settings given.1 given.2)
    | none => calls = [] := by
  rw [generate, run_except_bind] at h
  rw [acceptable?]
  cases hread : readPayload GenerationRequest.form .blank r with
  | error fault =>
      rw [hread] at h
      exact (course_done.mp h).1
  | ok values =>
      rw [hread] at h
      dsimp only at h
      cases hproblems : values.problems with
      | cons problem problems =>
          rw [hproblems] at h
          simp only [Except.toOption, Option.filter, hproblems, List.isEmpty_cons]
          exact (course_done.mp h).1
      | nil =>
          rw [hproblems] at h
          simp only [Except.toOption, Option.filter, hproblems, List.isEmpty_nil, if_true]
          obtain ⟨before, after, found, rfl, hlooked, hrest⟩ := course_bind.mp (run_plan_bind _ _ ▸ h)
          obtain rfl := course_question.mp hlooked
          cases found with
          | some code =>
              obtain ⟨rfl, rfl⟩ := course_done.mp hrest
              exact ⟨_, .found code, rfl⟩
          | none =>
              obtain ⟨before, after, given, rfl, hmade, hgiven⟩ :=
                course_bind.mp (run_plan_bind _ _ ▸ hrest)
              obtain ⟨rfl, rfl⟩ := course_done.mp hgiven
              obtain ⟨reply, rfl, rfl⟩ := course_newCode hmade
              rw [List.append_nil]
              exact ⟨_, .asked reply, rfl⟩

end Api

namespace Server

variable {policy : ServerPolicy} {limiter : RateLimiter} {now : Nat} {freshId : String}
  {r : Request} {calls : List ServiceExchange} {response : Response}

/-- The values of an acceptable request that is let in. -/
def wanted? (limiter : RateLimiter) (now : Nat) (r : Request) : Option GenerationRequest :=
  if (letIn limiter now r).1 then Api.acceptable? r else none

/-- The body of a response with new code. -/
def codeBody (policy : ServerPolicy) (given : String × List String) : Body :=
  .json (.record [("code", .text given.1), ("model", .text policy.api.model),
    ("warnings", Json.Value.texts given.2)])

/-- A request by `POST` on the route for new code is handled as such. -/
theorem routed_generate (hpost : r.method = "POST")
    (hroute : Route.ofPath? r.path = some .generate) :
    routed policy r = Api.answered (Api.generate policy.api r) := by
  have htaken : Route.generate.methods.contains r.method = true := by
    rw [hpost]
    decide
  simp only [routed, hroute, htaken, if_true]
  rfl

/-- **The course of a request for new code**, from its arrival to its response. -/
theorem course_respond (hpost : r.method = "POST")
    (hroute : Route.ofPath? r.path = some .generate)
    (h : Course (respond policy limiter now freshId r).1 calls response) :
    match wanted? limiter now r with
    | some values => ∃ given, Api.NewCodeCourse policy.api values calls given ∧
        response.status = 200 ∧ response.body = codeBody policy given
    | none => calls = [] := by
  have hpreflight : OriginPolicy.isPreflight r = false := by
    rw [OriginPolicy.isPreflight, hpost]
    rfl
  rw [respond, hpreflight] at h
  rw [wanted?]
  cases hin : (letIn limiter now r).1 with
  | false =>
      simp only [hin, Bool.false_eq_true, if_false] at h ⊢
      exact (course_done.mp h).1
  | true =>
      simp only [hin, Bool.false_eq_true, if_false, if_true, routed_generate hpost hroute,
        Api.answered_eq] at h ⊢
      obtain ⟨_, _, inner, rfl, hinner, hfinished⟩ := course_bind.mp h
      obtain ⟨rfl, rfl⟩ := course_done.mp hfinished
      obtain ⟨calls, _, result, rfl, hcourse, hsent⟩ := course_bind.mp hinner
      obtain ⟨rfl, rfl⟩ := course_done.mp hsent
      obtain ⟨hstatus, hbody⟩ := finish_eq policy freshId r (Api.sent result)
      have hwhole := hbody (by rw [hpost]; decide)
      rw [List.append_nil, List.append_nil, hstatus, hwhole]
      have hgenerate := Api.course_generate hcourse
      cases hwanted : Api.acceptable? r with
      | none =>
          rw [hwanted] at hgenerate
          exact hgenerate
      | some values =>
          rw [hwanted] at hgenerate
          obtain ⟨given, hnew, rfl⟩ := hgenerate
          exact ⟨given, hnew, rfl, rfl⟩

end Server

/-! ## What a request does to the cache -/

/-- What the language model said, in order. -/
def repliesOf (calls : List ServiceExchange) : List (Except ModelFault String) :=
  calls.filterMap ServiceExchange.said?

/-- Remembering asks nothing of the language model. -/
theorem repliesOf_asked (settings : ApiSettings) (values : GenerationRequest)
    (reply : Except ModelFault String) :
    repliesOf (⟨.lookUp .generation (Api.generationPrint settings values), none⟩ ::
      ⟨.complete (generationPrompt values) .creative, reply⟩ :: Api.kept settings values reply) =
      [reply] := by
  rw [Api.kept]
  cases validCode? reply <;> rfl

/-- Valid code is remembered, and nothing else. -/
theorem Api.cache_kept {settings : ApiSettings} {values : GenerationRequest}
    {reply : Except ModelFault String} {crew : Crew} {s s' : Studio}
    (hchain : Chain (Studio.Replies crew) s (kept settings values reply) s')
    (hworks : s.cache.store.refusal = none) :
    s'.cache.store.refusal = none ∧ ∀ print, s'.cache.remembered? .generation print =
      if print = generationPrint settings values then
        (validCode? reply).or (s.cache.remembered? .generation print)
      else s.cache.remembered? .generation print := by
  rw [kept] at hchain
  cases hvalid : validCode? reply with
  | none =>
      rw [hvalid] at hchain
      obtain rfl := chain_nil.mp hchain
      exact ⟨hworks, fun print => by rw [Option.none_or, ite_self]⟩
  | some code =>
      rw [hvalid] at hchain
      obtain ⟨s₁, hkept, hend⟩ := chain_cons.mp hchain
      obtain rfl := chain_nil.mp hend
      obtain ⟨-, rfl⟩ := Prod.mk.inj hkept
      exact ⟨ResultCache.refusal_put.trans hworks, fun print => ResultCache.remembered?_put hworks⟩

/-- **One request and the cache.**  Code that is remembered is given out, and the language
model is not asked.  Otherwise it is asked once, and a valid reply is remembered. -/
theorem Api.NewCodeCourse.served {settings : ApiSettings} {values : GenerationRequest}
    {calls : List ServiceExchange} {given : String × List String} {crew : Crew} {s s' : Studio}
    (h : NewCodeCourse settings values calls given)
    (hchain : Chain (Studio.Replies crew) s calls s') (hworks : s.cache.store.refusal = none) :
    (match s.cache.remembered? .generation (generationPrint settings values) with
      | some code => repliesOf calls = [] ∧ given = (code, [cachedWarning])
      | none => ∃ reply, repliesOf calls = [reply] ∧ given = made settings values reply) ∧
    s'.cache.store.refusal = none ∧
    ∀ print, s'.cache.remembered? .generation print =
      if print = generationPrint settings values then
        (s.cache.remembered? .generation print).or ((repliesOf calls).findSome? validCode?)
      else s.cache.remembered? .generation print := by
  cases h with
  | found code =>
      obtain ⟨s₁, hlooked, hend⟩ := chain_cons.mp hchain
      obtain rfl := chain_nil.mp hend
      obtain ⟨hfound, rfl⟩ := Prod.mk.inj hlooked
      rw [← ResultCache.get_eq_remembered? hworks, hfound]
      refine ⟨⟨rfl, rfl⟩, hworks, fun print => ?_⟩
      rw [show repliesOf [_] = [] from rfl, List.findSome?_nil, Option.or_none, ite_self]
  | asked reply =>
      obtain ⟨s₁, hlooked, hrest⟩ := chain_cons.mp hchain
      obtain ⟨s₂, hasked, hkept⟩ := chain_cons.mp hrest
      obtain ⟨hnone, rfl⟩ := Prod.mk.inj hlooked
      obtain ⟨-, rfl⟩ := Prod.mk.inj hasked
      obtain ⟨hworks', hremembers⟩ := cache_kept hkept hworks
      rw [← ResultCache.get_eq_remembered? hworks, hnone, repliesOf_asked]
      refine ⟨⟨reply, rfl, rfl⟩, hworks', fun print => ?_⟩
      rw [hremembers, List.findSome?_singleton]
      refine ite_congr rfl (fun hprint => ?_) fun _ => rfl
      have hnothing : s.cache.remembered? .generation print = none := by
        rw [hprint, ← ResultCache.get_eq_remembered? hworks, hnone]
      change (validCode? reply).or (s.cache.remembered? .generation print) = _
      rw [hnothing, Option.or_none, Option.none_or]

/-! ## A day -/

/-- A request for new code that was answered: when it came and how it was let in, what was
asked of the surroundings, and the response. -/
structure GenerationEntry where
  request : Request
  limiter : RateLimiter
  now : Nat
  freshId : String
  calls : List ServiceExchange
  response : Response

namespace GenerationEntry

/-- The values of the request, if it is let in and acceptable. -/
def values? (e : GenerationEntry) : Option GenerationRequest :=
  Server.wanted? e.limiter e.now e.request

/-- What the language model said to it. -/
def replies (e : GenerationEntry) : List (Except ModelFault String) := repliesOf e.calls

/-- The code of its first valid reply. -/
def code? (e : GenerationEntry) : Option String := e.replies.findSome? validCode?

/-- The request is answered in a studio. -/
structure Takes (policy : ServerPolicy) (crew : Crew) (s : Studio) (e : GenerationEntry)
    (s' : Studio) : Prop where
  post : e.request.method = "POST"
  route : Route.ofPath? e.request.path = some .generate
  course : Course (Server.respond policy e.limiter e.now e.freshId e.request).1 e.calls e.response
  chain : Chain (Studio.Replies crew) s e.calls s'

end GenerationEntry

/-- Requests for new code that are answered one after the other, the latest first.  In
between, anything may happen that leaves the remembered code as it is. -/
inductive GenerationDay (policy : ServerPolicy) (crew : Crew) (start : Studio) :
    List GenerationEntry → Studio → Prop
  | start : GenerationDay policy crew start [] start
  | asked {past : List GenerationEntry} {s s' : Studio} {e : GenerationEntry}
      (so_far : GenerationDay policy crew start past s) (takes : e.Takes policy crew s s') :
      GenerationDay policy crew start (e :: past) s'
  | meanwhile {past : List GenerationEntry} {s s' : Studio}
      (so_far : GenerationDay policy crew start past s)
      (works : s'.cache.store.refusal = none)
      (code : ∀ print,
        s'.cache.remembered? .generation print = s.cache.remembered? .generation print) :
      GenerationDay policy crew start past s'

/-- The code of the first valid reply to a request with the given values. -/
def firstCode? (values : GenerationRequest) : List GenerationEntry → Option String
  | [] => none
  | e :: past => (firstCode? values past).or (if e.values? = some values then e.code? else none)

/-- No request with the given values got a valid reply. -/
def Unmade (values : GenerationRequest) (past : List GenerationEntry) : Prop :=
  ∀ e ∈ past, e.values? = some values → e.code? = none

/-- Nothing was made so far for values that nobody asked for. -/
theorem firstCode?_eq_none {values : GenerationRequest} {past : List GenerationEntry}
    (h : Unmade values past) : firstCode? values past = none := by
  induction past with
  | nil => rfl
  | cons e past ih =>
      obtain ⟨he, hpast⟩ := List.forall_mem_cons.mp h
      rw [firstCode?, ih hpast, Option.none_or]
      split
      · next hvalues => exact he hvalues
      · rfl

/-- The first valid reply is found behind all later ones. -/
theorem firstCode?_append {values : GenerationRequest} {later earlier : List GenerationEntry}
    {first : GenerationEntry} {code : String} (hvalues : first.values? = some values)
    (hcode : first.code? = some code) (hearlier : Unmade values earlier) :
    firstCode? values (later ++ first :: earlier) = some code := by
  induction later with
  | nil => rw [List.nil_append, firstCode?, firstCode?_eq_none hearlier, Option.none_or,
      if_pos hvalues, hcode]
  | cons e later ih => rw [List.cons_append, firstCode?, ih, Option.some_or]

/-- What is found was made for a request with the same values. -/
theorem exists_of_firstCode? {values : GenerationRequest} {past : List GenerationEntry}
    {code : String} (h : firstCode? values past = some code) :
    ∃ e ∈ past, e.values? = some values ∧ e.code? = some code := by
  induction past with
  | nil => cases h
  | cons e past ih =>
      rw [firstCode?, Option.or_eq_some_iff] at h
      rcases h with hpast | ⟨-, hnow⟩
      · obtain ⟨e', hmem, he'⟩ := ih hpast
        exact ⟨e', List.mem_cons_of_mem e hmem, he'⟩
      · split at hnow
        · next hvalues => exact ⟨e, List.mem_cons_self, hvalues, hnow⟩
        · cases hnow

/-- The canonical text of a request for new code. -/
def canonicalText (policy : ServerPolicy) (values : GenerationRequest) : String :=
  generationCanonical policy.api.provider policy.api.model values.toJson.compact

/-- Somebody asks for code with the given values. -/
def AskedFor (entries : List GenerationEntry) (values : GenerationRequest) : Prop :=
  ∃ e ∈ entries, e.values? = some values

/-- The digest tells the canonical texts of the acceptable requests apart. -/
def NoTwoAlike (policy : ServerPolicy) (entries : List GenerationEntry) : Prop :=
  ∀ values values', AskedFor entries values → AskedFor entries values' →
    fingerprint (canonicalText policy values) = fingerprint (canonicalText policy values') →
    canonicalText policy values = canonicalText policy values'

namespace GenerationRequest

variable {values values' : GenerationRequest}

/-- The duration of a request without problems fits a word. -/
theorem duration_lt (h : values.problems = []) : values.durationSeconds < Nat.pow 2 32 := by
  rw [problems, List.append_eq_nil_iff, List.append_eq_nil_iff] at h
  obtain ⟨⟨-, hduration⟩, -⟩ := h
  split at hduration
  · next hwithin =>
    rw [within, Bool.and_eq_true, decide_eq_true_eq, decide_eq_true_eq] at hwithin
    exact Nat.lt_of_le_of_lt hwithin.2 (by decide)
  · cases hduration

/-- **The canonical text tells requests apart.** -/
theorem canonicalText_inj {policy : ServerPolicy}
    (heq : canonicalText policy values = canonicalText policy values') : values = values' := by
  refine compact_inj (String.toList_injective ?_)
  have hchars := congrArg String.toList heq
  simpa [canonicalText, generationCanonical] using hchars

end GenerationRequest

namespace Server

variable {limiter : RateLimiter} {now : Nat} {r : Request} {values : GenerationRequest}

/-- What is wanted is acceptable. -/
theorem problems_of_wanted? (h : wanted? limiter now r = some values) : values.problems = [] := by
  rw [wanted?] at h
  split at h
  · rw [Api.acceptable?] at h
    have hnone := Option.filter_eq_some_iff.mp h
    exact List.isEmpty_iff.mp hnone.2
  · cases h

/-- **Every spelling is understood.**  A request that spells acceptable values, in whatever
way, is one for these values. -/
theorem wanted?_of_spells (hin : (letIn limiter now r).1 = true)
    (hjson : (r.header? "content-type").any MediaType.isJson = true)
    (hshort : r.body.utf8ByteSize ≤ longestBody) (hacceptable : values.problems = [])
    (hspells : values.Spells r.body.toList) : wanted? limiter now r = some values := by
  have hread := GenerationRequest.reads_spelled hspells (GenerationRequest.duration_lt hacceptable)
  rw [String.ofList_toList] at hread
  have hpayload : readPayload GenerationRequest.form .blank r = .ok values := by
    rw [readPayload, hjson, hread]
    simp [Nat.not_lt.mpr hshort]
  rw [wanted?, if_pos hin, Api.acceptable?, hpayload]
  simp [Except.toOption, hacceptable]

end Server

namespace GenerationDay

variable {policy : ServerPolicy} {crew : Crew} {start s : Studio} {past : List GenerationEntry}

/-- **What the cache remembers.**  During a day on which fingerprints tell some requests
apart, the cache holds for each of them the code of its first valid reply. -/
theorem remembers {known : GenerationRequest → Prop}
    (hknown : ∀ values values', known values → known values' →
      Api.generationPrint policy.api values = Api.generationPrint policy.api values' →
      values = values')
    (hempty : start.cache.store.entries = []) (hworks : start.cache.store.refusal = none)
    (h : GenerationDay policy crew start past s)
    (hpast : ∀ e ∈ past, ∀ values, e.values? = some values → known values) :
    s.cache.store.refusal = none ∧ ∀ values, known values →
      s.cache.remembered? .generation (Api.generationPrint policy.api values) =
        firstCode? values past := by
  induction h with
  | start =>
      refine ⟨hworks, fun values _ => ?_⟩
      rw [ResultCache.remembered?, hempty]
      rfl
  | meanwhile so_far works code ih =>
      refine ⟨works, fun values hvalues => ?_⟩
      rw [code, (ih hpast).2 values hvalues]
  | @asked past s s' e so_far takes ih =>
      obtain ⟨he, hpast⟩ := List.forall_mem_cons.mp hpast
      obtain ⟨hworks, hremembered⟩ := ih hpast
      have hcourse := Server.course_respond takes.post takes.route takes.course
      have hchain := takes.chain
      change match e.values? with | some _ => _ | none => _ at hcourse
      cases hvalues : e.values? with
      | none =>
          rw [hvalues] at hcourse
          rw [show e.calls = [] from hcourse, chain_nil] at hchain
          subst hchain
          refine ⟨hworks, fun values hmem => ?_⟩
          rw [hremembered values hmem, firstCode?, hvalues, if_neg (by simp), Option.or_none]
      | some asked =>
          rw [hvalues] at hcourse
          obtain ⟨given, hnew, -⟩ := hcourse
          obtain ⟨-, hworks', hremembers⟩ := hnew.served hchain hworks
          refine ⟨hworks', fun values hmem => ?_⟩
          rw [hremembers, firstCode?, hvalues, hremembered values hmem]
          by_cases hsame : asked = values
          · rw [if_pos (by rw [hsame]), if_pos (by rw [hsame])]
            rfl
          · rw [if_neg fun hprint =>
                hsame (hknown _ _ hmem (he asked hvalues) hprint).symm,
              if_neg fun heq => hsame (Option.some.inj heq), Option.or_none]

end GenerationDay

/-! ## The law -/

/-- What is asked for is acceptable. -/
theorem AskedFor.problems {entries : List GenerationEntry} {values : GenerationRequest}
    (h : AskedFor entries values) : values.problems = [] := by
  obtain ⟨e, -, hvalues⟩ := h
  exact Server.problems_of_wanted? hvalues

/-- **New code is made once.**  Take any day of requests for new code that begins with an
empty cache whose store works, and on which nobody else remembers new code.  Requests may be
spelled in any way and may be refused; the language model may say anything.  Let no two
different canonical texts of the day have the same digest.  Then the next acceptable request
is answered as follows.

* If no earlier request with the same values got a valid reply, the language model is asked
  once, and the code is that of its reply.
* If one did, the language model is not asked, and the code is that of the first valid reply.
* Code for which the language model was not asked was made for the same values.

Different acceptable requests have different canonical texts, and every spelling of a request
that is let in is understood as the request. -/
theorem code_made_once {policy : ServerPolicy} {crew : Crew} {start s s' : Studio}
    {past : List GenerationEntry} {e : GenerationEntry} {values : GenerationRequest}
    (hempty : start.cache.store.entries = []) (hworks : start.cache.store.refusal = none)
    (hday : GenerationDay policy crew start past s) (hnow : e.Takes policy crew s s')
    (hdigest : NoTwoAlike policy (e :: past)) (hvalues : e.values? = some values) :
    (Unmade values past → ∃ reply, e.replies = [reply] ∧ e.response.status = 200 ∧
      e.response.body = Server.codeBody policy (Api.made policy.api values reply)) ∧
    (∀ later first earlier code, past = later ++ first :: earlier →
      first.values? = some values → first.code? = some code → Unmade values earlier →
      e.replies = [] ∧ e.response.status = 200 ∧
        e.response.body = Server.codeBody policy (code, [Api.cachedWarning])) ∧
    (e.replies = [] → ∃ first ∈ past, ∃ code, first.values? = some values ∧
      first.code? = some code ∧
      e.response.body = Server.codeBody policy (code, [Api.cachedWarning])) ∧
    (∀ values' : GenerationRequest, values'.problems = [] → values' ≠ values →
      canonicalText policy values' ≠ canonicalText policy values) ∧
    (∀ limiter now r, (Server.letIn limiter now r).1 = true →
      (r.header? "content-type").any MediaType.isJson = true →
      r.body.utf8ByteSize ≤ longestBody → values.Spells r.body.toList →
      Server.wanted? limiter now r = some values) := by
  have hasked : AskedFor (e :: past) values := ⟨e, List.mem_cons_self, hvalues⟩
  have htells : ∀ values values', AskedFor (e :: past) values → AskedFor (e :: past) values' →
      Api.generationPrint policy.api values = Api.generationPrint policy.api values' →
      values = values' := fun _ _ h h' hprint =>
    GenerationRequest.canonicalText_inj (hdigest _ _ h h' hprint)
  obtain ⟨hworks', hremembers⟩ := hday.remembers htells hempty hworks
    fun e' he' values' hvalues' => ⟨e', List.mem_cons_of_mem e he', hvalues'⟩
  have hfound := hremembers values hasked
  have hcourse := Server.course_respond hnow.post hnow.route hnow.course
  rw [show Server.wanted? e.limiter e.now e.request = some values from hvalues] at hcourse
  obtain ⟨given, hnew, hstatus, hbody⟩ := hcourse
  obtain ⟨hserved, -⟩ := hnew.served hnow.chain hworks'
  rw [hfound] at hserved
  refine ⟨fun hunmade => ?_, fun later first earlier code hsplit hsame hcode hearlier => ?_,
    fun hsilent => ?_, fun values' hacceptable hne heq => ?_,
    fun limiter now r hin hjson hshort hspells => ?_⟩
  · rw [firstCode?_eq_none hunmade] at hserved
    obtain ⟨reply, hreplies, rfl⟩ := hserved
    exact ⟨reply, hreplies, hstatus, hbody⟩
  · rw [hsplit, firstCode?_append hsame hcode hearlier] at hserved
    obtain ⟨hreplies, rfl⟩ := hserved
    exact ⟨hreplies, hstatus, hbody⟩
  · cases hfirst : firstCode? values past with
    | none =>
        rw [hfirst] at hserved
        obtain ⟨reply, hreplies, -⟩ := hserved
        rw [GenerationEntry.replies, hreplies] at hsilent
        cases hsilent
    | some code =>
        rw [hfirst] at hserved
        obtain ⟨-, rfl⟩ := hserved
        obtain ⟨first, hmem, hsame, hcode⟩ := exists_of_firstCode? hfirst
        exact ⟨first, hmem, code, hsame, hcode, hbody⟩
  · exact hne (GenerationRequest.canonicalText_inj heq)
  · exact Server.wanted?_of_spells hin hjson hshort hasked.problems hspells

/-! ## A rehearsal -/

/-- A request for code with a given body. -/
def bodyRequest (body : String) : Request where
  method := "POST"
  target := "/generate"
  headers := [("content-type", "application/json")]
  body

/-- The rehearsed requests are generations. -/
theorem bodyRequest_route (body : String) :
    Route.ofPath? (bodyRequest body).path = some .generate := by
  change Route.ofPath? (bodyRequest "").path = some .generate
  decide +kernel

/-- The answer to a request, with all that it took. -/
def filmEntry (crew : Crew) (request : Request) (s : Studio) : GenerationEntry where
  request
  limiter := .perMinute 0
  now := 0
  freshId := "request"
  calls := (filmAnswer request).transcript (Studio.reply crew) s
  response := (s.runPlan crew (filmAnswer request)).1

/-- A generation of the rehearsal is an entry of a day. -/
theorem filmEntry_takes {crew : Crew} {request : Request} (hpost : request.method = "POST")
    (hroute : Route.ofPath? request.path = some .generate) (s : Studio) :
    (filmEntry crew request s).Takes filmPolicy crew s
      (s.runPlan crew (filmAnswer request)).2 where
  post := hpost
  route := hroute
  course := course_transcript (V := serviceVocabulary) (Studio.reply crew) _ s
  chain := chain_transcript (V := serviceVocabulary) (Studio.reply crew) _ s

/-- Requests with given bodies, the latest first. -/
def rehearsedDay (crew : Crew) : List String → List GenerationEntry × Studio
  | [] => ([], filmStudio)
  | body :: earlier =>
    let day := rehearsedDay crew earlier
    (filmEntry crew (bodyRequest body) day.2 :: day.1,
      (day.2.runPlan crew (filmAnswer (bodyRequest body))).2)

/-- The rehearsal is a day of generations. -/
theorem rehearsedDay_isDay (crew : Crew) (bodies : List String) :
    GenerationDay filmPolicy crew filmStudio (rehearsedDay crew bodies).1
      (rehearsedDay crew bodies).2 := by
  induction bodies with
  | nil => exact .start
  | cons body earlier ih =>
      simp only [rehearsedDay]
      exact .asked ih (filmEntry_takes rfl (bodyRequest_route body) _)

/-- What is wanted in the rehearsal. -/
def squaresValues : GenerationRequest := ⟨"squares", 30, .minimal, .school, ""⟩

/-- The values as a list. -/
def listBody : String := "[\"squares\",30,\"minimal\",\"school\"]"

/-- The values in another order, with blanks, an escape and a wrapped choice. -/
def looseBody : String :=
  "\x7b \"level\": \x7b\"school\": null\x7d, \"style\":\"minimal\",\n\"duration_seconds\": 30," ++
    "\"topic\":\"\\u0073quares\", \"additional_instructions\":\"\"\x7d "

/-- A crew whose language model writes no scene at first and then writes one. -/
def slowCrew : Crew :=
  CrewScript.crew { replies := #[some "pass", some emptyScene] } "spool" letterId
    (fun _ => default)

/-- A scene about squares is asked for, then one without a topic, then the first one again. -/
def squaresDay : List GenerationEntry × Studio :=
  rehearsedDay slowCrew [listBody, (topicRequest "").body, (topicRequest "squares").body]

/-- And once more, in other words. -/
def squaresEntry : GenerationEntry := filmEntry slowCrew (bodyRequest looseBody) squaresDay.2

/-- On the day of the rehearsal the language model is asked twice, as its first reply is no
scene; whoever asks then gets the second one. -/
theorem squaresEntry_reused :
    squaresDay.1.map (fun e => (e.values?, e.replies.length)) =
      [(some squaresValues, 1), (none, 0), (some squaresValues, 1)] ∧
    squaresEntry.replies = [] ∧ squaresEntry.response.status = 200 ∧
    ∃ code, squaresDay.1.head?.bind (·.code?) = some code ∧
      squaresEntry.response.body = Server.codeBody filmPolicy (code, [Api.cachedWarning]) := by
  -- one evaluation of the whole day
  have htold : squaresDay.1.map (fun e => (e.values?, e.replies.length, e.code?.isSome)) =
      [(some squaresValues, 1, true), (none, 0, false), (some squaresValues, 1, false)] := by
    decide +kernel
  have hnow : squaresEntry.values? = some squaresValues := by
    decide +kernel
  obtain ⟨third, rest, hday, hthird, hrest⟩ := List.map_eq_cons_iff.mp htold
  obtain ⟨second, rest, rfl, hsecond, hrest⟩ := List.map_eq_cons_iff.mp hrest
  obtain ⟨first, rest, rfl, hfirst, hrest⟩ := List.map_eq_cons_iff.mp hrest
  obtain rfl := List.map_eq_nil_iff.mp hrest
  simp only [Prod.mk.injEq] at hthird hsecond hfirst
  obtain ⟨code, hcode⟩ := Option.isSome_iff_exists.mp hthird.2.2
  have hunmade : Unmade squaresValues [second, first] := by
    intro e he _
    simp only [List.mem_cons, List.not_mem_nil, or_false] at he
    rcases he with rfl | rfl
    · exact Option.not_isSome_iff_eq_none.mp (by simp [hsecond.2.2])
    · exact Option.not_isSome_iff_eq_none.mp (by simp [hfirst.2.2])
  -- everybody who is understood wants the same
  have hsame : ∀ values, AskedFor (squaresEntry :: squaresDay.1) values →
      values = squaresValues := by
    rintro values ⟨e, he, hvalues⟩
    rw [hday] at he
    simp only [List.mem_cons, List.not_mem_nil, or_false] at he
    rcases he with rfl | rfl | rfl | rfl
    · exact Option.some.inj (hvalues.symm.trans hnow)
    · exact Option.some.inj (hvalues.symm.trans hthird.1)
    · rw [hsecond.1] at hvalues
      cases hvalues
    · exact Option.some.inj (hvalues.symm.trans hfirst.1)
  have hdigest : NoTwoAlike filmPolicy (squaresEntry :: squaresDay.1) := by
    intro values values' hvalues hvalues' _
    rw [hsame values hvalues, hsame values' hvalues']
  obtain ⟨-, hreused, -⟩ := code_made_once rfl rfl
    (rehearsedDay_isDay slowCrew [listBody, (topicRequest "").body, (topicRequest "squares").body])
    (filmEntry_takes rfl (bodyRequest_route looseBody) squaresDay.2) hdigest hnow
  obtain ⟨hsilent, hstatus, hbody⟩ :=
    hreused [] third [second, first] code hday hthird.1 hcode hunmade
  refine ⟨?_, hsilent, hstatus, code, ?_, hbody⟩
  · simp [hday, hthird, hsecond, hfirst]
  · rw [hday]
    exact hcode

end SceneRender
