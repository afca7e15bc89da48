import SceneRender.Proofs.Api.Requests
import SceneRender.Proofs.Script.PlaceholderTree
import SceneRender.Proofs.Stages

/-!
# What is said of new code

A response with new code says what it is worth by its warnings.  `AsPresented` is what a
client may rely upon: code without a warning is valid, and so is code from the cache and
the placeholder, which comes with no other warning.

This is not the doing of one request alone.  Code from the cache is given out as it is
found, without a second look.  `Server.promises_respond` therefore says two things at once,
for every request: if all code that is found in the cache is valid, then all code that is
remembered is valid, and the response presents its code rightly.

What makes the warnings meaningful is that no wording of a violation can be taken for one
of them; the wordings differ in their first two characters
(`Script.not_mem_errors_of_lead`).
-/

namespace SceneRender

open Plan Pipeline ServiceExchange

/-! ## Wordings of violations -/

namespace Script

/-- How the wordings of violations begin. -/
def Violation.starts : List String := ["Co", "Sy", "Fo", "Mi", "Du", "Re", "Un"]

/-- The wording of a violation begins with one of the known words. -/
theorem Violation.message_begins (v : Violation) :
    ∃ start ∈ starts, start.toList <+: v.message.toList := by
  have hleads : ∀ p ∈ leads, ∃ start ∈ starts, start.toList <+: p.toList := by decide +kernel
  obtain ⟨start, hmem, hstart⟩ := hleads _ v.lead_mem
  exact ⟨start, hmem, hstart.trans v.begins_lead⟩

/-- A text that begins like no violation is worded is not the wording of one. -/
theorem not_mem_errors_of_lead {source m : String} (lead : String)
    (hlead : lead.toList <+: m.toList)
    (hother : ∀ start ∈ Violation.starts,
      ¬ start.toList <+: lead.toList ∧ ¬ lead.toList <+: start.toList) :
    m ∉ (validate source).errors := by
  intro hm
  obtain ⟨v, -, rfl⟩ := mem_validate_errors.mp hm
  obtain ⟨start, hmem, hstart⟩ := v.message_begins
  obtain ⟨hnot, hnot'⟩ := hother start hmem
  rcases List.prefix_or_prefix_of_prefix hstart hlead with h | h
  · exact hnot h
  · exact hnot' h

end Script

/-! ## Warnings -/

/-- How the warning of an unavailable language model begins. -/
theorem Assistant.unavailableWarning_begins (provider : String) :
    "LL".toList <+: (unavailableWarning provider).toList :=
  Script.begins_append (Script.begins_append (by decide +kernel))

/-- That the model is not available is no finding of the validation. -/
theorem Assistant.unavailableWarning_not_mem_errors (provider source : String) :
    unavailableWarning provider ∉ (Script.validate source).errors :=
  Script.not_mem_errors_of_lead "LL" (unavailableWarning_begins provider) (by decide +kernel)

/-- That a scene comes from the cache is no finding of the validation. -/
theorem Api.cachedWarning_not_mem_errors (source : String) :
    cachedWarning ∉ (Script.validate source).errors :=
  Script.not_mem_errors_of_lead "Se" (by decide +kernel) (by decide +kernel)

/-- The two warnings of the service itself are told apart. -/
theorem Assistant.unavailableWarning_ne_cachedWarning (provider : String) :
    unavailableWarning provider ≠ Api.cachedWarning := by
  intro h
  have hbegins := unavailableWarning_begins provider
  rw [h] at hbegins
  exact absurd hbegins (by decide +kernel)

/-- What a client may rely upon, by the warnings that come with code. -/
structure AsPresented (code : String) (warnings : List String) : Prop where
  /-- Code without a warning is valid. -/
  clean : warnings = [] → (Script.validate code).ok = true
  /-- Code from the cache is valid. -/
  cached : Api.cachedWarning ∈ warnings → (Script.validate code).ok = true
  /-- Code that is not from a language model is valid and comes with no other warning. -/
  unavailable : ∀ provider, Assistant.unavailableWarning provider ∈ warnings →
    warnings = [Assistant.unavailableWarning provider] ∧ (Script.validate code).ok = true

/-- Code that is not valid is presented by the wordings of its violations. -/
theorem AsPresented.errors {code : String} (h : (Script.validate code).ok = false) :
    AsPresented code (Script.validate code).errors where
  clean := by
    intro hnone
    rw [Script.Verdict.ok, hnone] at h
    cases h
  cached hmem := absurd hmem (Api.cachedWarning_not_mem_errors code)
  unavailable provider hmem :=
    absurd hmem (Assistant.unavailableWarning_not_mem_errors provider code)

/-- Valid code without a warning. -/
theorem AsPresented.valid {code : String} (h : (Script.validate code).ok = true) :
    AsPresented code [] where
  clean _ := h
  cached _ := h
  unavailable _ hmem := by cases hmem

/-- Valid code from the cache. -/
theorem AsPresented.found {code : String} (h : (Script.validate code).ok = true) :
    AsPresented code [Api.cachedWarning] where
  clean _ := h
  cached _ := h
  unavailable provider hmem :=
    absurd (List.mem_singleton.mp hmem) (Assistant.unavailableWarning_ne_cachedWarning provider)

/-- Valid code in place of that of a language model. -/
theorem AsPresented.standIn {code : String} (provider : String)
    (h : (Script.validate code).ok = true) :
    AsPresented code [Assistant.unavailableWarning provider] where
  clean _ := h
  cached _ := h
  unavailable provider' hmem := by
    rw [List.mem_singleton.mp hmem]
    exact ⟨rfl, h⟩

/-! ## The cache of new code -/

namespace ServiceExchange

/-- If the exchange finds new code in the cache, the code is valid. -/
def FindsValid : ServiceExchange → Prop
  | ⟨.lookUp .generation _, (found : Option String)⟩ =>
    ∀ code, found = some code → (Script.validate code).ok = true
  | _ => True

/-- If the exchange remembers new code, the code is valid. -/
def RemembersValid : ServiceExchange → Prop
  | ⟨.remember .generation _ code, _⟩ => (Script.validate code).ok = true
  | _ => True

end ServiceExchange

/-- Turns that remember no code that is not valid. -/
theorem Plan.Follows.keepsClean {α τ : Type} {turn : τ → ServiceExchange → τ → Prop}
    {ends : τ → α → Prop} {p : ServicePlan α} {stage : τ} (h : p.Follows turn ends stage)
    (hturn : ∀ stage e stage', turn stage e stage' → RemembersValid e) :
    p.Promises FindsValid RemembersValid fun _ => True :=
  (h.promises hturn).mono fun _ _ => trivial

/-! ## Handlers -/

namespace Api

variable {settings : ApiSettings} {r : Request}

/-- **New code** is remembered only if it is valid, and is as it is presented. -/
theorem promises_newCode {request : GenerationRequest} (hrequest : request.problems = []) :
    (newCode settings request).Promises FindsValid RemembersValid fun made =>
      AsPresented made.1 made.2 := by
  rw [newCode, promises_bind]
  intro reply _
  refine ⟨trivial, promises_done.mpr ?_⟩
  cases reply with
  | error fault =>
      have hvalid := Script.validate_placeholderScene_ok
        (Script.topic_length_le (hrequest ▸ List.not_mem_nil))
      simp only [Assistant.generated, hvalid, Bool.not_true, Bool.false_eq_true, if_false,
        List.isEmpty_cons]
      refine promises_done.mpr ?_
      dsimp only
      exact .standIn settings.provider hvalid
  | ok text =>
      cases hvalid : (Script.validate (extractCode text)).ok with
      | false =>
          simp only [Assistant.generated, hvalid, Bool.not_false, if_true, List.nil_append]
          refine promises_done.mpr ?_
          dsimp only
          exact .errors hvalid
      | true =>
          simp only [Assistant.generated, hvalid, Bool.not_true, Bool.false_eq_true, if_false,
            List.isEmpty_nil, if_true]
          intro _ _
          exact ⟨hvalid, AsPresented.valid hvalid⟩

/-- How a request for new code ends: with code that is as it is presented, or in a
refusal. -/
def GenerateEnd (settings : ApiSettings) : Except ApiFault Response → Prop
  | .ok response => ∃ code warnings,
    response = generatedResponse settings code warnings ∧ AsPresented code warnings
  | .error _ => True

/-- A generation remembers valid code only, if it finds such code. -/
theorem promises_generate :
    (generate settings r).run.Promises FindsValid RemembersValid (GenerateEnd settings) := by
  rw [generate, run_except_bind]
  cases readPayload GenerationRequest.form .blank r with
  | error fault => exact trivial
  | ok request =>
      dsimp only
      split
      · exact trivial
      · next hnone =>
        have hproblems : request.problems = [] := by simpa using hnone
        rw [run_plan_bind, promises_bind]
        intro found hfound
        refine ⟨trivial, promises_done.mpr ?_⟩
        cases found with
        | some code => exact ⟨code, [cachedWarning], rfl, .found (hfound code rfl)⟩
        | none =>
            dsimp only
            rw [run_plan_bind, promises_bind]
            exact (promises_newCode hproblems).mono fun made hmade => ⟨_, _, rfl, hmade⟩

/-- How a request to revise code ends: with valid code, or in a refusal. -/
def RegenerateEnd : Except ApiFault Response → Prop
  | .ok response => ∃ code,
    response = .json 200 (.record [("code", .text code)]) ∧ (Script.validate code).ok = true
  | .error _ => True

/-- Code that the handler lets through is valid. -/
theorem requireValid_ok {code : String} (h : requireValid code = .ok ()) :
    (Script.validate code).ok = true := by
  rw [requireValid] at h
  split at h
  · assumption
  · cases h

/-- A revision keeps the same promises, and its end is the one of a revision. -/
theorem promises_regenerate :
    (regenerate r).run.Promises FindsValid RemembersValid RegenerateEnd := by
  rw [regenerate, run_except_bind]
  cases readPayload RevisionPayload.form .blank r with
  | error fault => exact trivial
  | ok payload =>
      dsimp only
      split
      · exact trivial
      · split
        · exact trivial
        · rw [run_plan_bind, promises_bind]
          intro reply _
          refine ⟨trivial, promises_done.mpr ?_⟩
          rw [run_except_bind]
          cases hvalid : requireValid (Assistant.changed payload.code reply) with
          | ok _ => exact ⟨_, rfl, requireValid_ok hvalid⟩
          | error fault => exact trivial

/-- No request to render remembers new code. -/
theorem promises_settle (submitted : Except PipelineFault Submission) :
    (settle submitted).run.Promises FindsValid RemembersValid fun _ => True := by
  rcases submitted with fault | job | job | ⟨job, task⟩
  · exact trivial
  · exact trivial
  · exact trivial
  · rw [settle, promises_bind_run, dispatch, run_plan_bind, promises_bind]
    intro handed _
    refine ⟨trivial, promises_done.mpr ?_⟩
    rcases handed with fault | _
    · dsimp only
      rw [run_plan_bind, promises_bind]
      refine (follows_abandon task.jobId fault.message).keepsClean fun _ _ _ hturn => ?_
      cases hturn <;> exact trivial
    · exact trivial

/-- The render handler remembers no code at all. -/
theorem promises_render :
    (render settings r).run.Promises FindsValid RemembersValid fun _ => True := by
  rcases render_run settings r with ⟨fault, -, hplan⟩ | ⟨code, quality, allowRetry, hplan⟩
  · rw [hplan]
    exact trivial
  · rw [hplan, promises_bind]
    have hsubmit : (submit code quality allowRetry).run.Promises FindsValid RemembersValid
        fun _ => True := by
      refine (follows_submit code quality allowRetry).keepsClean fun _ _ _ hturn => ?_
      cases hturn <;> exact trivial
    exact hsubmit.mono fun submitted _ => promises_settle submitted

/-- A job is read, and no new code is remembered. -/
theorem promises_loadJob_bind {id : String} {f : Job → ApiPlan Response}
    (next : ∀ job, (f job).run.Promises FindsValid RemembersValid fun _ => True) :
    (loadJob id >>= f).run.Promises FindsValid RemembersValid fun _ => True := by
  rw [promises_bind_run, loadJob, run_plan_bind, promises_bind]
  intro reply _
  refine ⟨trivial, promises_done.mpr ?_⟩
  rcases reply with fault | _ | job
  · exact trivial
  · exact trivial
  · exact next job

/-- Asking for a job touches no code. -/
theorem promises_jobStatus (id : String) :
    (jobStatus id).run.Promises FindsValid RemembersValid fun _ => True := by
  rw [jobStatus]
  exact promises_loadJob_bind fun job => trivial

/-- Asking for a video touches no code. -/
theorem promises_jobVideo (id : String) :
    (jobVideo id).run.Promises FindsValid RemembersValid fun _ => True := by
  rw [jobVideo]
  refine promises_loadJob_bind fun job => ?_
  dsimp only
  split
  · exact trivial
  · rw [run_plan_bind, promises_bind]
    intro sought _
    refine ⟨trivial, promises_done.mpr ?_⟩
    rcases sought with fault | _ | path
    · exact trivial
    · exact trivial
    · dsimp only
      rw [run_plan_bind, promises_bind]
      intro content _
      refine ⟨trivial, promises_done.mpr ?_⟩
      rcases content with fault | content
      · cases fault <;> exact trivial
      · exact trivial

end Api

/-! ## Responses -/

/-- A member of a JSON body. -/
def Response.member? (response : Response) (name : String) : Option Json.Value :=
  match response.body with
  | .json value => value.field? name
  | _ => none

/-- The response on a route presents its code rightly. -/
structure PresentsCode (settings : ApiSettings) (route : Route) (response : Response) :
    Prop where
  /-- Revised code is valid. -/
  revised : route = .regenerate → response.status = 200 → ∃ code,
    response.body = .json (.record [("code", .text code)]) ∧ (Script.validate code).ok = true
  /-- New code is worth what its warnings say. -/
  generated : route = .generate → response.status = 200 → ∃ code warnings,
    response.body = .json (.record [("code", .text code), ("model", .text settings.model),
      ("warnings", Json.Value.texts warnings)]) ∧ AsPresented code warnings
  /-- Warnings come with new code only. -/
  refused : route = .generate → response.status ≠ 200 → response.member? "warnings" = none

namespace PresentsCode

variable {settings : ApiSettings} {route : Route} {response response' : Response}

/-- Only the status and the body matter. -/
theorem congr (h : PresentsCode settings route response)
    (hstatus : response'.status = response.status) (hbody : response'.body = response.body) :
    PresentsCode settings route response' where
  revised hroute hok := by
    rw [hbody]
    exact h.revised hroute (hstatus ▸ hok)
  generated hroute hok := by
    rw [hbody]
    exact h.generated hroute (hstatus ▸ hok)
  refused hroute hnot := by
    rw [Response.member?, hbody]
    exact h.refused hroute (hstatus ▸ hnot)

/-- A refusal presents no code. -/
theorem refusal (hstatus : response.status ≠ 200) (hnone : response.member? "warnings" = none) :
    PresentsCode settings route response where
  revised _ hok := absurd hok hstatus
  generated _ hok := absurd hok hstatus
  refused _ _ := hnone

/-- A fault presents no code. -/
theorem fault (f : ApiFault) : PresentsCode settings route f.response := by
  refine refusal ?_ ?_
  · change f.status ≠ 200
    cases f <;> simp [ApiFault.status]
  · cases f <;> rfl

/-- Other routes have no code to present. -/
theorem other (hrevised : route ≠ .regenerate) (hgenerated : route ≠ .generate) :
    PresentsCode settings route response :=
  ⟨fun h => absurd h hrevised, fun h => absurd h hgenerated, fun h => absurd h hgenerated⟩

/-- The response at the end of a generation presents its code as it has to. -/
theorem of_generateEnd {result : Except ApiFault Response} (h : Api.GenerateEnd settings result) :
    PresentsCode settings .generate (Api.sent result) := by
  cases result with
  | error f => exact fault f
  | ok response =>
      obtain ⟨code, warnings, rfl, hcode⟩ := h
      exact ⟨nofun, fun _ _ => ⟨code, warnings, rfl, hcode⟩, fun _ hnot => absurd rfl hnot⟩

/-- The response at the end of a revision presents its code as it has to. -/
theorem of_regenerateEnd {result : Except ApiFault Response} (h : Api.RegenerateEnd result) :
    PresentsCode settings .regenerate (Api.sent result) := by
  cases result with
  | error f => exact fault f
  | ok response =>
      obtain ⟨code, rfl, hvalid⟩ := h
      exact ⟨fun _ _ => ⟨code, rfl, hvalid⟩, nofun, nofun⟩

end PresentsCode

namespace Api

variable {settings : ApiSettings}

/-- What a handler promises holds of what is sent. -/
theorem promises_answered {handler : ApiPlan Response} {ends : Except ApiFault Response → Prop}
    {shown : Response → Prop} (h : handler.run.Promises FindsValid RemembersValid ends)
    (hshown : ∀ result, ends result → shown (sent result)) :
    (answered handler).Promises FindsValid RemembersValid shown := by
  rw [answered_eq, promises_bind]
  exact h.mono hshown

/-- A handler of jobs keeps its promises whatever id was asked for. -/
theorem promises_withId {encoded : String} {handler : String → ApiPlan Response}
    (h : ∀ id, (handler id).run.Promises FindsValid RemembersValid fun _ => True)
    {shown : Response → Prop} (hshown : ∀ response, shown response) :
    (withId encoded handler).Promises FindsValid RemembersValid shown := by
  rw [withId]
  cases PercentText.decode? encoded with
  | none => exact hshown _
  | some id => exact promises_answered (h id) fun _ _ => hshown _

/-- **Every handler** remembers only valid code and presents its code rightly. -/
theorem promises_handle (route : Route) (r : Request) :
    (handle settings route r).Promises FindsValid RemembersValid
      (PresentsCode settings route) := by
  cases route with
  | health => exact .other nofun nofun
  | generate => exact promises_answered promises_generate fun _ => .of_generateEnd
  | regenerate => exact promises_answered promises_regenerate fun _ => .of_regenerateEnd
  | render => exact promises_answered promises_render fun _ _ => .other nofun nofun
  | status id => exact promises_withId promises_jobStatus fun _ => .other nofun nofun
  | video id => exact promises_withId promises_jobVideo fun _ => .other nofun nofun

end Api

namespace Server

variable {policy : ServerPolicy}

/-- The response to a request presents its code rightly, as far as its method lets it have
any. -/
def Presents (policy : ServerPolicy) (r : Request) (response : Response) : Prop :=
  r.method = "POST" → ∀ route, Route.ofPath? r.path = some route →
    PresentsCode policy.api route response

/-- Whatever route a request takes, the promises are kept. -/
theorem promises_routed (policy : ServerPolicy) (r : Request) :
    (routed policy r).Promises FindsValid RemembersValid (Presents policy r) := by
  rw [routed]
  split
  · next hnone =>
    intro _ route hroute
    rw [hnone] at hroute
    cases hroute
  · next route hroute =>
    split
    · refine (Api.promises_handle route r).mono fun response hresponse _ route' hroute' => ?_
      obtain rfl : route = route' := Option.some.inj (hroute.symm.trans hroute')
      exact hresponse
    · intro _ _ _
      exact .refusal (by decide) rfl

/-- What is done to a response on its way out does not touch its code. -/
theorem Presents.finish {r : Request} {response : Response} (h : Presents policy r response)
    (freshId : String) : Presents policy r (finish policy freshId r response) := by
  intro hpost route hroute
  obtain ⟨hstatus, hbody⟩ := finish_eq policy freshId r response
  refine (h hpost route hroute).congr hstatus (hbody ?_)
  rw [hpost]
  decide

/-- **What every request promises**: if it finds only valid code, it remembers only valid
code, and its response presents its code rightly. -/
theorem promises_respond (limiter : RateLimiter) (now : Nat) (freshId : String) (r : Request) :
    (respond policy limiter now freshId r).1.Promises FindsValid RemembersValid
      (Presents policy r) := by
  rw [respond]
  dsimp only
  split
  · next hpreflight =>
    intro hpost
    rw [OriginPolicy.isPreflight, hpost] at hpreflight
    cases hpreflight
  · split
    · have hrouted := promises_routed policy r
      generalize routed policy r = inner at hrouted
      rw [promises_bind]
      exact hrouted.mono fun response hresponse => hresponse.finish freshId
    · have hmany : Presents policy r tooMany := fun _ _ _ => .refusal (by decide) rfl
      exact hmany.finish freshId

end Server

/-- The work at a task remembers no new code. -/
theorem Pipeline.promises_process (maxRetries : Nat) (task : RenderTask) :
    (process maxRetries task).Promises FindsValid RemembersValid fun _ => True := by
  refine (follows_process maxRetries task).keepsClean fun _ _ _ hturn => ?_
  cases hturn <;> exact trivial

end SceneRender
