import Mathlib.Logic.Relation
import SceneRender.Proofs.Api.CleanCode
import SceneRender.Proofs.Api.QueuedJobs

/-!
# Code is as it is presented

Behind a server many things go on at once.  Requests come in while others are still being
answered, workers are at their tasks, and whoever gets to ask the studio next is left open:
`Traffic.Step` moves any one of them on by a single exchange.  The stores may fail in any
exchange, clients may go away before they are answered, and others may change the studio as
they like, except that nobody else remembers new code.

Yet whatever is given out as clean is valid (`code_as_presented`).  What carries this is an
invariant of three parts, of which none could be kept alone (`Traffic.Clean`): all new code
in the cache is valid, everything that goes on keeps its promise, and all that was sent was
presented rightly.
-/

namespace SceneRender

open Plan Pipeline ServiceExchange

/-! ## New code in the cache -/

/-- All new code in the cache is valid. -/
def ResultCache.IsClean (cache : ResultCache) : Prop :=
  ∀ print code, cache.remembered? .generation print = some code → (Script.validate code).ok = true

namespace ResultCache

variable {cache : ResultCache} {ns : CacheNamespace} {print value : String}

/-- A cache without entries is clean. -/
theorem isClean_of_empty (h : cache.store.entries = []) : cache.IsClean := by
  intro print code hcode
  rw [remembered?, h] at hcode
  cases hcode

/-- What is remembered of another kind does not matter, and new code that is remembered has
to be valid. -/
theorem IsClean.put (h : cache.IsClean)
    (hvalue : ns = .generation → (Script.validate value).ok = true) :
    (cache.put ns print value).IsClean := by
  intro print' code hcode
  by_cases hns : ns = .generation
  · subst hns
    rcases remembered?_put_cases hcode with hold | ⟨-, rfl⟩
    · exact h print' code hold
    · exact hvalue rfl
  · rw [remembered?_put_of_ne hns] at hcode
    exact h print' code hcode

end ResultCache

namespace Studio

variable {crew : Crew} {s s' : Studio} {e : ServiceExchange}

/-- In a clean cache only valid code is found. -/
theorem Falters.findsValid (hs : s.cache.IsClean) (h : s.Falters crew e s') : e.FindsValid := by
  obtain ⟨q, r⟩ := e
  cases q with
  | lookUp ns print =>
      cases ns with
      | render => exact trivial
      | generation =>
          intro code hcode
          rcases h with ⟨refusal, hreply⟩ | ⟨hfault, -⟩
          · have hrefused : (s.withRefusal refusal).cache.IsClean := hs
            exact hrefused print code
              (ResultCache.remembered?_of_get ((congrArg Prod.fst hreply).trans hcode))
          · cases hfault
  | _ => exact trivial

/-- An exchange that remembers no wrong code leaves a clean cache clean. -/
theorem Falters.isClean (hs : s.cache.IsClean) (h : s.Falters crew e s')
    (hvalid : e.RemembersValid) : s'.cache.IsClean := by
  obtain ⟨q, r⟩ := e
  rcases h with ⟨refusal, hreply⟩ | ⟨-, disk, rfl⟩
  · -- whether the store refuses has no part in what it remembers
    have hrefused : (s.withRefusal refusal).cache.IsClean := hs
    by_cases hquiet : q.isQuiet = true
    · rw [(reply_quiet hreply hquiet).1]
      exact hrefused
    · cases q with
      | remember ns print value =>
          cases hreply
          refine hrefused.put fun hns => ?_
          subst hns
          exact hvalid
      | claim id =>
          cases hreply
          exact hrefused
      | release id =>
          cases hreply
          exact hrefused
      | _ => exact absurd rfl hquiet
  · exact hs

end Studio

/-! ## Traffic -/

/-- Something that goes on: it ends with a request and the response to it, or with nothing
that is sent. -/
abbrev Activity := ServicePlan (Option (Request × Response))

namespace Activity

/-- The answering of a request. -/
def answering (policy : ServerPolicy) (limiter : RateLimiter) (now : Nat) (freshId : String)
    (request : Request) : Activity := do
  return some (request, ← (Server.respond policy limiter now freshId request).1)

/-- The work at a task. -/
def working (maxRetries : Nat) (task : RenderTask) : Activity := do
  let _ ← process maxRetries task
  return none

end Activity

/-- What goes on behind a server, and what was sent so far, the latest first. -/
structure Traffic where
  studio : Studio
  going : List Activity := []
  sent : List (Request × Response) := []

namespace Traffic

/-- One step of what goes on behind a server. -/
inductive Step (policy : ServerPolicy) (crew : Crew) (t : Traffic) : Traffic → Prop
  /-- A request comes in, at any time and from any client. -/
  | comes (limiter : RateLimiter) (now : Nat) (freshId : String) (request : Request) :
      Step policy crew t
        { t with going := .answering policy limiter now freshId request :: t.going }
  /-- A worker begins with a task. -/
  | begins (maxRetries : Nat) (task : RenderTask) :
      Step policy crew t { t with going := .working maxRetries task :: t.going }
  /-- Something that goes on asks one question. -/
  | asks {q : ServiceQuestion} {next : q.Reply → Activity} {others : List Activity}
      {r : q.Reply} {s' : Studio} (among : t.going.Perm (.ask q next :: others))
      (first : t.studio.Falters crew ⟨q, r⟩ s') :
      Step policy crew t { t with studio := s', going := next r :: others }
  /-- Something is over, and a response is sent if there is one. -/
  | ends (last : Option (Request × Response)) {others : List Activity}
      (among : t.going.Perm (.done last :: others)) :
      Step policy crew t { t with going := others, sent := last.toList ++ t.sent }
  /-- Something is broken off. -/
  | breaks {activity : Activity} {others : List Activity}
      (among : t.going.Perm (activity :: others)) : Step policy crew t { t with going := others }
  /-- Something else happens to the studio, but no new code is remembered. -/
  | happens {s' : Studio} (code : ∀ print code,
      s'.cache.remembered? .generation print = some code →
        t.studio.cache.remembered? .generation print = some code) :
      Step policy crew t { t with studio := s' }

/-- What goes on from one moment to another. -/
abbrev Leads (policy : ServerPolicy) (crew : Crew) : Traffic → Traffic → Prop :=
  Relation.ReflTransGen (Step policy crew)

/-! ## The invariant -/

/-- What something that goes on may end with. -/
def Fits (policy : ServerPolicy) (last : Option (Request × Response)) : Prop :=
  ∀ request response, last = some (request, response) → Server.Presents policy request response

/-- All new code in the cache is valid, whatever goes on keeps its promise, and all that was
sent was presented rightly. -/
structure Clean (policy : ServerPolicy) (t : Traffic) : Prop where
  cache : t.studio.cache.IsClean
  going : ∀ activity ∈ t.going,
    Plan.Promises FindsValid RemembersValid (Fits policy) activity
  sent : ∀ request response, (request, response) ∈ t.sent →
    Server.Presents policy request response

end Traffic

namespace Activity

variable {policy : ServerPolicy}

/-- Answering a request keeps the promises about code. -/
theorem promises_answering (limiter : RateLimiter) (now : Nat) (freshId : String)
    (request : Request) :
    (answering policy limiter now freshId request).Promises FindsValid RemembersValid
      (Traffic.Fits policy) := by
  rw [answering, promises_bind]
  refine (Server.promises_respond limiter now freshId request).mono fun response hresponse => ?_
  rintro _ _ ⟨⟩
  exact hresponse

/-- Working at a task keeps the promises about code. -/
theorem promises_working (maxRetries : Nat) (task : RenderTask) :
    (working maxRetries task).Promises FindsValid RemembersValid (Traffic.Fits policy) := by
  rw [working, promises_bind]
  exact (promises_process maxRetries task).mono fun _ _ => nofun

end Activity

namespace Traffic

variable {policy : ServerPolicy} {crew : Crew} {t t' : Traffic}

/-- **No step breaks the invariant.** -/
theorem Clean.step (h : t.Clean policy) (hstep : Step policy crew t t') : t'.Clean policy := by
  cases hstep with
  | comes limiter now freshId request =>
      refine ⟨h.cache, ?_, h.sent⟩
      exact List.forall_mem_cons.mpr
        ⟨Activity.promises_answering limiter now freshId request, h.going⟩
  | begins maxRetries task =>
      refine ⟨h.cache, ?_, h.sent⟩
      exact List.forall_mem_cons.mpr ⟨Activity.promises_working maxRetries task, h.going⟩
  | @asks q next others r s' among first =>
      have hgoing := fun activity hmem => h.going activity (among.mem_iff.mpr hmem)
      obtain ⟨hasking, hothers⟩ := List.forall_mem_cons.mp hgoing
      -- what is found is valid, so what is remembered is valid, and the promise goes on
      obtain ⟨hfair, hrest⟩ := hasking r (first.findsValid h.cache)
      exact ⟨first.isClean h.cache hfair, List.forall_mem_cons.mpr ⟨hrest, hothers⟩, h.sent⟩
  | ends last among =>
      have hgoing := fun activity hmem => h.going activity (among.mem_iff.mpr hmem)
      obtain ⟨hlast, hothers⟩ := List.forall_mem_cons.mp hgoing
      refine ⟨h.cache, hothers, fun request response hmem => ?_⟩
      rcases List.mem_append.mp hmem with hnew | hold
      · exact hlast request response (Option.mem_toList.mp hnew)
      · exact h.sent request response hold
  | breaks among =>
      have hgoing := fun activity hmem => h.going activity (among.mem_iff.mpr hmem)
      exact ⟨h.cache, (List.forall_mem_cons.mp hgoing).2, h.sent⟩
  | happens code =>
      exact ⟨fun print found hfound => h.cache print found (code print found hfound),
        h.going, h.sent⟩

/-- Clean traffic leads to clean traffic. -/
theorem Clean.leads (h : t.Clean policy) (hleads : Leads policy crew t t') :
    t'.Clean policy := by
  induction hleads with
  | refl => exact h
  | tail _ hstep ih => exact ih.step hstep

end Traffic

/-- **Code is as it is presented.**  Let a server begin with an empty cache, and let nobody
else remember new code.  Then whatever is asked of it, whatever the language model says and
whatever fails, of all responses to requests by `POST` that were ever sent the following is
true.

* Code that comes with status 200 from the route for revisions is valid.
* Code that comes with status 200 from the route for new code comes with a list of warnings.
  If there is none, the code is valid; if one of them says that the code is from the cache, it
  is valid; and if one of them says that there is no language model, it is the only one, and
  the code is valid.
* Other responses from the route for new code have no warnings. -/
theorem code_as_presented {policy : ServerPolicy} {crew : Crew} {studio : Studio} {t : Traffic}
    (hempty : studio.cache.store.entries = [])
    (h : Traffic.Leads policy crew { studio } t) {request : Request} {response : Response}
    (hsent : (request, response) ∈ t.sent) (hpost : request.method = "POST") :
    (Route.ofPath? request.path = some .regenerate → response.status = 200 → ∃ code,
      response.body = .json (.record [("code", .text code)]) ∧
        (Script.validate code).ok = true) ∧
    (Route.ofPath? request.path = some .generate → response.status = 200 → ∃ code warnings,
      response.body = .json (.record [("code", .text code), ("model", .text policy.api.model),
        ("warnings", Json.Value.texts warnings)]) ∧
      (warnings = [] → (Script.validate code).ok = true) ∧
      (Api.cachedWarning ∈ warnings → (Script.validate code).ok = true) ∧
      ∀ provider, Assistant.unavailableWarning provider ∈ warnings →
        warnings = [Assistant.unavailableWarning provider] ∧ (Script.validate code).ok = true) ∧
    (Route.ofPath? request.path = some .generate → response.status ≠ 200 →
      response.member? "warnings" = none) := by
  have hbegin : Traffic.Clean policy { studio } :=
    ⟨ResultCache.isClean_of_empty hempty, nofun, nofun⟩
  have hpresents := (hbegin.leads h).sent request response hsent hpost
  refine ⟨fun hroute => (hpresents _ hroute).revised rfl, fun hroute hok => ?_,
    fun hroute => (hpresents _ hroute).refused rfl⟩
  obtain ⟨code, warnings, hbody, hcode⟩ := (hpresents _ hroute).generated rfl hok
  exact ⟨code, warnings, hbody, hcode.clean, hcode.cached, hcode.unavailable⟩

/-! ## A rehearsal -/

namespace Traffic

variable {policy : ServerPolicy} {crew : Crew} {s s' : Studio}

/-- What goes on may be left alone to go on to its end. -/
theorem leads_runs {activity : Activity} {last : Option (Request × Response)}
    {others : List Activity} {sent : List (Request × Response)}
    (h : Runs (Studio.Falters crew) activity s last s') :
    Leads policy crew ⟨s, activity :: others, sent⟩ ⟨s', .done last :: others, sent⟩ := by
  induction h with
  | done last s => exact .refl
  | ask first rest ih => exact .head (.asks (.refl _) first) ih

/-- A request may be answered while nothing else goes on. -/
theorem leads_answered {limiter : RateLimiter} {now : Nat} {freshId : String} {request : Request}
    {response : Response} {sent : List (Request × Response)}
    (h : Runs (Studio.Falters crew) (Server.respond policy limiter now freshId request).1 s
      response s') :
    Leads policy crew { studio := s, sent }
      { studio := s', sent := (request, response) :: sent } := by
  have hruns : Runs (Studio.Falters crew)
      (Activity.answering policy limiter now freshId request) s (some (request, response)) s' :=
    runs_bind.mpr ⟨response, s', h, .done _ _⟩
  have hends : Step policy crew ⟨s', [.done (some (request, response))], sent⟩
      ⟨s', [], (request, response) :: sent⟩ := .ends (some (request, response)) (.refl _)
  exact .head (.comes limiter now freshId request) ((leads_runs hruns).tail hends)

/-- The traffic of requests that are answered one after the other. -/
def rehearsed (crew : Crew) : List Request → Traffic → Traffic
  | [], t => t
  | request :: rest, t =>
    rehearsed crew rest
      { studio := (t.studio.runPlan crew (filmAnswer request)).2
        sent := (request, (t.studio.runPlan crew (filmAnswer request)).1) :: t.sent }

/-- Requests that come one after the other are traffic. -/
theorem leads_rehearsed (requests : List Request) (sent : List (Request × Response)) :
    Leads filmPolicy crew { studio := s, sent }
      (rehearsed crew requests { studio := s, sent }) := by
  induction requests generalizing s sent with
  | nil => exact .refl
  | cons request rest ih =>
      have hruns := Studio.runs_runPlan crew (filmAnswer request) s
      exact (leads_answered hruns).trans (ih _)

end Traffic

/-- The warnings of a response. -/
def Response.warnings? (response : Response) : Option (List String) :=
  ((response.member? "warnings").bind Json.Value.items?).bind (·.mapM Json.Value.text?)

/-- The warnings are read off the body that they were written to. -/
theorem Response.warnings?_of_body {response : Response} {code model : String}
    {warnings : List String}
    (h : response.body = .json (.record [("code", .text code), ("model", .text model),
      ("warnings", Json.Value.texts warnings)])) : response.warnings? = some warnings := by
  have htexts : (warnings.map Json.Value.text).mapM Json.Value.text? = some warnings := by
    have hpure := List.mapM_pure (m := Option) (l := warnings) (f := fun w => w)
    rw [List.map_id'] at hpure
    rw [List.mapM_map]
    exact hpure
  rw [warnings?, member?, h]
  exact htexts

/-- A request for code about a topic. -/
def topicRequest (topic : String) : Request where
  method := "POST"
  target := "/generate"
  headers := [("content-type", "application/json")]
  body := "\x7b\"topic\":\"" ++ topic ++
    "\",\"duration_seconds\":30,\"style\":\"minimal\",\"level\":\"school\"\x7d"

/-- A request to revise code. -/
def revisionRequest : Request where
  method := "POST"
  target := "/regenerate"
  headers := [("content-type", "application/json")]
  body := "\x7b\"code\":\"pass\",\"instruction\":\"Draw nothing\"\x7d"

/-- A crew whose language model is silent at first and then writes one scene. -/
def terseCrew : Crew :=
  CrewScript.crew { replies := #[none, some emptyScene, some emptyScene] } "spool" letterId
    (fun _ => default)

/-- Code about a topic is asked for, then code about another one twice, and a revision. -/
def codeTraffic : Traffic :=
  Traffic.rehearsed terseCrew
    [topicRequest "squares", topicRequest "circles", topicRequest "circles", revisionRequest]
    { studio := filmStudio }

/-- In the rehearsal, code comes in place of that of the language model, from it, from the
cache, and as a revision; each time it is valid. -/
theorem codeTraffic_valid :
    codeTraffic.sent.map (fun x => (x.2.status, x.2.warnings?)) =
      [(200, none), (200, some [Api.cachedWarning]), (200, some []),
        (200, some [Assistant.unavailableWarning "none"])] ∧
    ∀ x ∈ codeTraffic.sent, ∃ code,
      x.2.member? "code" = some (.text code) ∧ (Script.validate code).ok = true := by
  -- one evaluation of the whole traffic
  have htold : codeTraffic.sent.map
      (fun x => (x.1.method, Route.ofPath? x.1.path, x.2.status, x.2.warnings?)) =
        [("POST", some .regenerate, 200, none),
          ("POST", some .generate, 200, some [Api.cachedWarning]),
          ("POST", some .generate, 200, some []),
          ("POST", some .generate, 200, some [Assistant.unavailableWarning "none"])] := by
    decide +kernel
  have hleads : Traffic.Leads filmPolicy terseCrew { studio := filmStudio } codeTraffic :=
    Traffic.leads_rehearsed _ _
  have hgenerated : ∀ {request response warnings}, (request, response) ∈ codeTraffic.sent →
      request.method = "POST" → Route.ofPath? request.path = some .generate →
      response.status = 200 → response.warnings? = some warnings → ∃ code,
        response.member? "code" = some (.text code) ∧ AsPresented code warnings := by
    intro request response warnings hsent hpost hroute hok hwarnings
    obtain ⟨-, hnew, -⟩ := code_as_presented rfl hleads hsent hpost
    obtain ⟨code, warnings', hbody, hclean, hcached, hunavailable⟩ := hnew hroute hok
    obtain rfl : warnings' = warnings :=
      Option.some.inj ((Response.warnings?_of_body hbody).symm.trans hwarnings)
    refine ⟨code, ?_, hclean, hcached, hunavailable⟩
    rw [Response.member?, hbody]
    rfl
  refine ⟨?_, fun x hx => ?_⟩
  · have hparts := congrArg (List.map fun y => y.2.2) htold
    rwa [List.map_map] at hparts
  · obtain ⟨request, response⟩ := x
    have hmem := List.mem_map_of_mem (f := fun x : Request × Response =>
      (x.1.method, Route.ofPath? x.1.path, x.2.status, x.2.warnings?)) hx
    rw [htold] at hmem
    simp only [List.mem_cons, Prod.mk.injEq, List.not_mem_nil, or_false] at hmem
    rcases hmem with ⟨hpost, hroute, hok, -⟩ | ⟨hpost, hroute, hok, hwarnings⟩ |
      ⟨hpost, hroute, hok, hwarnings⟩ | ⟨hpost, hroute, hok, hwarnings⟩
    · obtain ⟨hrevised, -⟩ := code_as_presented rfl hleads hx hpost
      obtain ⟨code, hbody, hvalid⟩ := hrevised hroute hok
      refine ⟨code, ?_, hvalid⟩
      rw [Response.member?, hbody]
      rfl
    · obtain ⟨code, hcode, hworth⟩ := hgenerated hx hpost hroute hok hwarnings
      exact ⟨code, hcode, hworth.cached List.mem_cons_self⟩
    · obtain ⟨code, hcode, hworth⟩ := hgenerated hx hpost hroute hok hwarnings
      exact ⟨code, hcode, hworth.clean rfl⟩
    · obtain ⟨code, hcode, hworth⟩ := hgenerated hx hpost hroute hok hwarnings
      exact ⟨code, hcode, (hworth.unavailable "none" List.mem_cons_self).2⟩

end SceneRender
