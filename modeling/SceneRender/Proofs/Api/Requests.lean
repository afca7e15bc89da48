import SceneRender.Api.Server
import SceneRender.Proofs.Pipeline.OpenJobs

/-!
# What a request does

A request can do one of two things.  Most requests only look: they read records and videos,
ask the language model and remember code, but they make no job, change none, and hand no task
to the workers.  A request to render submits its code, unless it is refused before anything
is asked.  A new job's task is handed to the workers, and the job is given up if they do not
take it.

`requestRun` says that this is all there is, for every request on its way through the server,
and tells the status of the response in each case.
-/

namespace SceneRender

open Plan Pipeline

namespace Plan

variable {V : Vocabulary} {ε α β : Type}

/-- A plan that goes on from a result that is known already. -/
theorem run_except_bind (x : Except ε α) (f : α → ExceptT ε (Plan V) β) :
    ((liftM x : ExceptT ε (Plan V) α) >>= f).run =
      match x with
      | .ok a => (f a).run
      | .error e => pure (.error e) := by
  cases x <;> rfl

/-- A plan that goes on from the answer of one without faults. -/
theorem run_plan_bind (p : Plan V α) (f : α → ExceptT ε (Plan V) β) :
    ((liftM p : ExceptT ε (Plan V) α) >>= f).run = p >>= fun a => (f a).run := by
  induction p with
  | done a => rfl
  | ask q next ih => exact congrArg (Plan.ask q) (funext fun r => ih r)

end Plan

/-! ## Looking -/

/-- An exchange with a question aside. -/
def Aside (exchange : Studio → ServiceExchange → Studio → Prop) (s : Studio)
    (e : ServiceExchange) (s' : Studio) : Prop :=
  exchange s e s' ∧ e.question.isAside = true

/-- Does a question ask for what is there, or for what the language model says? -/
def ServiceQuestion.isLook : ServiceQuestion → Bool
  | getJob _ | lookUp _ _ | findVideo _ | owns _ | complete _ _ | readVideo _ => true
  | _ => false

/-- Does an exchange leave no trace?  A store of videos that refuses may leave one. -/
def ServiceExchange.isTraceless (e : ServiceExchange) : Bool :=
  e.question.isLook && !e.isVideoFault

/-- The turns of a plan that only looks, aside from what it remembers.  The stage tells
whether there may be traces of it. -/
def AsideTurn (traced : Bool) (e : ServiceExchange) (traced' : Bool) : Prop :=
  e.question.isAside = true ∧ (traced' = false → traced = false ∧ e.isTraceless = true)

/-- An exchange without a trace. -/
theorem AsideTurn.look {e : ServiceExchange} (haside : e.question.isAside = true)
    (htraceless : e.isTraceless = true) : AsideTurn false e false :=
  ⟨haside, fun _ => ⟨rfl, htraceless⟩⟩

/-- An exchange that may leave a trace. -/
theorem AsideTurn.trace {traced : Bool} {e : ServiceExchange}
    (haside : e.question.isAside = true) : AsideTurn traced e true :=
  ⟨haside, nofun⟩

/-- The statuses that say that a request was refused. -/
def refusals : List Nat := [400, 404, 405, 409, 429]

/-- How a look ends: with a response of a status that no request to render has, and not with
a refusal once there may be traces. -/
def LookEnd (traced : Bool) (response : Response) : Prop :=
  (response.status ≠ 202 ∧ response.status ≠ 503) ∧
    (traced = true → response.status ∉ refusals)

namespace Api

/-- How a handler that only looks ends. -/
def HandlerEnd (traced : Bool) : Except ApiFault Response → Prop
  | .ok response => response.status = 200
  | .error fault => fault.status ≠ 503 ∧ (traced = true → fault.status ∉ refusals)

variable {turn : Bool → ServiceExchange → Bool → Prop} {settings : ApiSettings} {r : Request}

/-- What is sent for the end of a handler. -/
def sent : Except ApiFault Response → Response
  | .ok response => response
  | .error fault => fault.response

/-- A handler is answered by sending what it ends with. -/
theorem answered_eq (handler : ApiPlan Response) :
    answered handler = handler.run >>= fun result => pure (sent result) := by
  refine congrArg (handler.run >>= ·) (funext fun result => ?_)
  cases result <;> rfl

/-- No fault is an acceptance. -/
theorem ne_accepted (fault : ApiFault) : fault.status ≠ 202 := by
  cases fault <;> simp [ApiFault.status]

/-- What a handler answers is what is sent. -/
theorem follows_answered {handler : ApiPlan Response}
    (h : handler.run.Follows turn HandlerEnd false) :
    (answered handler).Follows turn LookEnd false := by
  rw [answered_eq, follows_bind]
  refine h.mono ?_
  rintro _ (fault | response) hend
  · exact ⟨⟨ne_accepted fault, hend.1⟩, hend.2⟩
  · have hfine : response.status = 200 := hend
    change (response.status ≠ 202 ∧ response.status ≠ 503) ∧ (_ → response.status ∉ refusals)
    rw [hfine]
    exact ⟨by decide, fun _ => by decide⟩

/-- A payload that cannot be read is a bad request. -/
theorem readPayload_status {σ : Type} {form : Schema.Form σ} {start : σ} {fault : ApiFault}
    (h : readPayload form start r = .error fault) : fault.status = 400 := by
  rw [readPayload] at h
  split at h
  · cases h
    rfl
  · split at h
    · cases h
      rfl
    · split at h <;> cases h
      rfl

/-- Code that is not valid is a bad request. -/
theorem requireValid_status {code : String} {fault : ApiFault}
    (h : requireValid code = .error fault) : fault.status = 400 := by
  rw [requireValid] at h
  split at h <;> cases h
  rfl

/-- A bad request does not say that the service is unavailable. -/
theorem ne_unavailable {fault : ApiFault} (h : fault.status = 400) : fault.status ≠ 503 := by
  rw [h]
  decide

/-- A fault before any trace. -/
theorem handlerEnd_untraced {fault : ApiFault} (h : fault.status ≠ 503) :
    HandlerEnd false (.error fault) :=
  ⟨h, nofun⟩

/-- Making code leaves the jobs alone. -/
theorem follows_newCode (request : GenerationRequest) :
    (newCode settings request).Follows AsideTurn (fun _ _ => True) false := by
  rw [newCode, follows_bind]
  intro reply
  refine ⟨false, .look rfl rfl, follows_done.mpr ?_⟩
  generalize Assistant.generated settings.provider request reply = made
  obtain ⟨code, warnings⟩ := made
  dsimp only
  split
  · exact trivial
  · split
    · intro remembered
      exact ⟨true, .trace rfl, trivial⟩
    · exact trivial

/-- A generation leaves the jobs alone. -/
theorem follows_generate : (generate settings r).run.Follows AsideTurn HandlerEnd false := by
  rw [generate, run_except_bind]
  cases hread : readPayload GenerationRequest.form .blank r with
  | error fault =>
      exact handlerEnd_untraced (ne_unavailable (readPayload_status hread))
  | ok request =>
      dsimp only
      split
      · exact handlerEnd_untraced (by decide : (400 : Nat) ≠ 503)
      · rw [run_plan_bind, follows_bind]
        intro known
        refine ⟨false, .look rfl rfl, follows_done.mpr ?_⟩
        cases known with
        | some code => exact rfl
        | none =>
            dsimp only
            rw [run_plan_bind, follows_bind]
            exact (follows_newCode request).mono fun _ _ _ => rfl

/-- A revision leaves the jobs alone. -/
theorem follows_regenerate : (regenerate r).run.Follows AsideTurn HandlerEnd false := by
  rw [regenerate, run_except_bind]
  cases hread : readPayload RevisionPayload.form .blank r with
  | error fault =>
      exact handlerEnd_untraced (ne_unavailable (readPayload_status hread))
  | ok payload =>
      dsimp only
      split
      · exact handlerEnd_untraced (by decide : (400 : Nat) ≠ 503)
      · split
        · exact handlerEnd_untraced (by decide : (400 : Nat) ≠ 503)
        · rw [run_plan_bind, follows_bind]
          intro reply
          refine ⟨false, .look rfl rfl, follows_done.mpr ?_⟩
          rw [run_except_bind]
          cases hvalid : requireValid (Assistant.changed payload.code reply) with
          | ok _ => exact rfl
          | error fault => exact handlerEnd_untraced (ne_unavailable (requireValid_status hvalid))

/-- The job of an id is read. -/
theorem follows_loadJob_bind {id : String} {f : Job → ApiPlan Response}
    (next : ∀ job, (f job).run.Follows AsideTurn HandlerEnd false) :
    (loadJob id >>= f).run.Follows AsideTurn HandlerEnd false := by
  rw [follows_bind_run, loadJob, run_plan_bind, follows_bind]
  intro reply
  refine ⟨false, .look rfl rfl, follows_done.mpr ?_⟩
  rcases reply with fault | _ | job
  · exact handlerEnd_untraced (by decide : (500 : Nat) ≠ 503)
  · exact handlerEnd_untraced (by decide : (404 : Nat) ≠ 503)
  · exact next job

/-- Asking for a job leaves the jobs alone. -/
theorem follows_jobStatus (id : String) :
    (jobStatus id).run.Follows AsideTurn HandlerEnd false := by
  rw [jobStatus]
  exact follows_loadJob_bind fun job => rfl

/-- Asking for a video leaves the jobs alone. -/
theorem follows_jobVideo (id : String) :
    (jobVideo id).run.Follows AsideTurn HandlerEnd false := by
  rw [jobVideo]
  refine follows_loadJob_bind fun job => ?_
  dsimp only
  split
  · exact handlerEnd_untraced (by decide : (409 : Nat) ≠ 503)
  · rw [run_plan_bind, follows_bind]
    intro sought
    rcases sought with fault | _ | path
    · -- the store refuses, and the handler does not
      exact ⟨true, .trace rfl, follows_done.mpr ⟨(by decide : (500 : Nat) ≠ 503),
        fun _ => (by decide : 500 ∉ refusals)⟩⟩
    · exact ⟨false, .look rfl rfl, handlerEnd_untraced (by decide : (404 : Nat) ≠ 503)⟩
    · refine ⟨false, .look rfl rfl, follows_done.mpr ?_⟩
      dsimp only
      rw [run_plan_bind, follows_bind]
      intro content
      refine ⟨false, .look rfl rfl, follows_done.mpr ?_⟩
      rcases content with fault | content
      · cases fault with
        | notFound => exact handlerEnd_untraced (by decide : (404 : Nat) ≠ 503)
        | _ => exact handlerEnd_untraced (by decide : (500 : Nat) ≠ 503)
      · exact rfl

/-- A handler of jobs leaves them alone whatever id was asked for. -/
theorem follows_withId {encoded : String} {handler : String → ApiPlan Response}
    (h : ∀ id, (handler id).run.Follows AsideTurn HandlerEnd false) :
    (withId encoded handler).Follows AsideTurn LookEnd false := by
  rw [withId]
  cases PercentText.decode? encoded with
  | none => exact ⟨⟨by decide, by decide⟩, nofun⟩
  | some id => exact follows_answered (h id)

/-! ## Requests to render -/

/-- The response that names a job which was taken on. -/
def accepted (job : Job) : Response :=
  .json 202 (.record [("job_id", .text job.id), ("status", .text job.status.name)])

/-- What is made of a submission: its job is named once its task is handed over, if it has
one. -/
def settle : Except PipelineFault Submission → ApiPlan Response
  | .error fault => throw (.ofPipeline fault)
  | .ok (.enqueued job task) => do
    dispatch task
    return accepted job
  | .ok (.cached job) | .ok (.inFlight job) => return accepted job

/-- **A request to render** is refused before anything is asked, or its code is submitted. -/
theorem render_run (settings : ApiSettings) (r : Request) :
    (∃ fault, fault.status = 400 ∧ (render settings r).run = pure (.error fault)) ∨
      ∃ code quality allowRetry, (render settings r).run =
        (submit code quality allowRetry).run >>= fun submitted => (settle submitted).run := by
  rw [render, run_except_bind]
  cases hread : readPayload RenderPayload.form .blank r with
  | error fault => exact Or.inl ⟨fault, readPayload_status hread, rfl⟩
  | ok payload =>
      have hquality : ∀ {fault : ApiFault},
          requestedQuality settings payload = .error fault → fault.status = 400 := by
        intro fault h
        rw [requestedQuality] at h
        split at h
        · cases h
        · split at h <;> cases h
          rfl
      dsimp only
      split
      · exact Or.inl ⟨.badRequest emptyCodeMessage, rfl, rfl⟩
      · rw [run_except_bind]
        cases hcase : requestedQuality settings payload with
        | error fault => exact Or.inl ⟨fault, hquality hcase, rfl⟩
        | ok quality =>
            dsimp only
            have hguard : ∀ next : Unit → ApiPlan Response,
                (if (!payload.retryOnError) = true then
                  liftM (requireValid payload.code) >>= next else next ()) =
                (liftM (if (!payload.retryOnError) = true then requireValid payload.code
                  else .ok ()) >>= next) := by
              intro next
              split <;> rfl
            rw [hguard, run_except_bind]
            cases hvalid : if (!payload.retryOnError) = true then requireValid payload.code
              else .ok () with
            | error fault =>
                split at hvalid
                · exact Or.inl ⟨fault, requireValid_status hvalid, rfl⟩
                · cases hvalid
            | ok _ =>
                refine Or.inr ⟨payload.code, quality, payload.retryOnError, ?_⟩
                dsimp only
                rw [run_plan_bind]
                refine congrArg _ (funext ?_)
                rintro (fault | job | job | ⟨job, task⟩) <;> rfl

end Api

/-! ## Every request -/

/-- The job that a response names first of all. -/
def Response.jobId? (response : Response) : Option String :=
  match response.body with
  | .json (.record (("job_id", .text id) :: _)) => some id
  | _ => none

open ServiceExchange

/-- What a request does, with what is said of it in the response. -/
inductive RequestRun (exchange : Studio → ServiceExchange → Studio → Prop) (s : Studio)
    (response : Response) : Studio → Prop
  /-- The request only looks. -/
  | looked {p : ServicePlan Response} {inner : Response} {s' : Studio}
      (run : Runs (Aside exchange) p s inner s')
      (status : response.status ≠ 202 ∧ response.status ≠ 503) :
      RequestRun exchange s response s'
  /-- Code is submitted, and the submission fails. -/
  | failed {code : String} {quality : Quality} {allowRetry : Bool} {fault : PipelineFault}
      {s' : Studio}
      (submitted : Runs exchange (submit code quality allowRetry).run s (.error fault) s')
      (status : response.status = (ApiFault.ofPipeline fault).status) :
      RequestRun exchange s response s'
  /-- Code is submitted, and nothing is left to do for it. -/
  | known {code : String} {quality : Quality} {allowRetry : Bool} {submission : Submission}
      {s' : Studio}
      (submitted : Runs exchange (submit code quality allowRetry).run s (.ok submission) s')
      (done : ∀ job task, submission ≠ .enqueued job task)
      (status : response.status = 202) (names : response.jobId? = some submission.job.id) :
      RequestRun exchange s response s'
  /-- Code is submitted, and the workers take the task. -/
  | taken {code : String} {quality : Quality} {allowRetry : Bool} {job : Job}
      {task : RenderTask} {middle s' : Studio}
      (submitted : Runs exchange (submit code quality allowRetry).run s
        (.ok (.enqueued job task)) middle)
      (handed : exchange middle (taskDispatched task (.ok ())) s')
      (status : response.status = 202) (names : response.jobId? = some job.id) :
      RequestRun exchange s response s'
  /-- Code is submitted, the workers do not take the task, and the job is given up. -/
  | givenUp {code : String} {quality : Quality} {allowRetry : Bool} {job : Job}
      {task : RenderTask} {fault : PipelineFault} {answer : Except PipelineFault Unit}
      {middle kept s' : Studio}
      (submitted : Runs exchange (submit code quality allowRetry).run s
        (.ok (.enqueued job task)) middle)
      (refused : exchange middle (taskDispatched task (.error fault)) kept)
      (abandoned : Runs exchange (abandon task.jobId fault.message).run kept answer s')
      (status : response.status = (ApiFault.ofPipeline fault).status) :
      RequestRun exchange s response s'

variable {exchange : Studio → ServiceExchange → Studio → Prop} {s s' : Studio}
  {response : Response} {r : Request}

/-- A request that is answered at once. -/
theorem RequestRun.idle (status : response.status ≠ 202 ∧ response.status ≠ 503) :
    RequestRun exchange s response s :=
  .looked (.done response s) status

/-- A plan that only looks. -/
theorem Plan.Follows.looked {p : ServicePlan Response} (hp : p.Follows AsideTurn LookEnd false)
    (hrun : Runs exchange p s response s') {sent : Response}
    (hsent : sent.status = response.status) : RequestRun exchange s sent s' := by
  have hend : Runs (Aside exchange) p s response s' ∧
      ∃ traced, LookEnd traced response ∧ (fun _ _ => True : Bool → Studio → Prop) traced s' :=
    hp.runs hrun trivial fun hturn hexchange _ => ⟨trivial, hexchange, hturn.1⟩
  obtain ⟨hruns, _, ⟨hstatus, -⟩, -⟩ := hend
  refine .looked hruns ?_
  rw [hsent]
  exact hstatus

/-- **Handing a task over**: the workers take it, or its job is given up. -/
theorem Api.runs_dispatch {task : RenderTask} {result : Except ApiFault Unit}
    (h : Runs exchange (Api.dispatch task).run s result s') :
    exchange s (taskDispatched task (.ok ())) s' ∧ result = .ok () ∨
      ∃ fault kept answer, exchange s (taskDispatched task (.error fault)) kept ∧
        Runs exchange (abandon task.jobId fault.message).run kept answer s' ∧
        result = .error (.ofPipeline fault) := by
  rw [Api.dispatch, run_plan_bind, runs_bind] at h
  obtain ⟨reply, handed, hdispatch, hrest⟩ := h
  replace hdispatch := runs_question.mp hdispatch
  rcases reply with fault | _
  · dsimp only at hrest
    rw [run_plan_bind, runs_bind] at hrest
    obtain ⟨answer, last, habandon, hend⟩ := hrest
    obtain ⟨rfl, rfl⟩ := runs_done.mp hend
    exact Or.inr ⟨fault, handed, answer, hdispatch, habandon, rfl⟩
  · obtain ⟨rfl, rfl⟩ := runs_done.mp hrest
    exact Or.inl ⟨hdispatch, rfl⟩

namespace Server

variable {policy : ServerPolicy} {freshId : String}

/-- Marks for browsers are headers. -/
theorem mark_eq (origins : OriginPolicy) (r : Request) (response : Response) :
    (origins.mark r response).status = response.status ∧
      (origins.mark r response).body = response.body := by
  rw [OriginPolicy.mark]
  cases origins.welcome? r <;> exact ⟨rfl, rfl⟩

/-- So are the names of methods. -/
theorem nameMethods_eq (r : Request) (response : Response) :
    (nameMethods r response).status = response.status ∧
      (nameMethods r response).body = response.body := by
  rw [nameMethods]
  cases Route.ofPath? r.path with
  | none => exact ⟨rfl, rfl⟩
  | some route =>
      dsimp only
      split <;> exact ⟨rfl, rfl⟩

/-- What is done to a response on its way out leaves its status alone, and its body unless
only the headers are asked for. -/
theorem finish_eq (policy : ServerPolicy) (freshId : String) (r : Request) (response : Response) :
    (finish policy freshId r response).status = response.status ∧
      (r.method ≠ "HEAD" → (finish policy freshId r response).body = response.body) := by
  obtain ⟨hstatus, hbody⟩ := nameMethods_eq r (policy.origins.mark r response)
  obtain ⟨hstatus', hbody'⟩ := mark_eq policy.origins r response
  rw [hstatus'] at hstatus
  rw [hbody'] at hbody
  rw [finish]
  generalize nameMethods r (policy.origins.mark r response) = named at hstatus hbody
  by_cases hhead : r.method = "HEAD"
  · rw [if_pos (beq_iff_eq.mpr hhead)]
    exact ⟨hstatus, fun hnot => absurd hhead hnot⟩
  · rw [if_neg (by simpa using hhead)]
    exact ⟨hstatus, fun _ => hbody⟩

/-- The id of an accepted job can be read off the response. -/
theorem finish_jobId? (policy : ServerPolicy) (freshId : String) {r : Request} (job : Job)
    (hmethod : r.method ≠ "HEAD") :
    (finish policy freshId r (Api.accepted job)).jobId? = some job.id := by
  rw [Response.jobId?, (finish_eq policy freshId r _).2 hmethod]
  rfl

/-- What becomes of a request to render. -/
theorem requestRun_render {settings : ApiSettings} (hmethod : r.method ≠ "HEAD")
    (h : Runs exchange (Api.answered (Api.render settings r)) s response s') :
    RequestRun exchange s (finish policy freshId r response) s' := by
  rw [Api.answered_eq, runs_bind] at h
  obtain ⟨result, last, hrun, hsent⟩ := h
  obtain ⟨hresponse, rfl⟩ := runs_done.mp hsent
  have hstatus := (finish_eq policy freshId r response).1
  rcases Api.render_run settings r with ⟨fault, hearly, hplan⟩ | ⟨code, quality, retry, hplan⟩
  · rw [hplan] at hrun
    obtain ⟨rfl, rfl⟩ := runs_done.mp hrun
    refine .looked (.done response _) ?_
    rw [hstatus, hresponse]
    change fault.status ≠ 202 ∧ fault.status ≠ 503
    exact ⟨Api.ne_accepted fault, Api.ne_unavailable hearly⟩
  · rw [hplan] at hrun
    obtain ⟨submitted, middle, hsubmit, hsettle⟩ := runs_bind.mp hrun
    rcases submitted with fault | job | job | ⟨job, task⟩
    · obtain ⟨rfl, rfl⟩ := runs_done.mp hsettle
      refine .failed hsubmit ?_
      rw [hstatus, hresponse]
      rfl
    · obtain ⟨rfl, rfl⟩ := runs_done.mp hsettle
      obtain rfl : response = Api.accepted job := hresponse
      exact .known hsubmit (fun _ _ heq => nomatch heq) hstatus
        (finish_jobId? policy freshId job hmethod)
    · obtain ⟨rfl, rfl⟩ := runs_done.mp hsettle
      obtain rfl : response = Api.accepted job := hresponse
      exact .known hsubmit (fun _ _ heq => nomatch heq) hstatus
        (finish_jobId? policy freshId job hmethod)
    · rw [Api.settle] at hsettle
      rcases runs_bind_run.mp hsettle with ⟨_, handed, hdispatch, hend⟩ | ⟨fault, hdispatch, hend⟩
      · obtain ⟨rfl, rfl⟩ := runs_done.mp hend
        obtain rfl : response = Api.accepted job := hresponse
        rcases Api.runs_dispatch hdispatch with ⟨htaken, -⟩ | ⟨fault, kept, answer, -, -, heq⟩
        · exact .taken hsubmit htaken hstatus (finish_jobId? policy freshId job hmethod)
        · cases heq
      · rcases Api.runs_dispatch hdispatch with
          ⟨-, heq⟩ | ⟨cause, kept, answer, hrefused, hgiven, heq⟩
        · cases heq
        · cases heq
          refine .givenUp hsubmit hrefused hgiven ?_
          rw [hstatus, hresponse, hend]
          rfl

/-- What becomes of a request that was let through. -/
theorem requestRun_routed (h : Runs exchange (routed policy r) s response s') :
    RequestRun exchange s (finish policy freshId r response) s' := by
  have hstatus := (finish_eq policy freshId r response).1
  rw [routed] at h
  split at h
  · obtain ⟨rfl, rfl⟩ := runs_done.mp h
    refine .idle ?_
    rw [hstatus]
    decide
  · next route hroute =>
    split at h
    · next hmethods =>
      cases route with
      | health =>
          obtain ⟨rfl, rfl⟩ := runs_done.mp h
          refine .idle ?_
          rw [hstatus]
          decide
      | generate => exact (Api.follows_answered Api.follows_generate).looked h hstatus
      | regenerate => exact (Api.follows_answered Api.follows_regenerate).looked h hstatus
      | render =>
          have hmethod : r.method = "POST" := by
            simpa [Route.methods, Route.isReading] using hmethods
          exact requestRun_render (by rw [hmethod]; decide) h
      | status id => exact (Api.follows_withId Api.follows_jobStatus).looked h hstatus
      | video id => exact (Api.follows_withId Api.follows_jobVideo).looked h hstatus
    · obtain ⟨rfl, rfl⟩ := runs_done.mp h
      refine .idle ?_
      rw [hstatus]
      decide

/-- **What a request does**, and what is said of it. -/
theorem requestRun {limiter : RateLimiter} {now : Nat}
    (h : Runs exchange (respond policy limiter now freshId r).1 s response s') :
    RequestRun exchange s response s' := by
  rw [respond] at h
  dsimp only at h
  split at h
  · obtain ⟨rfl, rfl⟩ := runs_done.mp h
    refine .idle ?_
    rw [(finish_eq policy freshId r _).1]
    decide
  · split at h
    · obtain ⟨inner, last, hrouted, hsent⟩ := runs_bind.mp h
      obtain ⟨rfl, rfl⟩ := runs_done.mp hsent
      exact requestRun_routed hrouted
    · obtain ⟨rfl, rfl⟩ := runs_done.mp h
      refine .idle ?_
      rw [(finish_eq policy freshId r _).1]
      decide

end Server

end SceneRender
