import SceneRender.Proofs.Api.QueuedJobs

/-!
# Refused requests change nothing

A request may be refused at many points: by the limiter, by the router, because its body or
its code does not pass, because a job or a video is not there, or because a job is not done.
Up to each of these points the service has only looked: no answer with one of the statuses
400, 404, 405, 409 and 429 comes after anything was changed (`Server.refused_untouched`).

For the handlers that look this can be told from their stages (`AsideTurn`).  A submission
changes a lot before it may fail, and its faults are told apart: as long as the job store is
not made to fail, the record that a submission works on is there, so that no job is said to
be missing (`Studio.submit_finds_job`).
-/

namespace SceneRender

open Plan Pipeline ServiceExchange

namespace Studio

/-- All that is kept is as it was: the jobs, the remembered results, the files, the tasks that
wait and the jobs that are owned. -/
structure Untouched (s s' : Studio) : Prop where
  jobs : s'.jobs = s.jobs
  remembered : s'.cache.store.entries = s.cache.store.entries
  disk : s'.disk = s.disk
  queue : s'.queue = s.queue
  owned : s'.owned = s.owned

variable {crew : Crew} {s₀ s s' : Studio} {e : ServiceExchange}

/-- A studio is untouched at first. -/
theorem Untouched.refl (s : Studio) : s.Untouched s := ⟨rfl, rfl, rfl, rfl, rfl⟩

/-- What was untouched twice is untouched. -/
theorem Untouched.trans (h : s₀.Untouched s) (h' : s.Untouched s') : s₀.Untouched s' where
  jobs := h'.jobs.trans h.jobs
  remembered := h'.remembered.trans h.remembered
  disk := h'.disk.trans h.disk
  queue := h'.queue.trans h.queue
  owned := h'.owned.trans h.owned

/-! ## Looking -/

/-- **An exchange without a trace** changes nothing that is kept. -/
theorem Falters.untouched (h : s.Falters crew e s') (htraceless : e.isTraceless = true) :
    s.Untouched s' := by
  obtain ⟨q, r⟩ := e
  rw [ServiceExchange.isTraceless, Bool.and_eq_true, Bool.not_eq_true'] at htraceless
  obtain ⟨hlook, hfine⟩ := htraceless
  rcases h with ⟨refusal, hreply⟩ | ⟨hfault, -⟩
  · cases q with
    | getJob id =>
        obtain ⟨⟨n, rfl⟩, -⟩ := getJob_eq hreply
        exact ⟨rfl, rfl, rfl, rfl, rfl⟩
    | lookUp | findVideo | owns | complete | readVideo =>
        cases hreply
        exact ⟨rfl, rfl, rfl, rfl, rfl⟩
    | _ => cases hlook
  · rw [hfault] at hfine
    cases hfine

/-- What holds of a studio and the exchanges so far, as long as there are no traces. -/
def Spotless (s₀ : Studio) (traced : Bool) (x : Studio × List ServiceExchange) : Prop :=
  traced = false → s₀.Untouched x.1 ∧ ∀ e ∈ x.2, e.question.isLook = true

/-- At the beginning nothing was done. -/
theorem Spotless.start (s : Studio) : Spotless s false (s, []) :=
  fun _ => ⟨Untouched.refl s, fun _ he => absurd he List.not_mem_nil⟩

/-- A turn keeps the studio untouched as long as there are no traces. -/
theorem Spotless.turn {traced traced' : Bool} {x x' : Studio × List ServiceExchange}
    (hturn : AsideTurn traced e traced') (h : Logged (Studio.Falters crew) x e x')
    (hs : Spotless s₀ traced x) : Spotless s₀ traced' x' := by
  obtain ⟨hfalters, hlog⟩ := h
  intro huntraced
  obtain ⟨hbefore, htraceless⟩ := hturn.2 huntraced
  obtain ⟨hsame, hlooks⟩ := hs hbefore
  refine ⟨hsame.trans (Falters.untouched hfalters htraceless), fun e' he' => ?_⟩
  rw [hlog, List.mem_append, List.mem_singleton] at he'
  rcases he' with hold | rfl
  · exact hlooks e' hold
  · rw [ServiceExchange.isTraceless, Bool.and_eq_true] at htraceless
    exact htraceless.1

/-- A plan that only looks and ends with a refusal has left no trace. -/
theorem spotless_of_follows {p : ServicePlan Response} {response : Response}
    {x : Studio × List ServiceExchange} (hp : p.Follows AsideTurn LookEnd false)
    (h : Runs (Logged (Studio.Falters crew)) p (s, []) response x)
    (hrefused : response.status ∈ refusals) : Spotless s false x := by
  have hend : ∃ traced, LookEnd traced response ∧ Spotless s traced x :=
    hp.run h (.start s) Spotless.turn
  obtain ⟨traced, ⟨-, hnot⟩, hspotless⟩ := hend
  cases traced with
  | false => exact hspotless
  | true => exact absurd hrefused (hnot rfl)

/-! ## Submissions -/

/-- The job that a submission works on is there, and no job was said to be missing. -/
def FindsJob : SubmitStage → Studio → Prop
  | .made _ job, s | .copied job _, s | .vanished job, s => s.jobs.Has job.id
  | .answered (.error fault), _ => ∀ id, fault ≠ .jobNotFound id
  | _, _ => True

/-- The stage for a known job knows of its record. -/
theorem findsJob_stageOfKnown (job : Job) (s : Studio) : FindsJob (stageOfKnown job) s := by
  rcases stageOfKnown_eq job with hstage | hstage | hstage <;> rw [hstage] <;> trivial

/-- An update that fails names no missing job, if the job is there. -/
theorem ne_jobNotFound (hsure : ∀ n call, crew.storeFailure n call = none) {job : Job}
    {u : JobUpdate} {reply : JobReply} {fault : PipelineFault} (hthere : s.jobs.Has job.id)
    (h : s.Falters crew (jobUpdated job.id u reply) s')
    (unkept : recordOf job.id reply = .error fault) (id : String) :
    fault ≠ .jobNotFound id := by
  rcases reply with refused | _ | last
  · obtain rfl : PipelineFault.store refused = fault := by simpa [recordOf] using unkept
    intro hsame
    cases hsame
  · rcases h with ⟨refusal, hreply⟩ | ⟨hfault, -⟩
    · have hmissing : (s.withRefusal refusal).updateJob crew job.id u = (.ok none, s') := hreply
      have hnot : ¬ (s.withRefusal refusal).jobs.Has job.id := updateJob_missing hsure hmissing
      exact absurd hthere hnot
    · cases hfault
  · cases unkept

/-- A submission whose stores are sure goes on to know of the records it finds. -/
theorem FindsJob.turn (hsure : ∀ n call, crew.storeFailure n call = none) {code : String}
    {quality : Quality} {allowRetry : Bool} {stage stage' : SubmitStage}
    (hturn : SubmitTurn code quality allowRetry stage e stage') (h : s.Falters crew e s')
    (hs : FindsJob stage s) : FindsJob stage' s' := by
  cases hturn with
  | made job =>
      have hwrites := writes_of_falters h
      cases hwrites with
      | nothing unwritten => cases unwritten
      | made given fresh stored others count => exact JobStore.has_of_stored? stored
  | vanished => exact h.has hs
  | copied path => exact h.has hs
  | undiscarded unkept => exact ne_jobNotFound hsure hs h unkept
  | uncached unkept => exact ne_jobNotFound hsure hs h unkept
  | read job => exact findsJob_stageOfKnown job s'
  | unread | unsought | unmade | uncopied | uncreated => exact nofun
  | _ => trivial

/-- **No submission says that a job is missing**, unless the job store is made to fail. -/
theorem submit_finds_job (hsure : ∀ n call, crew.storeFailure n call = none) {code : String}
    {quality : Quality} {allowRetry : Bool} {fault : PipelineFault}
    (h : Runs (Studio.Falters crew) (submit code quality allowRetry).run s (.error fault) s')
    (id : String) : fault ≠ .jobNotFound id := by
  have hend : ∃ stage, SubmitEnd stage (.error fault) ∧ FindsJob stage s' :=
    (follows_submit code quality allowRetry).run h trivial (FindsJob.turn hsure)
  obtain ⟨_, rfl, hfinds⟩ := hend
  exact hfinds id

/-- A fault of the pipeline is a refusal only if a job was not found. -/
theorem status_of_found {fault : PipelineFault} (h : ∀ id, fault ≠ .jobNotFound id) :
    (ApiFault.ofPipeline fault).status ∉ refusals := by
  cases fault with
  | jobNotFound id => exact absurd rfl (h id)
  | queueClosed => exact (by decide : 503 ∉ refusals)
  | store fault => exact (by decide : 500 ∉ refusals)
  | artifact fault => exact (by decide : 500 ∉ refusals)

/-- **Code that was submitted is not refused any more.** -/
theorem submitted_not_refused (hsure : ∀ n call, crew.storeFailure n call = none)
    {code : String} {quality : Quality} {allowRetry : Bool} {result : Except ApiFault Response}
    (h : Runs (Studio.Falters crew)
      ((submit code quality allowRetry).run >>= fun submitted => (Api.settle submitted).run)
      s result s') : (Api.sent result).status ∉ refusals := by
  have haccepted : ∀ job, (Api.sent (.ok (Api.accepted job))).status ∉ refusals :=
    fun _ => (by decide : 202 ∉ refusals)
  obtain ⟨submitted, middle, hsubmit, hsettle⟩ := runs_bind.mp h
  rcases submitted with fault | job | job | ⟨job, task⟩
  · obtain ⟨rfl, rfl⟩ := runs_done.mp hsettle
    exact status_of_found (submit_finds_job hsure hsubmit)
  · obtain ⟨rfl, rfl⟩ := runs_done.mp hsettle
    exact haccepted job
  · obtain ⟨rfl, rfl⟩ := runs_done.mp hsettle
    exact haccepted job
  · rw [Api.settle] at hsettle
    rcases runs_bind_run.mp hsettle with ⟨_, handed, -, hend⟩ | ⟨refusal, hdispatch, rfl⟩
    · obtain ⟨rfl, rfl⟩ := runs_done.mp hend
      exact haccepted job
    · rcases Api.runs_dispatch hdispatch with ⟨-, heq⟩ | ⟨fault, kept, answer, hrefused, -, heq⟩
      · cases heq
      · cases heq
        obtain ⟨-, rfl⟩ := closed_of_refused hrefused
        exact (by decide : 503 ∉ refusals)

end Studio

/-! ## Every request -/

namespace Server

open Studio

variable {crew : Crew} {s : Studio} {policy : ServerPolicy} {freshId : String} {r : Request}
  {response : Response} {x : Studio × List ServiceExchange}

/-- A request that was let through and is refused then. -/
theorem spotless_routed (hsure : ∀ n call, crew.storeFailure n call = none)
    (h : Runs (Logged (Studio.Falters crew)) (routed policy r) (s, []) response x)
    (hrefused : response.status ∈ refusals) : Spotless s false x := by
  rw [routed] at h
  split at h
  · obtain ⟨rfl, rfl⟩ := runs_done.mp h
    exact .start s
  · next route hroute =>
    split at h
    · cases route with
      | health =>
          obtain ⟨rfl, rfl⟩ := runs_done.mp h
          exact .start s
      | generate => exact spotless_of_follows (Api.follows_answered Api.follows_generate) h hrefused
      | regenerate =>
          exact spotless_of_follows (Api.follows_answered Api.follows_regenerate) h hrefused
      | status id => exact spotless_of_follows (Api.follows_withId Api.follows_jobStatus) h hrefused
      | video id => exact spotless_of_follows (Api.follows_withId Api.follows_jobVideo) h hrefused
      | render =>
          rw [Api.handle, Api.answered_eq, runs_bind] at h
          obtain ⟨result, last, hrun, hsent⟩ := h
          obtain ⟨rfl, rfl⟩ := runs_done.mp hsent
          rcases Api.render_run policy.api r with ⟨fault, -, hplan⟩ | ⟨code, quality, retry, hplan⟩
          · -- nothing was asked yet
            rw [hplan] at hrun
            obtain ⟨rfl, rfl⟩ := runs_done.mp hrun
            exact .start s
          · rw [hplan] at hrun
            have hstudio : Runs (Studio.Falters crew) _ s result x.1 :=
              hrun.map Prod.fst fun _ _ _ hlogged => hlogged.1
            exact absurd hrefused (submitted_not_refused hsure hstudio)
    · obtain ⟨rfl, rfl⟩ := runs_done.mp h
      exact .start s

/-- **A refused request changes nothing.**  Take any studio, any request and any course of
its handling, in which the cache, the store of the videos, the language model and the clock
may do as they please, but the job store is not made to fail.  If the response has one of the
statuses 400, 404, 405, 409 and 429, then the jobs, the remembered results, the files, the
waiting tasks and the owned jobs are as they were, and no task was handed to the workers. -/
theorem refused_untouched (hsure : ∀ n call, crew.storeFailure n call = none)
    {limiter : RateLimiter} {now : Nat} {calls : List ServiceExchange} {s' : Studio}
    (hcourse : Course (respond policy limiter now freshId r).1 calls response)
    (hchain : Chain (Studio.Falters crew) s calls s')
    (hrefused : response.status ∈ [400, 404, 405, 409, 429]) :
    s.Untouched s' ∧ ∀ e ∈ calls, ∀ task, e.question ≠ .dispatch task := by
  have h := hcourse.logged hchain []
  rw [List.nil_append] at h
  have hspotless : Spotless s false (s', calls) := by
    rw [respond] at h
    dsimp only at h
    split at h
    · obtain ⟨-, hsame⟩ := runs_done.mp h
      rw [hsame]
      exact .start s
    · split at h
      · obtain ⟨inner, last, hrouted, hsent⟩ := runs_bind.mp h
        obtain ⟨rfl, rfl⟩ := runs_done.mp hsent
        rw [(finish_eq policy freshId r inner).1] at hrefused
        exact spotless_routed hsure hrouted hrefused
      · obtain ⟨-, hsame⟩ := runs_done.mp h
        rw [hsame]
        exact .start s
  obtain ⟨huntouched, hlooks⟩ := hspotless rfl
  refine ⟨huntouched, fun e he task hdispatch => ?_⟩
  have hlook := hlooks e he
  rw [hdispatch] at hlook
  cases hlook

end Server

/-- A request for the video of the job that was just submitted. -/
def hastyRequest : Request where
  method := "GET"
  target := "/video/a"
  headers := []
  body := ""

/-- Who asks for the video of a queued job is refused, and nothing changes. -/
theorem hasty_request_untouched :
    (filmResponse hastyRequest dayQueued).status = 409 ∧
      dayQueued.Untouched (filmAnswered hastyRequest dayQueued) ∧
      dayQueued.queue.waiting.length = 1 := by
  have hcases : ((filmResponse hastyRequest dayQueued).status == 409 &&
      dayQueued.queue.waiting.length == 1) = true := by
    decide +kernel
  rw [Bool.and_eq_true, beq_iff_eq, beq_iff_eq] at hcases
  obtain ⟨hstatus, hwaiting⟩ := hcases
  refine ⟨hstatus, ?_, hwaiting⟩
  have hcourse : Course (filmAnswer hastyRequest) _ (filmResponse hastyRequest dayQueued) :=
    course_transcript (V := serviceVocabulary) (Studio.reply filmCrew) _ dayQueued
  have hchain : Chain (Studio.Replies filmCrew) dayQueued _ (filmAnswered hastyRequest dayQueued) :=
    chain_transcript (V := serviceVocabulary) (Studio.reply filmCrew) _ dayQueued
  have hstudio := hchain.mono fun _ _ _ => Studio.falters_of_replies
  refine (Server.refused_untouched (fun _ _ => rfl) hcourse hstudio ?_).1
  rw [hstatus]
  decide

end SceneRender
