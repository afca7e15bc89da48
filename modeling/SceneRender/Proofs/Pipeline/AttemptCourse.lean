import SceneRender.Pipeline.Process
import SceneRender.Proofs.Course

/-!
# What an attempt can do

The attempts at a task, seen from outside: `AttemptCourse` lists every way in which
the rest of the work can go from one attempt on.  There are three ways for an
attempt to be the last one: the store loses the job under it, its code is wrong and
no retry is left, or the renderer is through.  Otherwise the code is repaired and
the rest is again a course of attempts, with one retry less.

`attemptCourse` proves that nothing else can happen.  Everything that is said about
the attempts later on is an induction over `AttemptCourse`; no other proof looks
into the attempts themselves.
-/

namespace SceneRender

open Plan

/-- An exchange of the service with its surroundings. -/
abbrev ServiceExchange := Answered serviceVocabulary

/-- What the job store replies about one job. -/
abbrev JobReply := Except StoreFault (Option Job)

namespace ServiceExchange

/-- The look at a job. -/
def jobRead (id : String) (reply : JobReply) : ServiceExchange :=
  ⟨.getJob id, reply⟩

/-- The update of a job. -/
def jobUpdated (id : String) (u : JobUpdate) (reply : JobReply) :
    ServiceExchange :=
  ⟨.updateJob id u, reply⟩

/-- A call of the renderer. -/
def rendered (id code : String) (quality : Quality) (reply : RenderOutcome) : ServiceExchange :=
  ⟨.render id code quality, reply⟩

/-- A call of the repair. -/
def repaired (code diagnostic reply : String) : ServiceExchange :=
  ⟨.repair code diagnostic, reply⟩

/-- The storing of a video. -/
def videoKept (id path : String) (reply : Except ArtifactFault String) : ServiceExchange :=
  ⟨.keepVideo id path, reply⟩

end ServiceExchange

namespace Pipeline

open ServiceExchange

/-! ## Single steps -/

/-- What the pipeline makes of the store's reply to an update. -/
def recordOf (id : String) : JobReply → Except PipelineFault Job
  | .ok (some job) => .ok job
  | .ok none => .error (.jobNotFound id)
  | .error fault => .error (.store fault)

/-- The store has the job, and answers with its record. -/
def Kept (reply : JobReply) : Prop := ∃ job, reply = .ok (some job)

/-- A reply keeps the record exactly if it has one. -/
theorem kept_iff {id : String} {reply : JobReply} :
    Kept reply ↔ ∃ job, recordOf id reply = .ok job := by
  rcases reply with fault | _ | job <;> simp [Kept, recordOf]

/-- A fault keeps no record. -/
theorem not_kept_fault (fault : StoreFault) : ¬ Kept (.error fault) := by
  intro h
  obtain ⟨job, heq⟩ := h
  cases heq

/-- A missing job has no record to keep. -/
theorem not_kept_missing : ¬ Kept (.ok none) := by
  intro h
  obtain ⟨job, heq⟩ := h
  cases heq

/-- The code after a repair: a blank reply keeps it. -/
def adopted (code reply : String) : String :=
  if Text.isBlankText reply then code else reply

/-- The update that ends a job with an error. -/
def endingUpdate (status : JobStatus) (stage error : String) : JobUpdate :=
  (JobUpdate.reaching status stage finalProgress).withError error

/-- A wrapped plan has the course of the plan, with its faults wrapped. -/
theorem course_orFault {γ : Type} {wrap : γ → PipelineFault} {α : Type}
    {p : ServicePlan (Except γ α)} {h : List ServiceExchange} {r : Except PipelineFault α} :
    Course (PipelinePlan.orFault wrap p).run h r ↔
      ∃ a, Course p h a ∧ r = a.mapError wrap := by
  change Course (p.andThen _) h r ↔ _
  rw [course_andThen]
  constructor
  · rintro ⟨before, after, a | a, rfl, hp, hf⟩ <;>
      obtain ⟨rfl, rfl⟩ := course_done.mp hf <;>
      exact ⟨_, by simpa using hp, rfl⟩
  · rintro ⟨a, hp, rfl⟩
    refine ⟨h, [], a, by simp, hp, ?_⟩
    cases a <;> exact .done _

/-- Looking a job up is one exchange. -/
theorem course_getJob {id : String} {h : List ServiceExchange}
    {r : Except PipelineFault (Option Job)} :
    Course (PipelinePlan.getJob id).run h r ↔
      ∃ reply, h = [jobRead id reply] ∧ r = reply.mapError .store := by
  rw [PipelinePlan.getJob, course_orFault]
  constructor
  · rintro ⟨a, hp, rfl⟩
    exact ⟨a, course_question.mp hp, rfl⟩
  · rintro ⟨reply, rfl, rfl⟩
    exact ⟨reply, course_question.mpr rfl, rfl⟩

/-- An update is one exchange, and its reply decides how the plan goes on. -/
theorem course_updateJob {id : String} {u : JobUpdate} {h : List ServiceExchange}
    {r : Except PipelineFault Job} :
    Course (PipelinePlan.updateJob id u).run h r ↔
      ∃ reply, h = [jobUpdated id u reply] ∧ r = recordOf id reply := by
  rw [PipelinePlan.updateJob, course_bind_run]
  constructor
  · rintro (⟨before, after, a, rfl, hq, hf⟩ | ⟨e, hq, rfl⟩) <;>
      obtain ⟨reply, hp, hr⟩ := course_orFault.mp hq <;>
      obtain rfl := course_question.mp hp
    · cases reply with
      | error fault => cases hr
      | ok found =>
          obtain rfl : a = found := Except.ok.inj hr
          refine ⟨.ok a, ?_⟩
          cases a with
          | none =>
              obtain ⟨rfl, rfl⟩ := course_done.mp hf
              exact ⟨rfl, rfl⟩
          | some job =>
              obtain ⟨rfl, rfl⟩ := course_done.mp hf
              exact ⟨rfl, rfl⟩
    · cases reply with
      | error fault =>
          obtain rfl : e = .store fault := Except.error.inj hr
          exact ⟨.error fault, rfl, rfl⟩
      | ok found => cases hr
  · rintro ⟨reply, rfl, rfl⟩
    rcases reply with fault | found
    · exact Or.inr ⟨.store fault, course_orFault.mpr ⟨_, course_question.mpr rfl, rfl⟩, rfl⟩
    · refine Or.inl ⟨_, [], found, rfl, course_orFault.mpr ⟨_, course_question.mpr rfl, rfl⟩, ?_⟩
      cases found <;> exact .done _

/-- A step that only updates a job and then answers something. -/
private theorem course_update_then {α : Type} {id : String} {u : JobUpdate} {a : α}
    {h : List ServiceExchange} {r : Except PipelineFault α} :
    Course ((PipelinePlan.updateJob id u >>= fun _ => pure a : PipelinePlan α)).run h r ↔
      ∃ reply, h = [jobUpdated id u reply] ∧ r = (recordOf id reply).map fun _ => a := by
  rw [course_bind_run]
  constructor
  · rintro (⟨before, after, job, rfl, hu, hf⟩ | ⟨e, hu, rfl⟩) <;>
      obtain ⟨reply, rfl, hr⟩ := course_updateJob.mp hu
    · obtain ⟨rfl, rfl⟩ := course_done.mp hf
      exact ⟨reply, rfl, by rw [← hr]; rfl⟩
    · exact ⟨reply, rfl, by rw [← hr]; rfl⟩
  · rintro ⟨reply, rfl, rfl⟩
    cases hr : recordOf id reply with
    | error e => exact Or.inr ⟨e, course_updateJob.mpr ⟨reply, rfl, hr.symm⟩, rfl⟩
    | ok job =>
        exact Or.inl ⟨_, [], job, rfl, course_updateJob.mpr ⟨reply, rfl, hr.symm⟩, .done _⟩

/-- Moving a job on is one update. -/
theorem course_advance {id : String} {progress : Nat} {status : JobStatus} {stage : String}
    {target : Nat} {mark : JobUpdate → JobUpdate} {h : List ServiceExchange}
    {r : Except PipelineFault Nat} :
    Course (advance id progress status stage target mark).run h r ↔
      ∃ reply, h = [jobUpdated id (mark (.reaching status stage (max progress target))) reply] ∧
        r = (recordOf id reply).map fun _ => max progress target :=
  course_update_then

/-- Ending a job is one update. -/
theorem course_terminate {id : String} {status : JobStatus} {stage error : String}
    {h : List ServiceExchange} {r : Except PipelineFault JobStatus} :
    Course (terminate id status stage error).run h r ↔
      ∃ reply, h = [jobUpdated id (endingUpdate status stage error) reply] ∧
        r = (recordOf id reply).map fun _ => status :=
  course_update_then

/-- A repair is one exchange, and a blank one keeps the code. -/
theorem course_adoptRepair {code diagnostic next : String} {h : List ServiceExchange} :
    Course (adoptRepair code diagnostic) h next ↔
      ∃ reply, h = [repaired code diagnostic reply] ∧ next = adopted code reply := by
  rw [adoptRepair, course_bind]
  constructor
  · rintro ⟨before, after, reply, rfl, hq, hf⟩
    obtain rfl := course_question.mp hq
    obtain ⟨rfl, rfl⟩ := course_done.mp hf
    exact ⟨reply, rfl, rfl⟩
  · rintro ⟨reply, rfl, rfl⟩
    exact ⟨_, [], reply, rfl, course_question.mpr rfl, .done _⟩

/-- What follows a step that moves the job on happens only if the store has the job. -/
private theorem course_advance_bind {α : Type} {id : String} {progress : Nat}
    {status : JobStatus} {stage : String} {target : Nat} {mark : JobUpdate → JobUpdate}
    {f : Nat → PipelinePlan α} {h : List ServiceExchange} {r : Except PipelineFault α}
    (hc : Course (advance id progress status stage target mark >>= f).run h r) :
    ∃ reply rest,
      h = jobUpdated id (mark (.reaching status stage (max progress target))) reply :: rest ∧
      ((Kept reply ∧ Course (f (max progress target)).run rest r) ∨
        ∃ fault, recordOf id reply = .error fault ∧ rest = [] ∧ r = .error fault) := by
  rcases course_bind_run.mp hc with ⟨before, after, p, rfl, ha, hf⟩ | ⟨e, ha, rfl⟩ <;>
    obtain ⟨reply, rfl, hr⟩ := course_advance.mp ha <;>
    cases hrec : recordOf id reply <;> rw [hrec] at hr <;> cases hr
  · exact ⟨reply, after, rfl, Or.inl ⟨kept_iff.mpr ⟨_, hrec⟩, hf⟩⟩
  · exact ⟨reply, [], rfl, Or.inr ⟨_, hrec, rfl, rfl⟩⟩

/-- What follows a plan without faults gets its answer. -/
private theorem course_lift_bind {α β : Type} {p : ServicePlan α} {f : α → PipelinePlan β}
    {h : List ServiceExchange} {r : Except PipelineFault β}
    (hc : Course ((monadLift p : PipelinePlan α) >>= f).run h r) :
    ∃ before after a, h = before ++ after ∧ Course p before a ∧ Course (f a).run after r := by
  rcases course_bind_run.mp hc with ⟨before, after, a, rfl, hp, hf⟩ | ⟨e, hp, rfl⟩ <;>
    obtain ⟨a', hp, ha⟩ := course_lift_run.mp hp <;> cases ha
  exact ⟨before, after, a, rfl, hp, hf⟩

/-- How the work goes after a successful render: the video is stored and the job is
done, or it cannot be stored and the job fails. -/
inductive FinishCourse (id path : String) :
    List ServiceExchange → Except PipelineFault JobStatus → Prop
  | notStored (fault : ArtifactFault) (reply : JobReply) :
      FinishCourse id path
        [videoKept id path (.error fault),
          jobUpdated id (endingUpdate .failed "failed" (notStoredMessage fault)) reply]
        (recordOf id reply >>= fun _ => .error (.artifact fault))
  | stored (target : String) (reply : JobReply) :
      FinishCourse id path
        [videoKept id path (.ok target), jobUpdated id (finishedUpdate target).clearError reply]
        ((recordOf id reply).map fun _ => .done)

/-- Finishing a job goes one of the ways that are listed. -/
theorem finishCourse {id path : String} {h : List ServiceExchange}
    {r : Except PipelineFault JobStatus} (hc : Course (finish id path).run h r) :
    FinishCourse id path h r := by
  rw [finish, course_bind_run] at hc
  rcases hc with ⟨before, after, kept, rfl, hq, hf⟩ | ⟨e, hq, -⟩
  · obtain ⟨a, hq, ha⟩ := course_lift_run.mp hq
    obtain rfl : kept = a := by simpa using ha
    obtain rfl := course_question.mp hq
    cases kept with
    | error fault =>
        rcases course_bind_run.mp hf with ⟨b, c, status, rfl, ht, hthrow⟩ | ⟨e, ht, rfl⟩ <;>
          obtain ⟨reply, rfl, hr⟩ := course_terminate.mp ht <;>
          have hlast : FinishCourse id path _ _ := .notStored fault reply <;>
          cases hrec : recordOf id reply <;> rw [hrec] at hr hlast <;> cases hr
        · obtain ⟨rfl, rfl⟩ := course_done.mp hthrow
          exact hlast
        · exact hlast
    | ok target =>
        obtain ⟨reply, rfl, rfl⟩ := course_update_then.mp hf
        exact .stored target reply
  · obtain ⟨a, -, ha⟩ := course_lift_run.mp hq
    cases ha

/-! ## Attempts -/

/-- The progress of an attempt once it validates. -/
def validatedAt (attempt progress : Nat) : Nat := max progress (validatingProgress attempt)

/-- The progress of an attempt once it renders. -/
def renderedAt (attempt progress : Nat) : Nat :=
  max (validatedAt attempt progress) (renderingProgress attempt)

/-- The progress after an attempt with wrong code. -/
def invalidAt (attempt progress : Nat) : Nat :=
  max (validatedAt attempt progress) (retryingValidationProgress attempt)

/-- The progress after an attempt whose render failed. -/
def failedAt (attempt progress : Nat) : Nat :=
  max (renderedAt attempt progress) (retryingRuntimeProgress attempt)

/-- The update with which an attempt begins. -/
def validatingUpdate (attempt progress : Nat) : JobUpdate :=
  .reaching .validating "validating" (validatedAt attempt progress)

/-- The update before an attempt renders. -/
def renderingUpdate (attempt progress : Nat) : JobUpdate :=
  (JobUpdate.reaching .rendering "rendering" (renderedAt attempt progress)).clearError

/-- The update after an attempt with wrong code. -/
def invalidUpdate (attempt progress : Nat) (message : String) : JobUpdate :=
  (JobUpdate.reaching .retrying "retrying_validation" (invalidAt attempt progress)).withError
    message

/-- The update after an attempt whose render failed. -/
def failedRenderUpdate (attempt progress : Nat) (diagnostic : String) : JobUpdate :=
  (JobUpdate.reaching .retrying "retrying_runtime" (failedAt attempt progress)).withError
    diagnostic

/-- **Every way in which attempts can go**: the retries left, the number of the next
attempt, its code and the progress so far, then what is asked and how it ends. -/
inductive AttemptCourse (task : RenderTask) :
    Nat → Nat → String → Nat → List ServiceExchange → Except PipelineFault JobStatus → Prop
  /-- The store fails before the code is looked at. -/
  | lostBefore {retries attempt : Nat} {code : String} {progress : Nat}
      {reply : JobReply} {fault : PipelineFault}
      (lost : recordOf task.jobId reply = .error fault) :
      AttemptCourse task retries attempt code progress
        [jobUpdated task.jobId (validatingUpdate attempt progress) reply] (.error fault)
  /-- The code is wrong and no retry is left. -/
  | invalidEnd {attempt : Nat} {code : String} {progress : Nat}
      {reply : JobReply}
      (kept : Kept reply) (wrong : (Script.validate code).ok = false)
      (last : JobReply) :
      AttemptCourse task 0 attempt code progress
        [jobUpdated task.jobId (validatingUpdate attempt progress) reply,
          jobUpdated task.jobId
            (endingUpdate .failed "validation" (invalidMessage (Script.validate code))) last]
        ((recordOf task.jobId last).map fun _ => .failed)
  /-- The code is wrong and the store fails before the repair. -/
  | invalidLost {retries attempt : Nat} {code : String} {progress : Nat}
      {reply next : JobReply} {fault : PipelineFault}
      (kept : Kept reply) (wrong : (Script.validate code).ok = false)
      (lost : recordOf task.jobId next = .error fault) :
      AttemptCourse task (retries + 1) attempt code progress
        [jobUpdated task.jobId (validatingUpdate attempt progress) reply,
          jobUpdated task.jobId
            (invalidUpdate attempt progress (invalidMessage (Script.validate code))) next]
        (.error fault)
  /-- The code is wrong and is repaired. -/
  | invalidRetry {retries attempt : Nat} {code : String} {progress : Nat}
      {reply next : JobReply}
      (kept : Kept reply) (wrong : (Script.validate code).ok = false)
      (keptNext : Kept next) (repair : String)
      {rest : List ServiceExchange} {r : Except PipelineFault JobStatus}
      (more : AttemptCourse task retries (attempt + 1) (adopted code repair)
        (invalidAt attempt progress) rest r) :
      AttemptCourse task (retries + 1) attempt code progress
        (jobUpdated task.jobId (validatingUpdate attempt progress) reply ::
          jobUpdated task.jobId
            (invalidUpdate attempt progress (invalidMessage (Script.validate code))) next ::
          repaired code (invalidMessage (Script.validate code)) repair :: rest) r
  /-- The store fails before the render. -/
  | lostRendering {retries attempt : Nat} {code : String} {progress : Nat}
      {reply render : JobReply} {fault : PipelineFault}
      (kept : Kept reply) (right : (Script.validate code).ok = true)
      (lost : recordOf task.jobId render = .error fault) :
      AttemptCourse task retries attempt code progress
        [jobUpdated task.jobId (validatingUpdate attempt progress) reply,
          jobUpdated task.jobId (renderingUpdate attempt progress) render] (.error fault)
  /-- The render succeeds. -/
  | success {retries attempt : Nat} {code : String} {progress : Nat}
      {reply render : JobReply}
      (kept : Kept reply) (right : (Script.validate code).ok = true)
      (keptRender : Kept render) (path : String)
      {rest : List ServiceExchange} {r : Except PipelineFault JobStatus}
      (finished : FinishCourse task.jobId path rest r) :
      AttemptCourse task retries attempt code progress
        (jobUpdated task.jobId (validatingUpdate attempt progress) reply ::
          jobUpdated task.jobId (renderingUpdate attempt progress) render ::
          rendered task.jobId code task.quality (.success path) :: rest) r
  /-- The render takes too long. -/
  | timeout {retries attempt : Nat} {code : String} {progress : Nat}
      {reply render : JobReply}
      (kept : Kept reply) (right : (Script.validate code).ok = true)
      (keptRender : Kept render)
      (last : JobReply) :
      AttemptCourse task retries attempt code progress
        [jobUpdated task.jobId (validatingUpdate attempt progress) reply,
          jobUpdated task.jobId (renderingUpdate attempt progress) render,
          rendered task.jobId code task.quality .timeout,
          jobUpdated task.jobId (endingUpdate .timeout "timeout" timeoutMessage) last]
        ((recordOf task.jobId last).map fun _ => .timeout)
  /-- The render fails and no retry is left. -/
  | failedEnd {attempt : Nat} {code : String} {progress : Nat}
      {reply render : JobReply}
      (kept : Kept reply) (right : (Script.validate code).ok = true)
      (keptRender : Kept render) (diagnostic : String)
      (last : JobReply) :
      AttemptCourse task 0 attempt code progress
        [jobUpdated task.jobId (validatingUpdate attempt progress) reply,
          jobUpdated task.jobId (renderingUpdate attempt progress) render,
          rendered task.jobId code task.quality (.failure diagnostic),
          jobUpdated task.jobId (endingUpdate .failed "failed" diagnostic) last]
        ((recordOf task.jobId last).map fun _ => .failed)
  /-- The render fails and the store fails before the repair. -/
  | failedLost {retries attempt : Nat} {code : String} {progress : Nat}
      {reply render next : JobReply}
      {fault : PipelineFault}
      (kept : Kept reply) (right : (Script.validate code).ok = true)
      (keptRender : Kept render) (diagnostic : String)
      (lost : recordOf task.jobId next = .error fault) :
      AttemptCourse task (retries + 1) attempt code progress
        [jobUpdated task.jobId (validatingUpdate attempt progress) reply,
          jobUpdated task.jobId (renderingUpdate attempt progress) render,
          rendered task.jobId code task.quality (.failure diagnostic),
          jobUpdated task.jobId (failedRenderUpdate attempt progress diagnostic) next]
        (.error fault)
  /-- The render fails and the code is repaired. -/
  | failedRetry {retries attempt : Nat} {code : String} {progress : Nat}
      {reply render next : JobReply}
      (kept : Kept reply) (right : (Script.validate code).ok = true)
      (keptRender : Kept render) (diagnostic : String)
      (keptNext : Kept next) (repair : String)
      {rest : List ServiceExchange} {r : Except PipelineFault JobStatus}
      (more : AttemptCourse task retries (attempt + 1) (adopted code repair)
        (failedAt attempt progress) rest r) :
      AttemptCourse task (retries + 1) attempt code progress
        (jobUpdated task.jobId (validatingUpdate attempt progress) reply ::
          jobUpdated task.jobId (renderingUpdate attempt progress) render ::
          rendered task.jobId code task.quality (.failure diagnostic) ::
          jobUpdated task.jobId (failedRenderUpdate attempt progress diagnostic) next ::
          repaired code diagnostic repair :: rest) r

/-- The attempts do nothing that is not listed. -/
theorem attemptCourse {task : RenderTask} {retries attempt : Nat} {code : String}
    {progress : Nat} {h : List ServiceExchange} {r : Except PipelineFault JobStatus}
    (hc : Course (attempts task retries attempt code progress).run h r) :
    AttemptCourse task retries attempt code progress h r := by
  induction retries using Nat.strongRecOn generalizing attempt code progress h r with
  | ind retries ih =>
      rw [attempts.eq_def] at hc
      obtain ⟨reply, h, rfl, ⟨kept, hc⟩ | ⟨fault, lost, rfl, rfl⟩⟩ := course_advance_bind hc
      · cases valid : (Script.validate code).ok <;> simp only [valid] at hc
        · -- wrong code: repaired while retries are left
          cases retries with
          | zero =>
              obtain ⟨last, rfl, rfl⟩ := course_terminate.mp hc
              exact .invalidEnd kept valid last
          | succ retries =>
              obtain ⟨next, h, rfl, ⟨keptNext, hc⟩ | ⟨fault, lost, rfl, rfl⟩⟩ :=
                course_advance_bind hc
              · obtain ⟨before, after, code', rfl, hq, hc⟩ := course_lift_bind hc
                obtain ⟨repair, rfl, rfl⟩ := course_adoptRepair.mp hq
                exact .invalidRetry kept valid keptNext repair (ih retries (by omega) hc)
              · exact .invalidLost kept valid lost
        · -- right code: rendered, and repaired when the render fails
          obtain ⟨render, h, rfl, ⟨keptRender, hc⟩ | ⟨fault, lost, rfl, rfl⟩⟩ :=
            course_advance_bind hc
          · obtain ⟨before, after, outcome, rfl, hq, hafter⟩ := course_lift_bind hc
            obtain rfl := course_question.mp hq
            cases outcome with
            | success path => exact .success kept valid keptRender path (finishCourse hafter)
            | timeout =>
                obtain ⟨last, rfl, rfl⟩ := course_terminate.mp hafter
                exact .timeout kept valid keptRender last
            | failure diagnostic =>
                cases retries with
                | zero =>
                    obtain ⟨last, rfl, rfl⟩ := course_terminate.mp hafter
                    exact .failedEnd kept valid keptRender diagnostic last
                | succ retries =>
                    obtain ⟨next, h, rfl, ⟨keptNext, hc⟩ | ⟨fault, lost, rfl, rfl⟩⟩ :=
                      course_advance_bind hafter
                    · obtain ⟨before, after, code', rfl, hq, hc⟩ := course_lift_bind hc
                      obtain ⟨repair, rfl, rfl⟩ := course_adoptRepair.mp hq
                      exact .failedRetry kept valid keptRender diagnostic keptNext repair
                        (ih retries (by omega) hc)
                    · exact .failedLost kept valid keptRender diagnostic lost
          · exact .lostRendering kept valid lost
      · exact .lostBefore lost

end Pipeline

end SceneRender
