import SceneRender.Proofs.Pipeline.AttemptCourse

/-!
# What working a task off can do

A task is worked off in three parts: its job is looked up, the attempts are made if
the job exists and is not over, and then the job is let go.  Only if the work ended in
a fault is the job looked at once more, and it is ended if it is still unfinished.
`workCourse`, `cleanupCourse` and `course_process` say that this is all there is.
-/

namespace SceneRender

open Plan

/-- The moment from which a job is no longer being worked on. -/
def ServiceExchange.released (id : String) : ServiceExchange := ⟨.release id, ()⟩

namespace Pipeline

open ServiceExchange

/-- Every way in which the work at a task can go, up to its answer. -/
inductive WorkCourse (maxRetries : Nat) (task : RenderTask) :
    List ServiceExchange → Except PipelineFault JobStatus → Prop
  | unseen (fault : StoreFault) :
      WorkCourse maxRetries task [jobRead task.jobId (.error fault)] (.error (.store fault))
  | missing :
      WorkCourse maxRetries task [jobRead task.jobId (.ok none)]
        (.error (.jobNotFound task.jobId))
  | closed {job : Job} (terminal : job.status.isTerminal = true) :
      WorkCourse maxRetries task [jobRead task.jobId (.ok (some job))] (.ok job.status)
  | begun {job : Job} (live : job.status.isTerminal = false)
      {rest : List ServiceExchange} {r : Except PipelineFault JobStatus}
      (attempted :
        AttemptCourse task (retriesOf task maxRetries) 1 task.code job.progress rest r) :
      WorkCourse maxRetries task (jobRead task.jobId (.ok (some job)) :: rest) r

/-- Work at a task goes one of the ways that are listed. -/
theorem workCourse {maxRetries : Nat} {task : RenderTask} {h : List ServiceExchange}
    {r : Except PipelineFault JobStatus} (hc : Course (workOff maxRetries task).run h r) :
    WorkCourse maxRetries task h r := by
  rw [workOff] at hc
  rcases course_bind_run.mp hc with ⟨before, after, found, rfl, hq, hnext⟩ | ⟨e, hq, rfl⟩ <;>
    obtain ⟨reply, rfl, hr⟩ := course_getJob.mp hq <;>
    rcases reply with fault | found' <;> cases hr
  · cases found with
    | none =>
        obtain ⟨rfl, rfl⟩ := course_done.mp hnext
        exact .missing
    | some job =>
        cases live : job.status.isTerminal <;> simp only [live] at hnext
        · exact .begun live (attemptCourse hnext)
        · obtain ⟨rfl, rfl⟩ := course_done.mp hnext
          exact .closed live
  · exact .unseen fault

/-- Every way in which a job is brought to an end after a fault. -/
inductive CleanupCourse (id : String) (cause : PipelineFault) : List ServiceExchange → Prop
  | unseen (fault : StoreFault) : CleanupCourse id cause [jobRead id (.error fault)]
  | missing : CleanupCourse id cause [jobRead id (.ok none)]
  | closed {job : Job} (terminal : job.status.isTerminal = true) :
      CleanupCourse id cause [jobRead id (.ok (some job))]
  | ended {job : Job} (live : job.status.isTerminal = false) (reply : JobReply) :
      CleanupCourse id cause
        [jobRead id (.ok (some job)), jobUpdated id (failedUpdate cause.message) reply]

/-- A clean-up goes one of the ways that are listed. -/
theorem cleanupCourse {id : String} {cause : PipelineFault} {h : List ServiceExchange} {u : Unit}
    (hc : Course (failUnfinished id cause) h u) : CleanupCourse id cause h := by
  rw [failUnfinished] at hc
  obtain ⟨before, after, reply, rfl, hq, hnext⟩ := course_bind.mp hc
  obtain rfl := course_question.mp hq
  rcases reply with fault | _ | job
  · obtain ⟨rfl, -⟩ := course_done.mp hnext
    exact .unseen fault
  · obtain ⟨rfl, -⟩ := course_done.mp hnext
    exact .missing
  · cases live : job.status.isTerminal <;> simp only [live] at hnext
    · obtain ⟨before, after, reply, rfl, hu, hend⟩ := course_bind.mp hnext
      obtain rfl := course_question.mp hu
      obtain ⟨rfl, -⟩ := course_done.mp hend
      exact .ended live reply
    · obtain ⟨rfl, -⟩ := course_done.mp hnext
      exact .closed live

/-- What is left to do for a job that was let go: nothing after work that ended well, the
clean-up after a fault. -/
def cleanUp (id : String) : Except PipelineFault JobStatus → ServicePlan Unit
  | .ok _ => pure ()
  | .error fault => failUnfinished id fault

/-- **The calls of working a task off** are those of the work, the one that lets the job go,
and those of what is left to do then. -/
theorem course_process_iff {maxRetries : Nat} {task : RenderTask} {calls : List ServiceExchange}
    {result : Except PipelineFault JobStatus} :
    Course (process maxRetries task) calls result ↔
      ∃ work clean, calls = work ++ released task.jobId :: clean ∧
        Course (workOff maxRetries task).run work result ∧
        Course (cleanUp task.jobId result) clean () := by
  rw [process, course_bind]
  constructor
  · rintro ⟨work, rest, worked, rfl, hwork, hrest⟩
    obtain ⟨free, after, _, rfl, hfree, hend⟩ := course_bind.mp hrest
    obtain rfl := course_question.mp hfree
    cases worked with
    | ok status =>
        obtain ⟨rfl, rfl⟩ := course_done.mp hend
        exact ⟨work, [], rfl, hwork, .done _⟩
    | error fault =>
        obtain ⟨clean, last, _, rfl, hclean, hdone⟩ := course_bind.mp hend
        obtain ⟨rfl, rfl⟩ := course_done.mp hdone
        exact ⟨work, clean, by simp [released], hwork, hclean⟩
  · rintro ⟨work, clean, rfl, hwork, hclean⟩
    refine ⟨work, released task.jobId :: clean, result, rfl, hwork, ?_⟩
    refine course_bind.mpr ⟨[released task.jobId], clean, (), rfl, course_question.mpr rfl, ?_⟩
    cases result with
    | ok status =>
        obtain ⟨rfl, -⟩ := course_done.mp hclean
        exact .done _
    | error fault => exact course_bind.mpr ⟨clean, [], (), by simp, hclean, .done _⟩

/-- **Working a task off** is the work, the moment at which the job is let go, and
after a fault the clean-up. -/
theorem course_process {maxRetries : Nat} {task : RenderTask} {h : List ServiceExchange}
    {r : Except PipelineFault JobStatus} (hc : Course (process maxRetries task) h r) :
    ∃ work cleanup, h = work ++ released task.jobId :: cleanup ∧
      WorkCourse maxRetries task work r ∧
      ((∃ status, r = .ok status ∧ cleanup = []) ∨
        ∃ cause, r = .error cause ∧ CleanupCourse task.jobId cause cleanup) := by
  obtain ⟨work, cleanup, rfl, hwork, hclean⟩ := course_process_iff.mp hc
  refine ⟨work, cleanup, rfl, workCourse hwork, ?_⟩
  cases r with
  | ok status => exact Or.inl ⟨status, rfl, (course_done.mp hclean).1⟩
  | error cause => exact Or.inr ⟨cause, rfl, cleanupCourse hclean⟩

end Pipeline

end SceneRender
