import Mathlib.Data.List.Nodup
import SceneRender.Pipeline.Shift
import SceneRender.Proofs.Api.Requests

/-!
# Every open job waits for a worker

Behind the server stands a queue: requests put tasks into it, and the workers take them out
in order.  In between, videos may be deleted, and at some point the queue is closed.  As long
as no call of the job store and no copy of a video fails, the accounts stay balanced
(`Studio.Balanced`): the open jobs, the owned jobs and the jobs of the waiting tasks are the
same, and no job has two tasks.

So nothing is lost: once all that waits was worked off, every job that a client was told of
is over.  A job whose task the closed queue did not take is failed before the client hears
of it.
-/

namespace SceneRender

open Plan Pipeline ServiceExchange

/-- The jobs that tasks name. -/
def jobsOf (tasks : List RenderTask) : Set String := {id | ∃ task ∈ tasks, task.jobId = id}

/-- No tasks, no jobs. -/
@[simp] theorem jobsOf_nil : jobsOf [] = ∅ := by
  ext id
  simp [jobsOf]

/-- One more task in front adds its job. -/
@[simp] theorem jobsOf_cons (task : RenderTask) (tasks : List RenderTask) :
    jobsOf (task :: tasks) = insert task.jobId (jobsOf tasks) := by
  ext id
  simp [jobsOf, eq_comm]

/-- One more task at the end adds its job. -/
theorem jobsOf_concat (tasks : List RenderTask) (task : RenderTask) :
    jobsOf (tasks ++ [task]) = insert task.jobId (jobsOf tasks) := by
  ext id
  simp [jobsOf, or_and_right, exists_or, eq_comm, or_comm]

/-- The jobs of tasks are the ids in them. -/
theorem mem_jobsOf {id : String} {tasks : List RenderTask} :
    id ∈ jobsOf tasks ↔ id ∈ tasks.map (·.jobId) :=
  List.mem_map.symm

/-! ## Shifts of work -/

/-- Tasks are worked off one after the other, with what becomes of each. -/
inductive WorksOff (exchange : Studio → ServiceExchange → Studio → Prop) (maxRetries : Nat) :
    List RenderTask → Studio → List (Except PipelineFault JobStatus) → Studio → Prop
  | done (s : Studio) : WorksOff exchange maxRetries [] s [] s
  | next {task : RenderTask} {rest : List RenderTask} {answer : Except PipelineFault JobStatus}
      {answers : List (Except PipelineFault JobStatus)} {s s' s'' : Studio}
      (first : Runs exchange (process maxRetries task) s answer s')
      (others : WorksOff exchange maxRetries rest s' answers s'') :
      WorksOff exchange maxRetries (task :: rest) s (answer :: answers) s''

namespace Studio

variable {crew : Crew} {s s' : Studio}

/-- A plan whose questions are all answered well. -/
theorem tends_runPlan {α : Type} {p : ServicePlan α}
    (h : p.holdsAlong (reply crew) (isWellAnswered crew) s = true) :
    Runs (Tends crew) p s (s.runPlan crew p).1 (s.runPlan crew p).2 := by
  have hruns := runs_run_of_holdsAlong h
  exact hruns.mono fun _ _ _ hanswered => tends_of_isWellAnswered hanswered.1 hanswered.2

/-- Are all questions answered well while tasks are worked off? -/
def isWellWorked (crew : Crew) (maxRetries : Nat) : List RenderTask → Studio → Bool
  | [], _ => true
  | task :: rest, s =>
    (process maxRetries task).holdsAlong (reply crew) (isWellAnswered crew) s &&
      isWellWorked crew maxRetries rest (s.runPlan crew (process maxRetries task)).2

/-- **Working off is what the studio does** with a list of tasks. -/
theorem worksOff_workOff {maxRetries : Nat} {tasks : List RenderTask}
    (h : isWellWorked crew maxRetries tasks s = true) :
    WorksOff (Tends crew) maxRetries tasks s (workOff crew maxRetries tasks s).1
      (workOff crew maxRetries tasks s).2 := by
  induction tasks generalizing s with
  | nil => exact .done s
  | cons task rest ih =>
      rw [isWellWorked, Bool.and_eq_true] at h
      exact .next (tends_runPlan h.1) (ih h.2)

/-- The studio drains its queue by working off what waits. -/
theorem worksOff_workOffQueue {maxRetries : Nat}
    (h : isWellWorked crew maxRetries s.queue.waiting { s with queue.waiting := [] } = true) :
    WorksOff (Tends crew) maxRetries s.queue.waiting { s with queue.waiting := [] }
      (s.workOffQueue crew maxRetries).1 (s.workOffQueue crew maxRetries).2 :=
  worksOff_workOff h

/-- The jobs that the waiting tasks name. -/
def waitingJobs (s : Studio) : Set String := jobsOf s.queue.waiting

/-- The accounts are balanced: the open jobs are those of the waiting tasks, each of them is
named by one task, and they are the jobs that are owned. -/
structure Balanced (crew : Crew) (s : Studio) : Prop where
  books : s.Books crew s.waitingJobs s.waitingJobs s.queue
  once : (s.queue.waiting.map (·.jobId)).Nodup

/-- A job that waits has a record. -/
theorem Balanced.has_of_waiting (hs : s.Balanced crew) {id : String} (hid : id ∈ s.waitingJobs) :
    s.jobs.Has id := by
  rw [← hs.books.opened] at hid
  exact has_of_open hid

/-- **The work at waiting tasks ends their jobs and no others.** -/
theorem Books.worksOff {maxRetries : Nat} {tasks rest : List RenderTask} {queue : TaskQueue}
    {answers : List (Except PipelineFault JobStatus)} (hfresh : Function.Injective crew.freshId)
    (h : WorksOff (Tends crew) maxRetries tasks s answers s')
    (hs : s.Books crew (jobsOf (tasks ++ rest)) (jobsOf (tasks ++ rest)) queue)
    (honce : ((tasks ++ rest).map (·.jobId)).Nodup) :
    s'.Books crew (jobsOf rest) (jobsOf rest) queue := by
  induction h with
  | done s => exact hs
  | @next task tasks answer answers s middle s' first others ih =>
      rw [List.cons_append, List.map_cons, List.nodup_cons] at honce
      obtain ⟨hother, honce⟩ := honce
      have hnot : task.jobId ∉ jobsOf (tasks ++ rest) := fun hmem => hother (mem_jobsOf.mp hmem)
      have hend : ∃ stage, stage = WorkStage.complete ∧
          BooksInWork crew task.jobId (jobsOf (tasks ++ rest)) queue stage middle := by
        refine (follows_process maxRetries task).run first ?_ (BooksInWork.turn hfresh hnot)
        rw [List.cons_append, jobsOf_cons] at hs
        exact hs
      obtain ⟨_, rfl, hbooks⟩ := hend
      exact ih hbooks honce

/-- Work at tasks takes no record away. -/
theorem has_of_worksOff {maxRetries : Nat} {tasks : List RenderTask}
    {answers : List (Except PipelineFault JobStatus)} {id : String}
    (h : WorksOff (Tends crew) maxRetries tasks s answers s') (hid : s.jobs.Has id) :
    s'.jobs.Has id := by
  induction h with
  | done s => exact hid
  | next first others ih => exact ih (first.invariant hid fun _ _ _ htends => htends.falters.has)

/-! ## Requests -/

/-- A queue that takes a task puts it at the end; one that is closed takes none. -/
theorem Falters.dispatched {task : RenderTask} {reply : Except PipelineFault Unit}
    (h : s.Falters crew (taskDispatched task reply) s') : reply = (s.queue.push task).1 := by
  rcases h with ⟨refusal, hreply⟩ | ⟨hfault, -⟩
  · exact (congrArg Prod.fst hreply).symm
  · cases hfault

/-- Handing a task in changes nothing in the books but the queue. -/
theorem Books.dispatched {opened owned : Set String} {queue : TaskQueue} {task : RenderTask}
    {reply : Except PipelineFault Unit} (hfresh : Function.Injective crew.freshId)
    (hs : s.Books crew opened owned queue) (h : s.Falters crew (taskDispatched task reply) s') :
    s'.Books crew opened owned (queue.push task).2 := by
  have hjobs := h.jobs_eq rfl
  refine ⟨hs.ahead.falters hfresh h, hs.told.falters h, ?_, ?_, ?_⟩
  · exact (openJobs_congr hjobs).trans hs.opened
  · rw [ownedJobs, h.owned_eq]
    exact hs.owned
  · rw [h.queue_eq, hs.queue]
    rfl

/-- What a submission does to balanced accounts. -/
theorem Balanced.submitted {code : String} {quality : Quality} {allowRetry : Bool}
    {answer : Except PipelineFault Submission} (hfresh : Function.Injective crew.freshId)
    (hs : s.Balanced crew)
    (h : Runs (Tends crew) (submit code quality allowRetry).run s answer s') :
    (∀ id, s.jobs.Has id → s'.jobs.Has id) ∧
      BooksInSubmission crew s s.waitingJobs s.queue (.answered answer) s' := by
  have hend : ∃ stage, SubmitEnd stage answer ∧
      SubmitsOnto crew s s.waitingJobs s.queue stage s' :=
    (follows_submit code quality allowRetry).run h ⟨fun _ hid => hid, hs.books⟩
      (SubmitsOnto.turn hfresh fun _ hid => hs.has_of_waiting hid)
  obtain ⟨_, rfl, honto⟩ := hend
  exact honto

/-- A new job was made, and its task was not taken: the job is failed, and not owned. -/
def TurnsAway (before after : Studio) : Prop :=
  before.queue.isOpen = false ∧ ∃ id job, ¬ before.jobs.Has id ∧
    after.jobs.stored? id = some job ∧ job.status = .failed ∧
    job.error = some PipelineFault.queueClosed.message ∧ id ∉ after.owned

/-- What a response says is so. -/
structure SaysTrue (before after : Studio) (response : Response) : Prop where
  accepted : response.status = 202 → ∃ id, response.jobId? = some id ∧ after.jobs.Has id
  unavailable : response.status = 503 → TurnsAway before after

/-- Only a closed queue makes the service unavailable. -/
theorem status_ofPipeline {fault : PipelineFault} (h : fault ≠ .queueClosed) :
    (ApiFault.ofPipeline fault).status ≠ 503 := by
  cases fault with
  | queueClosed => exact absurd rfl h
  | jobNotFound id => exact (by decide : (404 : Nat) ≠ 503)
  | store fault => exact (by decide : (500 : Nat) ≠ 503)
  | artifact fault => exact (by decide : (500 : Nat) ≠ 503)

/-- Accounts that are as they were are balanced. -/
theorem Balanced.of_books (hs : s.Balanced crew)
    (h : s'.Books crew s.waitingJobs s.waitingJobs s.queue) : s'.Balanced crew := by
  refine ⟨?_, ?_⟩
  · rw [waitingJobs, h.queue]
    exact h
  · rw [h.queue]
    exact hs.once

/-- The workers take the task of a new job. -/
theorem Balanced.taken {task : RenderTask} {middle : Studio}
    (hfresh : Function.Injective crew.freshId) (hs : s.Balanced crew)
    (hnew : ¬ s.jobs.Has task.jobId)
    (hbooks : middle.Books crew (insert task.jobId s.waitingJobs) (insert task.jobId s.waitingJobs)
      s.queue)
    (h : middle.Falters crew (taskDispatched task (.ok ())) s') : s'.Balanced crew := by
  have hqueued := hbooks.dispatched hfresh h
  have hopen : s.queue.isOpen = true := by
    have hreply := h.dispatched
    rw [hbooks.queue, TaskQueue.push] at hreply
    split at hreply
    · next hopen => exact hopen
    · cases hreply
  have hwaiting : s'.queue.waiting = s.queue.waiting ++ [task] := by
    rw [hqueued.queue, TaskQueue.push, if_pos hopen]
  have hjobs : s'.waitingJobs = insert task.jobId s.waitingJobs := by
    rw [waitingJobs, hwaiting, jobsOf_concat]
    rfl
  refine ⟨?_, ?_⟩
  · have hqueue : s'.queue = (s.queue.push task).2 := hqueued.queue
    rw [hjobs, hqueue]
    exact hqueued
  · rw [hwaiting, List.map_append, List.map_cons, List.map_nil, ← List.concat_eq_append]
    refine hs.once.concat ?_
    intro hmem
    exact hnew (hs.has_of_waiting (mem_jobsOf.mpr hmem))

/-- Only a closed queue does not take a task. -/
theorem closed_of_refused {task : RenderTask} {fault : PipelineFault}
    (h : s.Falters crew (taskDispatched task (.error fault)) s') :
    s.queue.isOpen = false ∧ fault = .queueClosed := by
  have hreply := h.dispatched
  rw [TaskQueue.push] at hreply
  split at hreply
  · cases hreply
  · next hclosed =>
      cases hreply
      exact ⟨Bool.eq_false_iff.mpr hclosed, rfl⟩

/-- The task of a new job is not taken, and the job is given up. -/
theorem Balanced.givenUp {task : RenderTask} {fault : PipelineFault}
    {answer : Except PipelineFault Unit} {middle kept : Studio}
    (hfresh : Function.Injective crew.freshId) (hs : s.Balanced crew)
    (hnew : ¬ s.jobs.Has task.jobId)
    (hbooks : middle.Books crew (insert task.jobId s.waitingJobs) (insert task.jobId s.waitingJobs)
      s.queue)
    (hrefused : middle.Falters crew (taskDispatched task (.error fault)) kept)
    (habandoned : Runs (Tends crew) (abandon task.jobId fault.message).run kept answer s') :
    s'.Balanced crew ∧ TurnsAway s s' := by
  obtain ⟨hclosed, rfl⟩ := closed_of_refused hrefused
  rw [hbooks.queue] at hclosed
  have hkept := hbooks.dispatched hfresh hrefused
  rw [TaskQueue.push, hclosed, if_neg Bool.false_ne_true] at hkept
  have hnot : task.jobId ∉ s.waitingJobs := fun hmem => hnew (hs.has_of_waiting hmem)
  have hend : ∃ stage, stage = AbandonStage.complete ∧
      BooksInAbandonment crew task.jobId PipelineFault.queueClosed.message s.waitingJobs
        s.queue stage s' :=
    (follows_abandon _ _).run habandoned hkept (BooksInAbandonment.turn hfresh hnot)
  obtain ⟨_, rfl, hbooks', last, hstored, hfailed, herror⟩ := hend
  refine ⟨hs.of_books hbooks', hclosed, task.jobId, last, hnew, hstored, hfailed, herror, ?_⟩
  intro hmem
  have howned : task.jobId ∈ s'.ownedJobs := hmem
  rw [hbooks'.owned] at howned
  exact hnot howned

/-- Nothing in the job store goes away in a run. -/
theorem has_of_runs {α : Type} {p : ServicePlan α} {a : α} {id : String}
    (h : Runs (Tends crew) p s a s') (hid : s.jobs.Has id) : s'.jobs.Has id :=
  h.invariant hid fun _ _ _ htends => htends.falters.has

/-- **A request leaves the accounts balanced**, and its response says what is so. -/
theorem Balanced.requested {response : Response} (hfresh : Function.Injective crew.freshId)
    (hs : s.Balanced crew) (h : RequestRun (Tends crew) s response s') :
    s'.Balanced crew ∧ (∀ id, s.jobs.Has id → s'.jobs.Has id) ∧ SaysTrue s s' response := by
  cases h with
  | looked run status =>
      have hbooks : s'.Books crew s.waitingJobs s.waitingJobs s.queue :=
        run.invariant hs.books fun _ _ _ haside hbooks =>
          hbooks.aside hfresh haside.1.falters haside.2
      refine ⟨hs.of_books hbooks, ?_, ?_, ?_⟩
      · intro id
        exact has_of_runs (run.mono fun _ _ _ haside => haside.1)
      · exact fun heq => absurd heq status.1
      · exact fun heq => absurd heq status.2
  | failed submitted status =>
      obtain ⟨hhas, hopen, hbooks⟩ := hs.submitted hfresh submitted
      refine ⟨hs.of_books hbooks, hhas, ?_, ?_⟩
      · exact fun heq => absurd (status.symm.trans heq) (Api.ne_accepted _)
      · exact fun heq => absurd (status.symm.trans heq) (status_ofPipeline hopen)
  | @known _ _ _ submission _ submitted done status names =>
      obtain ⟨hhas, hanswered⟩ := hs.submitted hfresh submitted
      obtain ⟨hid, hbooks⟩ : s'.jobs.Has submission.job.id ∧
          s'.Books crew s.waitingJobs s.waitingJobs s.queue := by
        cases submission with
        | cached job => exact hanswered
        | inFlight job => exact hanswered
        | enqueued job task => exact absurd rfl (done job task)
      refine ⟨hs.of_books hbooks, hhas, fun _ => ⟨_, names, hid⟩, ?_⟩
      intro heq
      rw [status] at heq
      cases heq
  | taken submitted handed status names =>
      obtain ⟨hhas, hnew, htask, hbooks⟩ := hs.submitted hfresh submitted
      rw [← htask] at hnew hbooks names
      have hbalanced := hs.taken hfresh hnew hbooks handed.falters
      have hid := has_of_open (hbooks.opened.symm ▸ Set.mem_insert ..)
      refine ⟨hbalanced, fun id hold => handed.falters.has (hhas id hold),
        fun _ => ⟨_, names, handed.falters.has hid⟩, ?_⟩
      intro heq
      rw [status] at heq
      cases heq
  | givenUp submitted refused abandoned status =>
      obtain ⟨hhas, hnew, htask, hbooks⟩ := hs.submitted hfresh submitted
      rw [← htask] at hnew hbooks
      obtain ⟨hbalanced, haway⟩ := hs.givenUp hfresh hnew hbooks refused.falters abandoned
      refine ⟨hbalanced, ?_, ?_, fun _ => haway⟩
      · intro id hold
        exact has_of_runs abandoned (refused.falters.has (hhas id hold))
      · exact fun heq => absurd (status.symm.trans heq) (Api.ne_accepted _)

end Studio

/-! ## Days of the server -/

/-- Something that is done with the server, with what came of it. -/
inductive ServerDeed where
  /-- A request was answered. -/
  | answered (policy : ServerPolicy) (limiter : RateLimiter) (now : Nat) (freshId : String)
      (request : Request) (response : Response)
  /-- The tasks in front of the queue were worked off. -/
  | drained (maxRetries : Nat) (tasks : List RenderTask)
      (answers : List (Except PipelineFault JobStatus))
  /-- The queue was closed. -/
  | closed
  /-- The video of a job was deleted. -/
  | deleted (id : String)

/-- An entry of the record of a day. -/
structure ServerEntry where
  deed : ServerDeed
  before : Studio
  after : Studio

namespace ServerDeed

/-- The deed leads from one studio to another one, with exchanges of a given kind. -/
def Takes (exchange : Studio → ServiceExchange → Studio → Prop) :
    ServerDeed → Studio → Studio → Prop
  | answered policy limiter now freshId request response, s, s' =>
    Runs exchange (Server.respond policy limiter now freshId request).1 s response s'
  | drained maxRetries tasks answers, s, s' =>
    ∃ rest, s.queue.waiting = tasks ++ rest ∧
      WorksOff exchange maxRetries tasks { s with queue.waiting := rest } answers s'
  | closed, s, s' => s' = { s with queue := s.queue.close }
  | deleted id, s, s' => s' = { s with disk := (s.videos.delete id s.disk).2 }

/-- The response that was sent. -/
def response? : ServerDeed → Option Response
  | answered _ _ _ _ _ response => some response
  | drained .. | closed | deleted _ => none

end ServerDeed

/-- What was done with the server from a studio on, the latest entry first. -/
inductive ServerDay (exchange : Studio → ServiceExchange → Studio → Prop) (start : Studio) :
    List ServerEntry → Studio → Prop
  | start : ServerDay exchange start [] start
  | next {past : List ServerEntry} {s s' : Studio} {deed : ServerDeed}
      (before : ServerDay exchange start past s) (takes : deed.Takes exchange s s') :
      ServerDay exchange start (⟨deed, s, s'⟩ :: past) s'

/-- A studio without any job: none is kept, none is owned, and no task waits. -/
structure Studio.IsVacant (s : Studio) : Prop where
  jobs : ∃ backend, s.jobs = .empty backend
  owned : s.owned = []
  waiting : s.queue.waiting = []

namespace Studio

variable {crew : Crew} {s s' : Studio}

/-- A vacant studio has no job. -/
theorem IsVacant.not_has (h : s.IsVacant) (id : String) : ¬ s.jobs.Has id := by
  obtain ⟨backend, hjobs⟩ := h.jobs
  rw [JobStore.Has, hjobs, Classical.not_not]
  cases backend <;> rfl

/-- In a vacant studio the books balance. -/
theorem IsVacant.balanced (h : s.IsVacant) : s.Balanced crew := by
  have hwaiting : s.waitingJobs = ∅ := by
    rw [waitingJobs, h.waiting, jobsOf_nil]
  refine ⟨⟨fun _ _ => h.not_has _, fun id hid => absurd hid (h.not_has id), ?_, ?_, rfl⟩, ?_⟩
  · rw [hwaiting, Set.eq_empty_iff_forall_notMem]
    exact fun id hid => h.not_has id (has_of_open hid)
  · rw [hwaiting, Set.eq_empty_iff_forall_notMem]
    intro id hid
    have hmem : id ∈ s.owned := hid
    rw [h.owned] at hmem
    cases hmem
  · rw [h.waiting]
    exact List.nodup_nil

/-- Whatever waits is worked off: the accounts are those of the tasks that go on waiting. -/
theorem Balanced.drained {maxRetries : Nat} {tasks rest : List RenderTask}
    {answers : List (Except PipelineFault JobStatus)} (hfresh : Function.Injective crew.freshId)
    (hs : s.Balanced crew) (hwaiting : s.queue.waiting = tasks ++ rest)
    (h : WorksOff (Tends crew) maxRetries tasks { s with queue.waiting := rest } answers s') :
    s'.Balanced crew ∧ s'.queue.waiting = rest := by
  obtain ⟨⟨ahead, told, opened, owned, -⟩, honce⟩ := hs
  rw [hwaiting] at honce
  rw [waitingJobs, hwaiting] at opened owned
  have hbegin : ({ s with queue.waiting := rest } : Studio).Books crew (jobsOf (tasks ++ rest))
      (jobsOf (tasks ++ rest)) { s.queue with waiting := rest } :=
    ⟨ahead, told, opened, owned, rfl⟩
  have hbooks := hbegin.worksOff hfresh h honce
  have hrest : s'.queue.waiting = rest := by
    rw [hbooks.queue]
  refine ⟨⟨?_, ?_⟩, hrest⟩
  · have hqueue : s'.queue = { s.queue with waiting := rest } := hbooks.queue
    rw [waitingJobs, hrest, hqueue]
    exact hbooks
  · rw [hrest]
    rw [List.map_append] at honce
    exact (List.nodup_append.mp honce).2.1

/-- **Every deed leaves the accounts balanced**, and every response says what is so. -/
theorem Balanced.takes (hfresh : Function.Injective crew.freshId) (hs : s.Balanced crew)
    {deed : ServerDeed} (h : deed.Takes (Tends crew) s s') :
    s'.Balanced crew ∧ (∀ id, s.jobs.Has id → s'.jobs.Has id) ∧
      ∀ response, deed.response? = some response → SaysTrue s s' response := by
  cases deed with
  | answered policy limiter now freshId request response =>
      obtain ⟨hbalanced, hhas, htrue⟩ := hs.requested hfresh (Server.requestRun h)
      refine ⟨hbalanced, hhas, ?_⟩
      intro response' heq
      cases heq
      exact htrue
  | drained maxRetries tasks answers =>
      obtain ⟨rest, hwaiting, hworks⟩ := h
      obtain ⟨hbalanced, -⟩ := hs.drained hfresh hwaiting hworks
      exact ⟨hbalanced, fun id hid => has_of_worksOff hworks hid, fun _ heq => nomatch heq⟩
  | closed =>
      obtain rfl : s' = { s with queue := s.queue.close } := h
      obtain ⟨⟨ahead, told, opened, owned, -⟩, honce⟩ := hs
      refine ⟨⟨⟨ahead, told, opened, owned, rfl⟩, honce⟩, fun _ hid => hid, ?_⟩
      exact fun _ heq => nomatch heq
  | deleted id =>
      obtain rfl : s' = { s with disk := (s.videos.delete id s.disk).2 } := h
      obtain ⟨⟨ahead, told, opened, owned, -⟩, honce⟩ := hs
      refine ⟨⟨⟨ahead, told, opened, owned, rfl⟩, honce⟩, fun _ hid => hid, ?_⟩
      exact fun _ heq => nomatch heq

/-- So does a whole day; and what was accepted is still there at its end. -/
theorem Balanced.day {start : Studio} {past : List ServerEntry}
    (hfresh : Function.Injective crew.freshId) (hstart : start.Balanced crew)
    (h : ServerDay (Tends crew) start past s) :
    s.Balanced crew ∧ ∀ e ∈ past, ∀ response, e.deed.response? = some response →
      SaysTrue e.before e.after response ∧ ∀ id, e.after.jobs.Has id → s.jobs.Has id := by
  induction h with
  | start => exact ⟨hstart, fun _ he => nomatch he⟩
  | next before takes ih =>
      obtain ⟨hbalanced, hpast⟩ := ih
      obtain ⟨hbalanced', hhas, htrue⟩ := hbalanced.takes hfresh takes
      refine ⟨hbalanced', ?_⟩
      intro e he response hresponse
      rcases List.mem_cons.mp he with rfl | hold
      · exact ⟨htrue response hresponse, fun _ hid => hid⟩
      · obtain ⟨hsaid, hkept⟩ := hpast e hold response hresponse
        exact ⟨hsaid, fun id hid => hhas id (hkept id hid)⟩

end Studio

/-- **No job is lost or worked off twice.**  Take any day of the server from a studio without
jobs on: requests, work at waiting tasks, the closing of the queue and deletions of videos, in
any order.  No call of the job store fails, no copy of a video does, and nobody else writes;
all else may go wrong.  Then at the end of the day, and so at every point between two deeds:

* the jobs whose record is not final are those of the waiting tasks, each of them is named
  by one task, and they are the jobs that are owned;
* once all that waits was worked off, every response with status 202 names a job whose record
  is final;
* every response with status 503 was given because the queue is closed, and the new job of
  the request was failed and let go. -/
theorem open_jobs_wait {crew : Crew} {start s : Studio} {past : List ServerEntry}
    (hfresh : Function.Injective crew.freshId) (hstart : start.IsVacant)
    (h : ServerDay (Studio.Tends crew) start past s) :
    (s.IsTold ∧ s.openJobs = s.waitingJobs ∧ (s.queue.waiting.map (·.jobId)).Nodup ∧
      s.ownedJobs = s.waitingJobs) ∧
    (∀ maxRetries answers later,
      WorksOff (Studio.Tends crew) maxRetries s.queue.waiting { s with queue.waiting := [] } answers
        later →
      ∀ e ∈ past, ∀ response, e.deed.response? = some response → response.status = 202 →
        ∃ id job, response.jobId? = some id ∧ later.jobs.stored? id = some job ∧ job.id = id ∧
          job.status.isTerminal = true) ∧
    ∀ e ∈ past, ∀ response, e.deed.response? = some response → response.status = 503 →
      e.before.TurnsAway e.after := by
  obtain ⟨hbalanced, hpast⟩ := hstart.balanced.day hfresh h
  have hbooks := hbalanced.books
  refine ⟨⟨hbooks.told, hbooks.opened, hbalanced.once, hbooks.owned⟩, ?_, ?_⟩
  · intro maxRetries answers later hworks e he response hresponse haccepted
    obtain ⟨hsaid, hkept⟩ := hpast e he response hresponse
    obtain ⟨id, hnames, hid⟩ := hsaid.accepted haccepted
    obtain ⟨hlater, hnone⟩ := hbalanced.drained hfresh (List.append_nil _).symm hworks
    have hthere : later.jobs.Has id := Studio.has_of_worksOff hworks (hkept id hid)
    obtain ⟨job, hstored, hname⟩ := hlater.books.told id hthere
    refine ⟨id, job, hnames, hstored, hname, ?_⟩
    -- an open job would wait, and nothing waits any more
    cases hfinal : job.status.isTerminal
    · have hopen : id ∈ later.openJobs := ⟨job, hstored, hfinal⟩
      rw [hlater.books.opened, Studio.waitingJobs, hnone, jobsOf_nil] at hopen
      cases hopen
    · rfl
  · intro e he response hresponse hunavailable
    exact (hpast e he response hresponse).1.unavailable hunavailable

/-! ## A rehearsal -/

/-- How the server of the rehearsal is set up. -/
def filmPolicy : ServerPolicy := ⟨⟨"none", "none", .low⟩, .any⟩

/-- The plan that answers a request. -/
def filmAnswer (r : Request) : ServicePlan Response :=
  (Server.respond filmPolicy (.perMinute 0) 0 "request" r).1

/-- The response to a request. -/
def filmResponse (r : Request) (s : Studio) : Response := (s.runPlan filmCrew (filmAnswer r)).1

/-- The studio after a request. -/
def filmAnswered (r : Request) (s : Studio) : Studio := (s.runPlan filmCrew (filmAnswer r)).2

/-- The studio after a drain of its queue. -/
def filmDrained (s : Studio) : Studio := (s.workOffQueue filmCrew 0).2

/-- The deed of a request. -/
def filmDeed (r : Request) (s : Studio) : ServerDeed :=
  .answered filmPolicy (.perMinute 0) 0 "request" r (filmResponse r s)

/-- The deed of a drain. -/
def drainDeed (s : Studio) : ServerDeed :=
  .drained 0 s.queue.waiting (s.workOffQueue filmCrew 0).1

/-- Are all questions answered well while a request is answered? -/
def isWellRequested (r : Request) (s : Studio) : Bool :=
  (filmAnswer r).holdsAlong (Studio.reply filmCrew) (Studio.isWellAnswered filmCrew) s

/-- Are all questions answered well while the queue is drained? -/
def isWellDrained (s : Studio) : Bool :=
  Studio.isWellWorked filmCrew 0 s.queue.waiting { s with queue.waiting := [] }

/-- A request of the rehearsal takes the studio where the deed says. -/
theorem filmDeed_takes {r : Request} {s : Studio} (h : isWellRequested r s = true) :
    (filmDeed r s).Takes (Studio.Tends filmCrew) s (filmAnswered r s) :=
  Studio.tends_runPlan h

/-- Draining the queue of the rehearsal works its tasks off. -/
theorem worksOff_filmDrained {s : Studio} (h : isWellDrained s = true) :
    WorksOff (Studio.Tends filmCrew) 0 s.queue.waiting { s with queue.waiting := [] }
      (s.workOffQueue filmCrew 0).1 (filmDrained s) :=
  Studio.worksOff_workOffQueue h

/-- Draining the queue is a deed. -/
theorem drainDeed_takes {s : Studio} (h : isWellDrained s = true) :
    (drainDeed s).Takes (Studio.Tends filmCrew) s (filmDrained s) :=
  ⟨[], (List.append_nil _).symm, worksOff_filmDrained h⟩

/-- A request to render the scene. -/
def filmRequest : Request where
  method := "POST"
  target := "/render"
  headers := [("content-type", "application/json")]
  body := "\x7b\"code\":\"from manim import *\\nclass GeneratedScene(Scene):\\n" ++
    "    def construct(self):\\n        pass\\n\"\x7d"

/-- The studio with one task. -/
def dayQueued : Studio := filmAnswered filmRequest filmStudio

/-- The task was worked off. -/
def dayWorked : Studio := filmDrained dayQueued

/-- The video was deleted. -/
def dayBare : Studio :=
  { dayWorked with disk := (dayWorked.videos.delete "a" dayWorked.disk).2 }

/-- The queue was closed. -/
def dayClosed : Studio := { dayBare with queue := dayBare.queue.close }

/-- The request was answered once more. -/
def dayOver : Studio := filmAnswered filmRequest dayClosed

/-- The day: the first request is accepted, and the last one is not. -/
def filmDay : List ServerEntry :=
  [⟨filmDeed filmRequest dayClosed, dayClosed, dayOver⟩,
    ⟨.closed, dayBare, dayClosed⟩,
    ⟨.deleted "a", dayWorked, dayBare⟩,
    ⟨drainDeed dayQueued, dayQueued, dayWorked⟩,
    ⟨filmDeed filmRequest filmStudio, filmStudio, dayQueued⟩]

/-- At the end of the rehearsed day the accounts are balanced; the accepted job is over once
the queue was drained again, and the last request was turned away. -/
theorem film_day_balanced :
    dayOver.openJobs = dayOver.waitingJobs ∧ dayOver.ownedJobs = dayOver.waitingJobs ∧
      (∃ id job, (filmResponse filmRequest filmStudio).jobId? = some id ∧
        (filmDrained dayOver).jobs.stored? id = some job ∧ job.status.isTerminal = true) ∧
      dayClosed.TurnsAway dayOver := by
  -- one evaluation of the whole day
  have hday : (isWellRequested filmRequest filmStudio && isWellDrained dayQueued &&
      isWellRequested filmRequest dayClosed && isWellDrained dayOver &&
      (filmResponse filmRequest filmStudio).status == 202 &&
      (filmResponse filmRequest dayClosed).status == 503) = true := by
    decide +kernel
  simp only [Bool.and_eq_true, beq_iff_eq] at hday
  obtain ⟨⟨⟨⟨⟨hfirst, hwork⟩, hlast⟩, hrest⟩, haccepted⟩, hunavailable⟩ := hday
  have hvacant : filmStudio.IsVacant := ⟨⟨.memory, rfl⟩, rfl, rfl⟩
  have hrun : ServerDay (Studio.Tends filmCrew) filmStudio filmDay dayOver :=
    .next (.next (.next (.next (.next .start (filmDeed_takes hfirst)) (drainDeed_takes hwork))
      rfl) rfl) (filmDeed_takes hlast)
  obtain ⟨⟨-, hopen, -, howned⟩, hdrained, haway⟩ :=
    open_jobs_wait letterId_injective hvacant hrun
  refine ⟨hopen, howned, ?_, ?_⟩
  · have hmem : ⟨filmDeed filmRequest filmStudio, filmStudio, dayQueued⟩ ∈ filmDay := by
      simp [filmDay]
    obtain ⟨id, job, hnames, hstored, -, hfinal⟩ :=
      hdrained 0 _ _ (worksOff_filmDrained hrest) _ hmem _ rfl haccepted
    exact ⟨id, job, hnames, hstored, hfinal⟩
  · have hmem : ⟨filmDeed filmRequest dayClosed, dayClosed, dayOver⟩ ∈ filmDay := by
      simp [filmDay]
    exact haway _ hmem _ rfl hunavailable

end SceneRender
