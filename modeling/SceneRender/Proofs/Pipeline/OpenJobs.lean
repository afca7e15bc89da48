import Mathlib.Order.BooleanAlgebra.Set
import SceneRender.Proofs.Pipeline.CleanUp

/-!
# Open jobs

A job is open as long as its record is not final.  How each part of the pipeline changes the
open jobs and the owned ones can be told from its questions alone, if no call of the job
store fails and no copy of a video does:

* a submission opens at most one job beside those that it ends itself, and owns it
  (`BooksInSubmission.turn`);
* the work at a task of an open job ends this job and lets it go (`BooksInWork.turn`);
* so does giving a job up (`BooksInAbandonment.turn`).

`Studio.Books` keeps the accounts: the open jobs, the owned ones, and the queue.
-/

namespace SceneRender

open Plan Pipeline ServiceExchange

/-- Does a question leave the jobs, the owned jobs and the waiting tasks alone? -/
def ServiceQuestion.isAside : ServiceQuestion → Bool
  | createJob | updateJob _ _ | claim _ | release _ | dispatch _ => false
  | getJob _ | lookUp _ _ | remember _ _ _ | findVideo _ | keepVideo _ _ | cloneVideo _ _
  | owns _ | render _ _ _ | repair _ _ | complete _ _ | readVideo _ => true

/-- The handing over of a task to the workers. -/
def ServiceExchange.taskDispatched (task : RenderTask) (reply : Except PipelineFault Unit) :
    ServiceExchange :=
  ⟨.dispatch task, reply⟩

namespace Studio

/-- The studio replies, its job store does not fail, and no copy of a video does; all else may
go wrong. -/
def Tends (crew : Crew) (s : Studio) (e : ServiceExchange) (s' : Studio) : Prop :=
  s.Attends crew e s' ∧ ∀ source target fault, e ≠ videoCloned source target (.error fault)

/-- The jobs whose record is not final. -/
def openJobs (s : Studio) : Set String :=
  {id | ∃ job, s.jobs.stored? id = some job ∧ job.status.isTerminal = false}

/-- The jobs that are owned. -/
def ownedJobs (s : Studio) : Set String := {id | id ∈ s.owned}

/-- Whatever is kept under an id is the record of the job with this id. -/
def IsTold (s : Studio) : Prop :=
  ∀ id, s.jobs.Has id → ∃ job, s.jobs.stored? id = some job ∧ job.id = id

variable {crew : Crew} {s s' : Studio} {e : ServiceExchange} {id : String} {job : Job}

/-- What is tended to may falter like any other. -/
theorem Tends.falters (h : s.Tends crew e s') : s.Falters crew e s' := h.1.1

/-- A well answered question is tended to. -/
theorem tends_of_isWellAnswered (hwell : s.isWellAnswered crew e.question = true)
    (h : s.Replies crew e s') : s.Tends crew e s' := by
  refine ⟨attends_of_isWellAnswered hwell h, ?_⟩
  rintro source target fault rfl
  have hreply : (reply crew (.cloneVideo source target) s).1 = .error fault := congrArg Prod.fst h
  change (served ⟨.cloneVideo source target, (reply crew (.cloneVideo source target) s).1⟩ &&
    isFaultless ⟨.cloneVideo source target, (reply crew (.cloneVideo source target) s).1⟩) =
      true at hwell
  rw [hreply] at hwell
  cases hwell

/-- An open job is there. -/
theorem has_of_open (h : id ∈ s.openJobs) : s.jobs.Has id := by
  obtain ⟨job, hstored, -⟩ := h
  exact JobStore.has_of_stored? hstored

/-! ## Changes of the jobs -/

/-- Every exchange keeps the records under the ids of their jobs. -/
theorem IsTold.falters (hs : s.IsTold) (h : s.Falters crew e s') : s'.IsTold := by
  intro id hid
  have hwrites := writes_of_falters h
  cases hwrites with
  | nothing unwritten jobs count =>
      rw [jobs] at hid ⊢
      exact hs id hid
  | @made made _ given fresh stored others count =>
      by_cases heq : id = made.id
      · rw [heq]
        exact ⟨_, stored, rfl⟩
      · rw [JobStore.stored?_congr (others id heq)]
        exact hs id ((JobStore.has_congr (JobStore.get_congr (others id heq))).mp hid)
  | @updated id' u job old _ found new stored others count =>
      by_cases heq : id = id'
      · obtain ⟨told, htold, hname⟩ := hs id' (JobStore.has_of_stored? found)
        obtain rfl : old = told := Option.some.inj (found.symm.trans htold)
        rw [heq]
        exact ⟨_, stored, hname⟩
      · rw [JobStore.stored?_congr (others id heq)]
        exact hs id ((JobStore.has_congr (JobStore.get_congr (others id heq))).mp hid)

/-- The record that an update answers with is that of its job. -/
theorem IsTold.id_of_updated {u : JobUpdate} (hs : s.IsTold)
    (h : s.Falters crew (jobUpdated id u (.ok (some job))) s') : job.id = id := by
  have hwrites := writes_of_falters h
  cases hwrites with
  | nothing unwritten => cases unwritten
  | @updated _ _ _ old _ found new stored others count =>
      obtain ⟨told, htold, hname⟩ := hs id (JobStore.has_of_stored? found)
      obtain rfl : old = told := Option.some.inj (found.symm.trans htold)
      have hid : job.undated.id = old.id := by
        rw [new]
        rfl
      exact hid.trans hname

/-- Which jobs are open depends on the job store alone. -/
theorem openJobs_congr (h : s'.jobs = s.jobs) : s'.openJobs = s.openJobs := by
  rw [openJobs, openJobs, h]

/-- Where all but one of the entries are kept, so are all but one of the open jobs. -/
theorem mem_openJobs_of_ne {id' : String}
    (hothers : ∀ id', id' ≠ id → s'.jobs.held? id' = s.jobs.held? id') (hne : id' ≠ id) :
    id' ∈ s'.openJobs ↔ id' ∈ s.openJobs := by
  have hstored := JobStore.stored?_congr (hothers id' hne)
  simp only [openJobs, Set.mem_ofPred_eq, hstored]

/-- A job that was made is open. -/
theorem openJobs_made (h : s.Falters crew (jobMade (.ok job)) s') :
    s'.openJobs = insert job.id s.openJobs := by
  have hwrites := writes_of_falters h
  cases hwrites with
  | nothing unwritten => cases unwritten
  | made given fresh stored others count =>
      ext id'
      rw [Set.mem_insert_iff]
      by_cases heq : id' = job.id
      · have hopen : job.id ∈ s'.openJobs := ⟨_, stored, rfl⟩
        simp [heq, hopen]
      · simp only [mem_openJobs_of_ne others heq, heq, false_or]

/-- An update that is kept opens its job or ends it, as the status has it that it writes. -/
theorem openJobs_updated {u : JobUpdate} {status : JobStatus} (hstatus : u.status = some status)
    (h : s.Falters crew (jobUpdated id u (.ok (some job))) s') :
    s'.openJobs = if status.isTerminal then s.openJobs \ {id} else insert id s.openJobs := by
  have hwrites := writes_of_falters h
  cases hwrites with
  | nothing unwritten => cases unwritten
  | @updated _ _ _ old _ found new stored others count =>
      have hnew : (old.apply u .epoch).status = status := by
        simp [Job.apply, hstatus]
      have hopen : id ∈ s'.openJobs ↔ status.isTerminal = false := by
        simp [openJobs, stored, hnew]
      ext id'
      by_cases heq : id' = id
      · subst heq
        rw [hopen]
        cases hfinal : status.isTerminal <;> simp
      · rw [mem_openJobs_of_ne others heq]
        cases hfinal : status.isTerminal <;> simp [heq]

/-! ## Accounts -/

/-- The accounts of a studio: nothing is kept under the ids to come, every entry is told, and
these are the open jobs, the owned ones, and the queue. -/
structure Books (crew : Crew) (opened owned : Set String) (queue : TaskQueue) (s : Studio) :
    Prop where
  ahead : s.FreshAhead crew
  told : s.IsTold
  opened : s.openJobs = opened
  owned : s.ownedJobs = owned
  queue : s.queue = queue

variable {opened owned rest : Set String} {queue : TaskQueue}

/-- Looking aside writes no record. -/
theorem written?_of_isAside (h : e.question.isAside = true) : e.written? = none := by
  obtain ⟨q, r⟩ := e
  cases q <;> first | rfl | cases h

/-- Looking aside is calm. -/
theorem isCalm_of_isAside {q : ServiceQuestion} (h : q.isAside = true) : isCalm q = true := by
  cases q <;> first | rfl | cases h

/-- **A question aside changes no accounts.** -/
theorem Books.aside (hfresh : Function.Injective crew.freshId)
    (hs : s.Books crew opened owned queue) (h : s.Falters crew e s')
    (haside : e.question.isAside = true) : s'.Books crew opened owned queue := by
  obtain ⟨howned, hqueue⟩ := calm_surroundings h (isCalm_of_isAside haside)
  have hjobs := h.jobs_eq (written?_of_isAside haside)
  refine ⟨hs.ahead.falters hfresh h, hs.told.falters h, ?_, ?_, hqueue.trans hs.queue⟩
  · exact (openJobs_congr hjobs).trans hs.opened
  · rw [ownedJobs, howned]
    exact hs.owned

/-- A job is made: it is open, and was not there. -/
theorem Books.made (hfresh : Function.Injective crew.freshId)
    (hs : s.Books crew opened owned queue) (h : s.Falters crew (jobMade (.ok job)) s') :
    ¬ s.jobs.Has job.id ∧ s'.Books crew (insert job.id opened) owned queue := by
  refine ⟨hs.ahead.not_has h, hs.ahead.falters hfresh h, hs.told.falters h, ?_, ?_, ?_⟩
  · rw [openJobs_made h, hs.opened]
  · rw [ownedJobs, h.owned_eq]
    exact hs.owned
  · exact h.queue_eq.trans hs.queue

/-- A job is taken on. -/
theorem Books.claimed (hfresh : Function.Injective crew.freshId)
    (hs : s.Books crew opened owned queue) (h : s.Falters crew (jobClaimed id) s') :
    s'.Books crew opened (insert id owned) queue := by
  have hjobs := h.jobs_eq rfl
  refine ⟨hs.ahead.falters hfresh h, hs.told.falters h, ?_, ?_, ?_⟩
  · exact (openJobs_congr hjobs).trans hs.opened
  · ext id'
    rw [ownedJobs, Set.mem_ofPred_eq, h.owned_eq, Set.mem_insert_iff, ← hs.owned]
    exact mem_ownedAfter_claim
  · exact h.queue_eq.trans hs.queue

/-- A job is let go. -/
theorem Books.released (hfresh : Function.Injective crew.freshId)
    (hs : s.Books crew opened owned queue) (h : s.Falters crew (released id) s') :
    s'.Books crew opened (owned \ {id}) queue := by
  have hjobs := h.jobs_eq rfl
  refine ⟨hs.ahead.falters hfresh h, hs.told.falters h, ?_, ?_, ?_⟩
  · exact (openJobs_congr hjobs).trans hs.opened
  · ext id'
    rw [ownedJobs, Set.mem_ofPred_eq, h.owned_eq, Set.mem_sdiff_singleton, ← hs.owned]
    exact mem_ownedAfter_release
  · exact h.queue_eq.trans hs.queue

/-- A job is moved on, and stays open. -/
theorem Books.moved (hfresh : Function.Injective crew.freshId)
    (hs : s.Books crew opened owned queue) {u : JobUpdate} {status : JobStatus}
    (hstatus : u.status = some status) (hlive : status.isTerminal = false)
    (h : s.Falters crew (jobUpdated id u (.ok (some job))) s') :
    s'.Books crew (insert id opened) owned queue := by
  refine ⟨hs.ahead.falters hfresh h, hs.told.falters h, ?_, ?_, ?_⟩
  · rw [openJobs_updated hstatus h, hlive, if_neg Bool.false_ne_true, hs.opened]
  · rw [ownedJobs, h.owned_eq]
    exact hs.owned
  · exact h.queue_eq.trans hs.queue

/-- A job is ended. -/
theorem Books.ended (hfresh : Function.Injective crew.freshId) (status : JobStatus)
    (hs : s.Books crew opened owned queue) {u : JobUpdate}
    (hstatus : u.status = some status) (hfinal : status.isTerminal = true)
    (h : s.Falters crew (jobUpdated id u (.ok (some job))) s') :
    s'.Books crew (opened \ {id}) owned queue := by
  refine ⟨hs.ahead.falters hfresh h, hs.told.falters h, ?_, ?_, ?_⟩
  · rw [openJobs_updated hstatus h, hfinal, if_pos rfl, hs.opened]
  · rw [ownedJobs, h.owned_eq]
    exact hs.owned
  · exact h.queue_eq.trans hs.queue

/-- Of an open job, the record is said. -/
theorem Books.kept {reply : JobReply} (hs : s.Books crew opened owned queue) (hid : id ∈ opened)
    (hsaid : RightlySaid s.jobs id reply) : Kept reply := by
  rw [← hs.opened] at hid
  exact hsaid.kept (has_of_open hid)

/-- A record that is read says whether its job is open. -/
theorem Books.read (hs : s.Books crew opened owned queue)
    (h : s.Falters crew (jobRead id (.ok (some job))) s') :
    id ∈ opened ↔ job.status.isTerminal = false := by
  have hstored := JobStore.stored?_of_get h.read
  rw [← hs.opened]
  simp only [openJobs, Set.mem_ofPred_eq, hstored, Option.some.injEq, exists_eq_left']
  rfl

/-! ## Working a task off -/

/-- The accounts while a task is worked off whose job is open at first: it stays open up to
the last update, and owned until it is let go. -/
def BooksInWork (crew : Crew) (id : String) (rest : Set String) (queue : TaskQueue) :
    WorkStage → Studio → Prop
  | .begun, s | .live _, s | .filmed _, s | .stored _, s | .unstored, s =>
    s.Books crew (insert id rest) (insert id rest) queue
  | .settled, s | .lost, s => s.Books crew rest (insert id rest) queue
  | .cleaning, s | .complete, s => s.Books crew rest rest queue
  | .doubted, _ => False

/-- **The work at a task of an open job ends the job and lets it go.** -/
theorem BooksInWork.turn {task : RenderTask} {stage stage' : WorkStage}
    (hfresh : Function.Injective crew.freshId) (hrest : task.jobId ∉ rest)
    (hturn : WorkTurn task stage e stage') (h : s.Tends crew e s')
    (hs : BooksInWork crew task.jobId rest queue stage s) :
    BooksInWork crew task.jobId rest queue stage' s' := by
  obtain ⟨⟨hfalters, hsaid⟩, -⟩ := h
  have hopen : task.jobId ∈ insert task.jobId rest := Set.mem_insert ..
  have hended : insert task.jobId rest \ {task.jobId} = rest := Set.insert_sdiff_self_of_notMem hrest
  cases hturn with
  | unseen fault =>
      obtain ⟨_, heq⟩ := Books.kept hs hopen hsaid
      cases heq
  | missing =>
      obtain ⟨_, heq⟩ := Books.kept hs hopen hsaid
      cases heq
  | closed terminal =>
      have hlive := (Books.read hs hfalters).mp hopen
      rw [terminal] at hlive
      cases hlive
  | found unfinished => exact Books.aside hfresh hs hfalters rfl
  | moved moves =>
      obtain ⟨status, hstatus, hlive⟩ := moves.status
      have hmoved := Books.moved hfresh hs hstatus hlive hfalters
      rwa [Set.insert_eq_of_mem hopen] at hmoved
  | stuck moves unkept => exact absurd (Books.kept hs hopen hsaid) unkept
  | filmed => exact Books.aside hfresh hs hfalters rfl
  | unfilmed failed => exact Books.aside hfresh hs hfalters rfl
  | repaired => exact Books.aside hfresh hs hfalters rfl
  | @ended _ status _ _ bad job =>
      have hfinal : status.isTerminal = true := by
        rcases bad with rfl | rfl <;> rfl
      have hbooks := Books.ended hfresh status hs rfl hfinal hfalters
      rwa [hended] at hbooks
  | unended bad unkept => exact absurd (Books.kept hs hopen hsaid) unkept
  | stored => exact Books.aside hfresh hs hfalters rfl
  | unstored => exact Books.aside hfresh hs hfalters rfl
  | finished =>
      have hbooks := Books.ended hfresh .done hs rfl rfl hfalters
      rwa [hended] at hbooks
  | unfinished unkept => exact absurd (Books.kept hs hopen hsaid) unkept
  | failed =>
      obtain ⟨job, rfl⟩ := Books.kept hs hopen hsaid
      have hbooks := Books.ended hfresh .failed hs rfl rfl hfalters
      rwa [hended] at hbooks
  | released =>
      have hbooks := Books.released hfresh hs hfalters
      rwa [hended] at hbooks
  | dropped =>
      have hbooks := Books.released hfresh hs hfalters
      rwa [hended] at hbooks
  | clean closed => exact Books.aside hfresh hs hfalters rfl
  | doubted unfinished => exact hrest ((Books.read hs hfalters).mpr unfinished)
  | cleaned => exact hs.elim

/-! ## Submissions -/

/-- The accounts at a stage of a submission, from one studio with its jobs on: at most one job
more is open, and that job was not there before. -/
def BooksInSubmission (crew : Crew) (before : Studio) (jobs : Set String) (queue : TaskQueue) :
    SubmitStage → Studio → Prop
  | .asked, s | .known _, s | .doubtful _, s | .finished _, s | .copying _, s | .wanting, s =>
    s.Books crew jobs jobs queue
  | .made _ job, s | .copied job _, s | .vanished job, s | .created job, s =>
    ¬ before.jobs.Has job.id ∧ s.Books crew (insert job.id jobs) jobs queue
  | .taken job, s =>
    ¬ before.jobs.Has job.id ∧ s.Books crew (insert job.id jobs) (insert job.id jobs) queue
  | .answered (.error fault), s => fault ≠ .queueClosed ∧ s.Books crew jobs jobs queue
  | .answered (.ok (.enqueued job task)), s =>
    ¬ before.jobs.Has job.id ∧ task.jobId = job.id ∧
      s.Books crew (insert job.id jobs) (insert job.id jobs) queue
  | .answered (.ok (.cached job)), s | .answered (.ok (.inFlight job)), s =>
    s.jobs.Has job.id ∧ s.Books crew jobs jobs queue

/-- Nothing goes away during a submission, and the accounts are as they should be. -/
def SubmitsOnto (crew : Crew) (before : Studio) (jobs : Set String) (queue : TaskQueue)
    (stage : SubmitStage) (s : Studio) : Prop :=
  (∀ id, before.jobs.Has id → s.jobs.Has id) ∧ BooksInSubmission crew before jobs queue stage s

/-- **A submission opens one job and owns it, or leaves the accounts as they are.** -/
theorem SubmitsOnto.turn {before : Studio} {jobs : Set String} {code : String} {quality : Quality}
    {allowRetry : Bool} {stage stage' : SubmitStage} (hfresh : Function.Injective crew.freshId)
    (hjobs : ∀ id ∈ jobs, before.jobs.Has id)
    (hturn : SubmitTurn code quality allowRetry stage e stage') (h : s.Tends crew e s')
    (hs : SubmitsOnto crew before jobs queue stage s) :
    SubmitsOnto crew before jobs queue stage' s' := by
  obtain ⟨⟨hfalters, hsaid⟩, hcopies⟩ := h
  obtain ⟨hhas, hs⟩ := hs
  have hhas' : ∀ id, before.jobs.Has id → s'.jobs.Has id :=
    fun id hid => hfalters.has (hhas id hid)
  have hended : ∀ {id : String}, ¬ before.jobs.Has id → insert id jobs \ {id} = jobs :=
    fun hnew => Set.insert_sdiff_self_of_notMem fun hmem => hnew (hjobs _ hmem)
  refine ⟨hhas', ?_⟩
  cases hturn with
  | unknown => exact Books.aside hfresh hs hfalters rfl
  | known id => exact Books.aside hfresh hs hfalters rfl
  | unread fault =>
      refine ⟨?_, Books.aside hfresh hs hfalters rfl⟩
      intro heq
      cases heq
  | missing => exact Books.aside hfresh hs hfalters rfl
  | read known =>
      have hbooks : s'.Books crew jobs jobs queue := Books.aside hfresh hs hfalters rfl
      rcases stageOfKnown_eq known with hknown | hknown | hknown <;> rw [hknown] <;> exact hbooks
  | @owned known =>
      have hbooks : s'.Books crew jobs jobs queue := Books.aside hfresh hs hfalters rfl
      have howned : true = s.owned.contains known.id := hfalters.tested
      have hmem : known.id ∈ s.ownedJobs := List.contains_iff_mem.mp howned.symm
      rw [Books.owned hs] at hmem
      exact ⟨hhas' _ (hjobs _ hmem), hbooks⟩
  | foreign => exact Books.aside hfresh hs hfalters rfl
  | unsought fault =>
      refine ⟨?_, Books.aside hfresh hs hfalters rfl⟩
      intro heq
      cases heq
  | lost => exact Books.aside hfresh hs hfalters rfl
  | seen path => exact Books.aside hfresh hs hfalters rfl
  | unmade fault =>
      obtain ⟨job, heq⟩ := hsaid
      cases heq
  | made job =>
      obtain ⟨hnew, hbooks⟩ := Books.made hfresh hs hfalters
      exact ⟨fun hid => hnew (hhas _ hid), hbooks⟩
  | uncopied fault => exact absurd rfl (hcopies _ _ fault)
  | vanished => exact ⟨hs.1, Books.aside hfresh hs.2 hfalters rfl⟩
  | copied path => exact ⟨hs.1, Books.aside hfresh hs.2 hfalters rfl⟩
  | discarded last =>
      have hbooks := Books.ended hfresh .failed hs.2 rfl rfl hfalters
      rwa [hended hs.1] at hbooks
  | undiscarded unkept =>
      obtain ⟨job, rfl⟩ := Books.kept hs.2 (Set.mem_insert ..) hsaid
      cases unkept
  | @cached copy path last =>
      have hbooks := Books.ended hfresh .done hs.2 rfl rfl hfalters
      rw [hended hs.1] at hbooks
      have hname : last.id = copy.id := hs.2.told.id_of_updated hfalters
      have hcopy : s.jobs.Has copy.id := by
        refine has_of_open ?_
        rw [Books.opened hs.2]
        exact Set.mem_insert ..
      rw [← hname] at hcopy
      exact ⟨hfalters.has hcopy, hbooks⟩
  | uncached unkept =>
      obtain ⟨job, rfl⟩ := Books.kept hs.2 (Set.mem_insert ..) hsaid
      cases unkept
  | uncreated fault =>
      obtain ⟨job, heq⟩ := hsaid
      cases heq
  | created job =>
      obtain ⟨hnew, hbooks⟩ := Books.made hfresh hs hfalters
      exact ⟨fun hid => hnew (hhas _ hid), hbooks⟩
  | claimed => exact ⟨hs.1, Books.claimed hfresh hs.2 hfalters⟩
  | remembered => exact ⟨hs.1, rfl, Books.aside hfresh hs.2 hfalters rfl⟩

/-! ## Giving a job up -/

/-- The accounts while an open job is given up: it is let go first and then ended. -/
def BooksInAbandonment (crew : Crew) (id reason : String) (rest : Set String)
    (queue : TaskQueue) : AbandonStage → Studio → Prop
  | .begun, s => s.Books crew (insert id rest) (insert id rest) queue
  | .freed, s => s.Books crew (insert id rest) rest queue
  | .complete, s => s.Books crew rest rest queue ∧
    ∃ job, s.jobs.stored? id = some job ∧ job.status = .failed ∧ job.error = some reason

/-- **Giving an open job up fails the job and lets it go.** -/
theorem BooksInAbandonment.turn {reason : String} {stage stage' : AbandonStage}
    (hfresh : Function.Injective crew.freshId) (hrest : id ∉ rest)
    (hturn : AbandonTurn id reason stage e stage') (h : s.Tends crew e s')
    (hs : BooksInAbandonment crew id reason rest queue stage s) :
    BooksInAbandonment crew id reason rest queue stage' s' := by
  obtain ⟨⟨hfalters, hsaid⟩, -⟩ := h
  have hended : insert id rest \ {id} = rest := Set.insert_sdiff_self_of_notMem hrest
  cases hturn with
  | released =>
      have hbooks := Books.released hfresh hs hfalters
      rwa [hended] at hbooks
  | ended reply =>
      obtain ⟨job, rfl⟩ := Books.kept hs (Set.mem_insert ..) hsaid
      have hbooks := Books.ended hfresh .failed hs rfl rfl hfalters
      rw [hended] at hbooks
      refine ⟨hbooks, ?_⟩
      have hwrites := writes_of_falters hfalters
      cases hwrites with
      | nothing unwritten => cases unwritten
      | updated found new stored others count => exact ⟨_, stored, rfl, rfl⟩

end Studio

end SceneRender
