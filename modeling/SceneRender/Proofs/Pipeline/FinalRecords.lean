import SceneRender.Proofs.Pipeline.CleanUp

/-!
# Final records stay

Once the record of a job is final, it is never written again.  Four of the pipeline's
updates are made without a look at the record: those of a copy, those within the attempts,
and the one with which a job is given up.  They cannot hit a final record all the same.
The attempts begin with a look at the record, and nobody else writes while they are made; a
copy has an id under which there was nothing before; and only a job that is not over is
given up.

What a deed promises of each of its exchanges is `Studio.KeepsFinal`: the entry of a job
whose record is final stays as it is, with its moments.  So there is no point within or
between the deeds at which a record that was final is different.
-/

namespace SceneRender

open Plan Pipeline ServiceExchange

namespace Studio

variable {crew : Crew} {s s' : Studio} {e : ServiceExchange} {id : String} {job last : Job}

/-- The record of a job is not final. -/
def Unsettled (id : String) (s : Studio) : Prop :=
  ∀ job, s.jobs.stored? id = some job → job.status.isTerminal = false

/-- The studio falters, and the entry of each job whose record is final stays as it is. -/
def KeepsFinal (crew : Crew) (s : Studio) (e : ServiceExchange) (s' : Studio) : Prop :=
  s.Falters crew e s' ∧ ∀ id last, s.jobs.stored? id = some last →
    last.status.isTerminal = true → s'.jobs.held? id = s.jobs.held? id

/-- **Final records stay in an exchange that updates no job but unfinished ones.** -/
theorem FreshAhead.keepsFinal (hs : s.FreshAhead crew) (h : s.Falters crew e s')
    (hupdate : ∀ id u, e.question = .updateJob id u → s.Unsettled id) :
    s.KeepsFinal crew e s' := by
  refine ⟨h, ?_⟩
  intro id last hstored hfinal
  have hwrites := writes_of_falters h
  cases hwrites with
  | nothing unwritten jobs count => rw [jobs]
  | made given fresh stored others count =>
      refine others id ?_
      rintro rfl
      exact hs.not_has h (JobStore.has_of_stored? hstored)
  | @updated id' u job old _ found new stored others count =>
      refine others id ?_
      rintro rfl
      have hlive := hupdate id u rfl last hstored
      rw [hfinal] at hlive
      cases hlive

/-- Whether a job is unsettled depends on the job store alone. -/
theorem Unsettled.congr (hs : s.Unsettled id) (hjobs : s'.jobs = s.jobs) :
    s'.Unsettled id := by
  intro job hstored
  rw [hjobs] at hstored
  exact hs job hstored

/-- A record that was read and is not final is unfinished. -/
theorem unsettled_of_read (h : s.Falters crew (jobRead id (.ok (some job))) s')
    (hlive : job.status.isTerminal = false) : s'.Unsettled id := by
  have hjobs := h.jobs_eq rfl
  have hstored := JobStore.stored?_of_get h.read
  intro found hfound
  rw [hjobs, hstored] at hfound
  obtain rfl := Option.some.inj hfound
  exact hlive

/-- A job that was made is unfinished. -/
theorem unsettled_of_made (h : s.Falters crew (jobMade (.ok job)) s') :
    s'.Unsettled job.id := by
  have hwrites := writes_of_falters h
  cases hwrites with
  | nothing unwritten => cases unwritten
  | made given fresh stored others count =>
      intro found hfound
      rw [stored] at hfound
      obtain rfl := Option.some.inj hfound
      rfl

/-- A job that was moved on is unfinished. -/
theorem unsettled_of_moved {u : JobUpdate} {before after : Nat} (moves : MovesOn u before after)
    (h : s.Falters crew (jobUpdated id u (.ok (some job))) s') : s'.Unsettled id := by
  obtain ⟨status, hstatus, hlive⟩ := moves.status
  have hwrites := writes_of_falters h
  cases hwrites with
  | nothing unwritten => cases unwritten
  | @updated _ _ _ old _ found new stored others count =>
      intro now hnow
      rw [stored] at hnow
      obtain rfl := Option.some.inj hnow
      have hnew : (old.apply u .epoch).status = status := by
        simp [Job.apply, hstatus]
      rw [hnew]
      exact hlive

/-! ## One exchange after the other -/

/-- The stages in which the record of a task's job may be written. -/
def IsWriting : WorkStage → Prop
  | .live _ | .filmed _ | .stored _ | .unstored | .doubted => True
  | .begun | .settled | .lost | .cleaning | .complete => False

/-- The work updates the task's job only, and only where its record may be written. -/
theorem isWriting_of_update {task : RenderTask} {stage stage' : WorkStage} {u : JobUpdate}
    (h : WorkTurn task stage e stage') (hupdate : e.question = .updateJob id u) :
    IsWriting stage ∧ task.jobId = id := by
  cases h <;> cases hupdate <;> exact ⟨trivial, rfl⟩

/-- While a task is worked off, nothing is kept under the ids to come, and the record of the
job is unfinished where it may be written. -/
def UnsettledInWork (crew : Crew) (id : String) (stage : WorkStage) (s : Studio) : Prop :=
  s.FreshAhead crew ∧ (IsWriting stage → s.Unsettled id)

/-- **The work writes no final record**: before the first update the record was found
unfinished, and what is written before the last one is not final. -/
theorem UnsettledInWork.turn {task : RenderTask} {stage stage' : WorkStage}
    (hfresh : Function.Injective crew.freshId) (hturn : WorkTurn task stage e stage')
    (h : s.Falters crew e s') (hs : UnsettledInWork crew task.jobId stage s) :
    UnsettledInWork crew task.jobId stage' s' ∧ s.KeepsFinal crew e s' := by
  obtain ⟨hahead, hlive⟩ := hs
  refine ⟨⟨hahead.falters hfresh h, ?_⟩, hahead.keepsFinal h ?_⟩
  · intro hwriting
    cases hturn with
    | found unfinished => exact unsettled_of_read h unfinished
    | doubted unfinished => exact unsettled_of_read h unfinished
    | moved moves => exact unsettled_of_moved moves h
    | filmed => exact (hlive trivial).congr (h.jobs_eq rfl)
    | unfilmed failed => exact (hlive trivial).congr (h.jobs_eq rfl)
    | repaired => exact (hlive trivial).congr (h.jobs_eq rfl)
    | stored => exact (hlive trivial).congr (h.jobs_eq rfl)
    | unstored => exact (hlive trivial).congr (h.jobs_eq rfl)
    | _ => exact hwriting.elim
  · intro id u hupdate
    obtain ⟨hwriting, rfl⟩ := isWriting_of_update hturn hupdate
    exact hlive hwriting

/-- The copy that a submission made, if it may still be updated. -/
def madeCopy? : SubmitStage → Option Job
  | .made _ job | .copied job _ | .vanished job => some job
  | _ => none

/-- No copy is made yet when a known job is looked at. -/
theorem madeCopy?_stageOfKnown (job : Job) : madeCopy? (stageOfKnown job) = none := by
  rcases stageOfKnown_eq job with hknown | hknown | hknown <;> rw [hknown] <;> rfl

/-- A submission updates only the copy that it made. -/
theorem madeCopy?_of_update {code : String} {quality : Quality} {allowRetry : Bool}
    {stage stage' : SubmitStage} {u : JobUpdate}
    (h : SubmitTurn code quality allowRetry stage e stage')
    (hupdate : e.question = .updateJob id u) : ∃ copy, madeCopy? stage = some copy ∧ copy.id = id := by
  cases h <;> cases hupdate <;> exact ⟨_, rfl, rfl⟩

/-- During a submission, nothing is kept under the ids to come, and the copy that was made is
unfinished. -/
def UnsettledCopy (crew : Crew) (stage : SubmitStage) (s : Studio) : Prop :=
  s.FreshAhead crew ∧ ∀ job, madeCopy? stage = some job → s.Unsettled job.id

/-- **A submission writes no final record**: the job that it updates is one that it made. -/
theorem UnsettledCopy.turn {code : String} {quality : Quality} {allowRetry : Bool}
    {stage stage' : SubmitStage} (hfresh : Function.Injective crew.freshId)
    (hturn : SubmitTurn code quality allowRetry stage e stage') (h : s.Falters crew e s')
    (hs : UnsettledCopy crew stage s) :
    UnsettledCopy crew stage' s' ∧ s.KeepsFinal crew e s' := by
  obtain ⟨hahead, hlive⟩ := hs
  refine ⟨⟨hahead.falters hfresh h, ?_⟩, hahead.keepsFinal h ?_⟩
  · intro job hcopy
    cases hturn with
    | made copy =>
        cases hcopy
        exact unsettled_of_made h
    | copied path => exact (hlive job hcopy).congr (h.jobs_eq rfl)
    | vanished => exact (hlive job hcopy).congr (h.jobs_eq rfl)
    | read known =>
        rw [madeCopy?_stageOfKnown] at hcopy
        cases hcopy
    | _ => cases hcopy
  · intro id u hupdate
    obtain ⟨copy, hcopy, rfl⟩ := madeCopy?_of_update hturn hupdate
    exact hlive copy hcopy

/-- While a job is given up, nothing is kept under the ids to come, and its record is
unfinished up to the update. -/
def UnsettledUntilEnded (crew : Crew) (id : String) (stage : AbandonStage) (s : Studio) : Prop :=
  s.FreshAhead crew ∧ (stage ≠ .complete → s.Unsettled id)

/-- An abandoned job is unsettled until it is ended, and final records stay. -/
theorem UnsettledUntilEnded.turn {reason : String} {stage stage' : AbandonStage}
    (hfresh : Function.Injective crew.freshId) (hturn : AbandonTurn id reason stage e stage')
    (h : s.Falters crew e s') (hs : UnsettledUntilEnded crew id stage s) :
    UnsettledUntilEnded crew id stage' s' ∧ s.KeepsFinal crew e s' := by
  obtain ⟨hahead, hlive⟩ := hs
  have hunfinished : s.Unsettled id := by
    refine hlive ?_
    intro heq
    cases hturn <;> cases heq
  refine ⟨⟨hahead.falters hfresh h, ?_⟩, hahead.keepsFinal h ?_⟩
  · intro hnot
    cases hturn with
    | released => exact hunfinished.congr (h.jobs_eq rfl)
    | ended reply => exact absurd rfl hnot
  · intro id' u hupdate
    cases hturn <;> cases hupdate
    exact hunfinished

end Studio

/-! ## Histories -/

/-- A job is given up only while its record is not final. -/
def Entry.SparesFinal (e : Entry) : Prop :=
  ∀ id reason answer, e.deed = .abandoned id reason answer → e.before.Unsettled id

namespace Studio

variable {crew : Crew} {s s' : Studio} {e : ServiceExchange} {id : String} {last : Job}

/-- **Every deed keeps the final records**, at each of its exchanges. -/
theorem FreshAhead.takes (hfresh : Function.Injective crew.freshId) (hs : s.FreshAhead crew)
    {deed : Deed} (hspares : Entry.SparesFinal ⟨deed, s, s'⟩)
    (h : deed.Takes (Studio.Falters crew) s s') :
    s'.FreshAhead crew ∧ deed.Takes (KeepsFinal crew) s s' := by
  cases deed with
  | submitted code quality allowRetry answer =>
      have hrun : Runs (Studio.Falters crew) (submit code quality allowRetry).run s answer s' := h
      have hend : Runs (KeepsFinal crew) (submit code quality allowRetry).run s answer s' ∧
          ∃ stage, SubmitEnd stage answer ∧ UnsettledCopy crew stage s' :=
        (follows_submit code quality allowRetry).runs hrun ⟨hs, fun _ heq => nomatch heq⟩
          (UnsettledCopy.turn hfresh)
      obtain ⟨hruns, _, -, hahead, -⟩ := hend
      exact ⟨hahead, hruns⟩
  | processed maxRetries task answer =>
      have hrun : Runs (Studio.Falters crew) (process maxRetries task) s answer s' := h
      have hend : Runs (KeepsFinal crew) (process maxRetries task) s answer s' ∧
          ∃ stage, stage = WorkStage.complete ∧ UnsettledInWork crew task.jobId stage s' :=
        (follows_process maxRetries task).runs hrun ⟨hs, False.elim⟩
          (UnsettledInWork.turn hfresh)
      obtain ⟨hruns, _, -, hahead, -⟩ := hend
      exact ⟨hahead, hruns⟩
  | abandoned id reason answer =>
      have hrun : Runs (Studio.Falters crew) (abandon id reason).run s answer s' := h
      have hend : Runs (KeepsFinal crew) (abandon id reason).run s answer s' ∧
          ∃ stage, stage = AbandonStage.complete ∧ UnsettledUntilEnded crew id stage s' :=
        (follows_abandon id reason).runs hrun ⟨hs, fun _ => hspares id reason answer rfl⟩
          (UnsettledUntilEnded.turn hfresh)
      obtain ⟨hruns, _, -, hahead, -⟩ := hend
      exact ⟨hahead, hruns⟩
  | deleted id =>
      obtain rfl : s' = { s with disk := (s.videos.delete id s.disk).2 } := h
      exact ⟨hs, rfl⟩
  | restarted =>
      obtain rfl : s' = { s with owned := [] } := h
      exact ⟨hs, rfl⟩

/-- Whatever is done, each exchange of it keeps the final records. -/
theorem FreshAhead.chronicle {allowed : List Entry → Deed → Prop} {since : List Entry}
    (hfresh : Function.Injective crew.freshId) (hs : s.FreshAhead crew)
    (h : Chronicle (Studio.Falters crew) allowed s since s')
    (hspares : ∀ e ∈ since, e.SparesFinal) :
    s'.FreshAhead crew ∧ Chronicle (KeepsFinal crew) allowed s since s' := by
  induction h with
  | start => exact ⟨hs, .start⟩
  | next before allows takes ih =>
      obtain ⟨hahead, hkeeps⟩ := ih fun e he => hspares e (List.mem_cons_of_mem _ he)
      obtain ⟨hahead', htakes⟩ := hahead.takes hfresh (hspares _ (List.mem_cons_self ..)) takes
      exact ⟨hahead', .next hkeeps allows htakes⟩

/-- The entry of a job whose record is final stays for the length of a run. -/
theorem held?_of_runs {α : Type} {p : ServicePlan α} {a : α}
    (h : Runs (KeepsFinal crew) p s a s') (hstored : s.jobs.stored? id = some last)
    (hfinal : last.status.isTerminal = true) : s'.jobs.held? id = s.jobs.held? id := by
  induction h with
  | done a s => rfl
  | ask first rest ih =>
      have hnext := first.2 id last hstored hfinal
      exact (ih ((JobStore.stored?_congr hnext).trans hstored)).trans hnext

/-- No deed changes a final record. -/
theorem held?_of_takes {deed : Deed} (h : deed.Takes (KeepsFinal crew) s s')
    (hstored : s.jobs.stored? id = some last) (hfinal : last.status.isTerminal = true) :
    s'.jobs.held? id = s.jobs.held? id := by
  cases deed with
  | submitted code quality allowRetry answer => exact held?_of_runs h hstored hfinal
  | processed maxRetries task answer => exact held?_of_runs h hstored hfinal
  | abandoned id reason answer => exact held?_of_runs h hstored hfinal
  | deleted id =>
      obtain rfl : s' = { s with disk := (s.videos.delete id s.disk).2 } := h
      rfl
  | restarted =>
      obtain rfl : s' = { s with owned := [] } := h
      rfl

/-- No course of events changes a final record. -/
theorem held?_of_chronicle {allowed : List Entry → Deed → Prop} {since : List Entry}
    (h : Chronicle (KeepsFinal crew) allowed s since s')
    (hstored : s.jobs.stored? id = some last) (hfinal : last.status.isTerminal = true) :
    s'.jobs.held? id = s.jobs.held? id := by
  induction h with
  | start => rfl
  | next before allows takes ih =>
      have hbefore := (JobStore.stored?_congr ih).trans hstored
      exact (held?_of_takes takes hbefore hfinal).trans ih

/-! ## Working off a task of a job that is over -/

/-- A call that reads a record or lets go of a job leaves no trace in the records. -/
theorem idle_falters (h : s.Falters crew e s')
    (hidle : (∃ id, e.question = .getJob id) ∨ ∃ id, e.question = .release id) :
    s'.record = s.record ∧ s'.jobs = s.jobs := by
  obtain ⟨q, r⟩ := e
  rcases h with ⟨refusal, hreply⟩ | ⟨-, disk, rfl⟩
  · rcases hidle with ⟨id, hq⟩ | ⟨id, hq⟩
    · obtain rfl : q = .getJob id := hq
      obtain ⟨⟨n, rfl⟩, -⟩ := getJob_eq hreply
      exact ⟨rfl, rfl⟩
    · obtain rfl : q = .release id := hq
      cases hreply
      exact ⟨rfl, rfl⟩
  · exact ⟨rfl, rfl⟩

/-- Only a store that is made to do so takes a job that is there for missing. -/
theorem missing_of_read (hid : s.jobs.Has id)
    (h : s.Falters crew (jobRead id (.ok none)) s') :
    crew.storeFailure s.counts.gets (.get id) = some .missing := by
  rcases h with ⟨refusal, hreply⟩ | ⟨hfault, -⟩
  · have hgot : (s.withRefusal refusal).getJob crew id = (.ok none, s') := hreply
    rw [getJob] at hgot
    rcases hfail : crew.storeFailure (s.withRefusal refusal).counts.gets (.get id) with _ | fault | _
    · rw [hfail] at hgot
      exact absurd (congrArg Prod.fst hgot) hid
    · rw [hfail] at hgot
      cases hgot
    · exact hfail
  · cases hfault

/-- What is answered to a task of a job that is over: its status, or that the store failed at
the look at the record. -/
def AnsweredFromRecord (crew : Crew) (id : String) (last : Job) (s : Studio)
    (result : Except PipelineFault JobStatus) : Prop :=
  result = .ok last.status ∨ (∃ fault, result = .error (.store fault)) ∨
    result = .error (.jobNotFound id) ∧
      crew.storeFailure s.counts.gets (.get id) = some .missing

/-- A record that is read is final if the stored one is. -/
theorem status_of_read {job : Job} (h : s.Falters crew (jobRead id (.ok (some job))) s')
    (hstored : s.jobs.stored? id = some last) : job.status = last.status := by
  have hread := JobStore.stored?_of_get h.read
  obtain rfl : job.undated = last := Option.some.inj (hread.symm.trans hstored)
  rfl

/-- **The work at a task of a job that is over** is a look at its record. -/
theorem idle_workOff {maxRetries : Nat} {task : RenderTask}
    {result : Except PipelineFault JobStatus}
    (hstored : s.jobs.stored? task.jobId = some last) (hfinal : last.status.isTerminal = true)
    (h : Runs (Studio.Falters crew) (Pipeline.workOff maxRetries task).run s result s') :
    s'.record = s.record ∧ s'.jobs = s.jobs ∧
      AnsweredFromRecord crew task.jobId last s result := by
  obtain ⟨calls, hcourse, hchain⟩ := h.course
  cases workCourse hcourse with
  | unseen fault =>
      obtain ⟨_, hread, hdone⟩ := chain_cons.mp hchain
      obtain rfl := chain_nil.mp hdone
      obtain ⟨hrecord, hjobs⟩ := idle_falters hread (Or.inl ⟨_, rfl⟩)
      exact ⟨hrecord, hjobs, Or.inr (Or.inl ⟨fault, rfl⟩)⟩
  | missing =>
      obtain ⟨_, hread, hdone⟩ := chain_cons.mp hchain
      obtain rfl := chain_nil.mp hdone
      obtain ⟨hrecord, hjobs⟩ := idle_falters hread (Or.inl ⟨_, rfl⟩)
      have hmissing := missing_of_read (JobStore.has_of_stored? hstored) hread
      exact ⟨hrecord, hjobs, Or.inr (Or.inr ⟨rfl, hmissing⟩)⟩
  | @closed job terminal =>
      obtain ⟨_, hread, hdone⟩ := chain_cons.mp hchain
      obtain rfl := chain_nil.mp hdone
      obtain ⟨hrecord, hjobs⟩ := idle_falters hread (Or.inl ⟨_, rfl⟩)
      refine ⟨hrecord, hjobs, Or.inl ?_⟩
      rw [status_of_read hread hstored]
  | @begun job live rest _ attempted =>
      obtain ⟨_, hread, -⟩ := chain_cons.mp hchain
      rw [status_of_read hread hstored, hfinal] at live
      cases live

/-- Nor does the clean-up do anything else. -/
theorem idle_failUnfinished {fault : PipelineFault} (hstored : s.jobs.stored? id = some last)
    (hfinal : last.status.isTerminal = true)
    (h : Runs (Studio.Falters crew) (failUnfinished id fault) s () s') :
    s'.record = s.record ∧ s'.jobs = s.jobs := by
  obtain ⟨calls, hcourse, hchain⟩ := h.course
  have hcleanup := cleanupCourse hcourse
  obtain ⟨reply, rest, rfl⟩ : ∃ reply rest, calls = jobRead id reply :: rest := by
    cases hcleanup <;> exact ⟨_, _, rfl⟩
  obtain ⟨seen, hread, hrest⟩ := chain_cons.mp hchain
  have hidle := idle_falters hread (Or.inl ⟨_, rfl⟩)
  cases hcleanup with
  | ended live reply =>
      rw [status_of_read hread hstored, hfinal] at live
      cases live
  | _ =>
      obtain rfl := chain_nil.mp hrest
      exact hidle

/-- **A task of a job that is over is worked off in vain**: nothing is written, rendered or
repaired. -/
theorem idle_process {maxRetries : Nat} {task : RenderTask}
    {result : Except PipelineFault JobStatus}
    (hstored : s.jobs.stored? task.jobId = some last) (hfinal : last.status.isTerminal = true)
    (h : Runs (Studio.Falters crew) (process maxRetries task) s result s') :
    s'.record = s.record ∧ s'.jobs = s.jobs ∧
      AnsweredFromRecord crew task.jobId last s result := by
  obtain ⟨given, freed, hwork, hfree, hclean⟩ := runs_process.mp h
  obtain ⟨hrecord, hjobs, hanswer⟩ := idle_workOff hstored hfinal hwork
  obtain ⟨hrecord', hjobs'⟩ := idle_falters hfree (Or.inr ⟨_, rfl⟩)
  suffices hcleaned : s'.record = freed.record ∧ s'.jobs = freed.jobs from
    ⟨hcleaned.1.trans (hrecord'.trans hrecord), hcleaned.2.trans (hjobs'.trans hjobs), hanswer⟩
  cases result with
  | ok status =>
      obtain ⟨-, rfl⟩ := runs_done.mp hclean
      exact ⟨rfl, rfl⟩
  | error fault =>
      refine idle_failUnfinished ?_ hfinal hclean
      rw [hjobs', hjobs]
      exact hstored

end Studio

/-- **Final records stay.**  Take any studio that can be reached from a new one, and whatever
is done with it from then on, with stores that may fail at any call; only jobs whose record
is not final are given up.

* Each exchange of it leaves the entry of every job whose record is final as it is, moments
  included.
* So a job whose record was final to begin with has the same entry in the end, and what is
  read from it is the same.
* Whoever works off a task of the job then has nothing rendered, repaired or written.  The
  answer is the status of the record, unless the store fails at the look at the record. -/
theorem final_records_stay {crew : Crew} {allowed allowed' : List Entry → Deed → Prop}
    {start s later : Studio} {past since : List Entry}
    (hfresh : Function.Injective crew.freshId) (hstart : start.IsNew)
    (hpast : Chronicle (Studio.Falters crew) allowed start past s)
    (hsince : Chronicle (Studio.Falters crew) allowed' s since later)
    (hspares : ∀ e ∈ since, e.SparesFinal) :
    Chronicle (Studio.KeepsFinal crew) allowed' s since later ∧
      ∀ id last, s.jobs.stored? id = some last → last.status.isTerminal = true →
        later.jobs.held? id = s.jobs.held? id ∧ later.jobs.get id = s.jobs.get id ∧
        ∀ maxRetries task result after, task.jobId = id →
          Runs (Studio.Falters crew) (process maxRetries task) later result after →
          after.record = later.record ∧ after.jobs = later.jobs ∧
            Studio.AnsweredFromRecord crew id last later result := by
  have horderly : s.Orderly crew := Studio.Orderly.chronicle hstart.orderly hfresh hpast
  obtain ⟨-, hkeeps⟩ := horderly.ahead.chronicle hfresh hsince hspares
  refine ⟨hkeeps, ?_⟩
  intro id last hstored hfinal
  have hheld := Studio.held?_of_chronicle hkeeps hstored hfinal
  refine ⟨hheld, JobStore.get_congr hheld, ?_⟩
  rintro maxRetries task result after rfl hrun
  have hlater := (JobStore.stored?_congr hheld).trans hstored
  exact Studio.idle_process hlater hfinal hrun

/-! ## A rehearsal -/

/-- The task of the first film, with other code. -/
def strayTask : RenderTask := ⟨"a", "", .low, true⟩

/-- The filmed scene is submitted again, and then a crew works the stray task off. -/
def strayPast (crew : Crew) : List Entry :=
  let resubmitted := (filmSubmitted filmedStudio).2
  let stray := resubmitted.runPlan crew (process 3 strayTask)
  [⟨.processed 3 strayTask stray.1, resubmitted, stray.2⟩,
    ⟨.submitted emptyScene .low false (filmSubmitted filmedStudio).1, filmedStudio, resubmitted⟩]

/-- The studio after a crew worked the stray task off. -/
def strayedBy (crew : Crew) : Studio :=
  ((filmSubmitted filmedStudio).2.runPlan crew (process 3 strayTask)).2

/-- The studio after the stray task. -/
def strayedStudio : Studio :=
  ((filmSubmitted filmedStudio).2.runPlan filmCrew (process 3 strayTask)).2

/-- What is past is a chronicle, whoever works the stray task off. -/
theorem strayPast_chronicle {crew : Crew}
    (h : (Deed.submitted emptyScene .low false (filmSubmitted filmedStudio).1).Takes
      (Studio.Falters crew) filmedStudio (filmSubmitted filmedStudio).2) :
    Chronicle (Studio.Falters crew) (fun _ _ => True) filmedStudio (strayPast crew)
      (strayedBy crew) :=
  .next (.next .start trivial h) trivial (Studio.runs_runPlan crew _ _)

/-- In the rehearsal the record of the film is as it was after the stray task, and working
the film's own task off once more renders nothing. -/
theorem filmed_record_stays :
    ∃ last, filmedStudio.jobs.stored? "a" = some last ∧ last.status = .done ∧
      strayedStudio.jobs.get "a" = filmedStudio.jobs.get "a" ∧
      (filmProcessed strayedStudio).2.record = strayedStudio.record ∧
      Studio.AnsweredFromRecord filmCrew "a" last strayedStudio (filmProcessed strayedStudio).1 := by
  obtain ⟨-, -, last, hrecord, hstatus⟩ := film_rehearsed
  obtain ⟨source, hsource, hlast⟩ := JobStore.get_of_record? hrecord
  have hstored : filmedStudio.jobs.stored? "a" = some last :=
    hlast ▸ JobStore.stored?_of_get hsource
  have hpast : Chronicle (Studio.Falters filmCrew) (fun _ _ => True) filmStudio filmPast
      filmedStudio :=
    filmPast_chronicle (fun _ _ _ _ => Studio.falters_of_replies) trivial trivial
  have hsince : Chronicle (Studio.Falters filmCrew) (fun _ _ => True) filmedStudio
      (strayPast filmCrew) strayedStudio :=
    strayPast_chronicle (Studio.runs_runPlan filmCrew _ _)
  have hspares : ∀ e ∈ strayPast filmCrew, e.SparesFinal := by
    intro e he
    simp only [strayPast, List.mem_cons, List.not_mem_nil, or_false] at he
    rcases he with rfl | rfl <;> exact fun _ _ _ heq => nomatch heq
  have hfinal : last.status.isTerminal = true := by
    rw [hstatus]
    rfl
  have hstays :=
    (final_records_stay letterId_injective filmStudio_isNew hpast hsince hspares).2 "a" last
      hstored hfinal
  obtain ⟨-, hget, hredelivered⟩ := hstays
  obtain ⟨hrecord, -, hanswer⟩ := hredelivered 0 filmTask _ _ rfl
    (Studio.runs_runPlan filmCrew _ _)
  exact ⟨last, hstored, hstatus, hget, hrecord, hanswer⟩

end SceneRender
