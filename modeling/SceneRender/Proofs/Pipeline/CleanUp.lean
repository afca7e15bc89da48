import SceneRender.Proofs.Pipeline.Mishaps
import SceneRender.Proofs.Pipeline.ProcessCourse

/-!
# No job is left dangling

A task is worked off over stores that may fail at any call.  If the work ends well, the
last thing that it did was to write the status that it answers with
(`AttemptCourse.settled`).  If it ends in a fault, the fault may have come at any point,
even after the record was finished or after the video was stored; then the job is let go
and looked at once more, and its record is ended unless it is over.

The job is let go in every case, and only a new job is ever taken on.  So no later
submission is told that the job is in flight, whatever happens in between
(`Studio.LetGo.chronicle`).  `no_dangling_job` puts all of this together.
-/

namespace SceneRender

open Plan Pipeline ServiceExchange

namespace Pipeline

variable {exchange : Studio → ServiceExchange → Studio → Prop} {crew : Crew} {maxRetries : Nat}
  {task : RenderTask} {s s' given freed : Studio} {status : JobStatus} {fault : PipelineFault}
  {result : Except PipelineFault JobStatus} {id : String}

/-! ## The parts of the work -/

/-- **Working a task off** is the work, the moment at which the job is let go, and what is
left to do then. -/
theorem runs_process :
    Runs exchange (process maxRetries task) s result s' ↔
      ∃ given freed, Runs exchange (workOff maxRetries task).run s result given ∧
        exchange given (released task.jobId) freed ∧
        Runs exchange (cleanUp task.jobId result) freed () s' := by
  constructor
  · intro h
    obtain ⟨calls, hcourse, hchain⟩ := h.course
    obtain ⟨work, clean, rfl, hwork, hclean⟩ := course_process_iff.mp hcourse
    obtain ⟨given, hbefore, hafter⟩ := chain_append.mp hchain
    obtain ⟨freed, hfree, hend⟩ := chain_cons.mp hafter
    exact ⟨given, freed, hwork.runs hbefore, hfree, hclean.runs hend⟩
  · rintro ⟨given, freed, hwork, hfree, hclean⟩
    obtain ⟨work, hwork, hbefore⟩ := hwork.course
    obtain ⟨clean, hclean, hend⟩ := hclean.course
    exact (course_process_iff.mpr ⟨work, clean, rfl, hwork, hclean⟩).runs
      (chain_append.mpr ⟨given, hbefore, chain_cons.mpr ⟨freed, hfree, hend⟩⟩)

/-! ## Work that ends well -/

/-- The exchanges end with an update that is kept and writes a status. -/
def EndsWith (id : String) (status : JobStatus) (calls : List ServiceExchange) : Prop :=
  ∃ before u job, calls = before ++ [jobUpdated id u (.ok (some job))] ∧ u.status = some status

/-- With one more exchange in front the end is the same. -/
theorem EndsWith.cons {calls : List ServiceExchange} (h : EndsWith id status calls)
    (e : ServiceExchange) : EndsWith id status (e :: calls) := by
  obtain ⟨before, u, job, rfl, hstatus⟩ := h
  exact ⟨e :: before, u, job, rfl, hstatus⟩

/-- An update that is kept ends with the status that it writes. -/
theorem endsWith_update {u : JobUpdate} {reply : JobReply} (hu : u.status = some status)
    (kept : Kept reply) : EndsWith id status [jobUpdated id u reply] := by
  obtain ⟨job, rfl⟩ := kept
  exact ⟨[], u, job, rfl, hu⟩

/-- A step that answers with a status if its update is kept. -/
theorem kept_of_map {ended : JobStatus} {reply : JobReply}
    (h : (recordOf id reply).map (fun _ => ended) = .ok status) : Kept reply ∧ status = ended := by
  rcases reply with fault | _ | job
  · cases h
  · cases h
  · obtain rfl : ended = status := by simpa [recordOf, Except.map] using h
    exact ⟨⟨job, rfl⟩, rfl⟩

/-- **Attempts that end well end by writing their answer.** -/
theorem AttemptCourse.settled {retries attempt progress : Nat} {code : String}
    {calls : List ServiceExchange}
    (h : AttemptCourse task retries attempt code progress calls (.ok status)) :
    EndsWith task.jobId status calls ∧ status.isTerminal = true := by
  generalize hr : (.ok status : Except PipelineFault JobStatus) = r at h
  induction h with
  | lostBefore lost => cases hr
  | invalidEnd kept wrong last =>
      obtain ⟨keptLast, rfl⟩ := kept_of_map hr.symm
      exact ⟨(endsWith_update rfl keptLast).cons _, rfl⟩
  | invalidLost kept wrong lost => cases hr
  | invalidRetry kept wrong keptNext repair more ih =>
      obtain ⟨hend, hterminal⟩ := ih hr
      exact ⟨((hend.cons _).cons _).cons _, hterminal⟩
  | lostRendering kept right lost => cases hr
  | success kept right keptRender path finished =>
      cases finished with
      | notStored fault reply =>
          rcases reply with fault' | _ | job <;> cases hr
      | stored target reply =>
          obtain ⟨keptLast, rfl⟩ := kept_of_map hr.symm
          exact ⟨((((endsWith_update rfl keptLast).cons _).cons _).cons _).cons _, rfl⟩
  | timeout kept right keptRender last =>
      obtain ⟨keptLast, rfl⟩ := kept_of_map hr.symm
      exact ⟨(((endsWith_update rfl keptLast).cons _).cons _).cons _, rfl⟩
  | failedEnd kept right keptRender diagnostic last =>
      obtain ⟨keptLast, rfl⟩ := kept_of_map hr.symm
      exact ⟨(((endsWith_update rfl keptLast).cons _).cons _).cons _, rfl⟩
  | failedLost kept right keptRender diagnostic lost => cases hr
  | failedRetry kept right keptRender diagnostic keptNext repair more ih =>
      obtain ⟨hend, hterminal⟩ := ih hr
      exact ⟨((((hend.cons _).cons _).cons _).cons _).cons _, hterminal⟩

/-- After exchanges that end by writing a status, the status is stored. -/
theorem EndsWith.stored {calls : List ServiceExchange} (h : EndsWith id status calls)
    (hchain : Chain (Studio.Falters crew) s calls s') :
    ∃ job, s'.jobs.stored? id = some job ∧ job.status = status := by
  obtain ⟨before, u, job, rfl, hstatus⟩ := h
  obtain ⟨last, -, hlast⟩ := chain_append.mp hchain
  obtain ⟨_, hupdate, hdone⟩ := chain_cons.mp hlast
  obtain rfl := chain_nil.mp hdone
  have hwrites := Studio.writes_of_falters hupdate
  cases hwrites with
  | nothing unwritten => cases unwritten
  | @updated _ _ _ old _ found new stored others count =>
      have hnew : (old.apply u .epoch).status = status := by
        simp [Job.apply, hstatus]
      exact ⟨_, stored, hnew⟩

/-- **Work that ends well** ends with a status that is final, and that is stored. -/
theorem stored_of_workOff
    (h : Runs (Studio.Falters crew) (workOff maxRetries task).run s (.ok status) given) :
    status.isTerminal = true ∧
      ∃ job, given.jobs.stored? task.jobId = some job ∧ job.status = status := by
  obtain ⟨calls, hcourse, hchain⟩ := h.course
  generalize hr : (.ok status : Except PipelineFault JobStatus) = r at hcourse
  cases workCourse hcourse with
  | unseen fault => cases hr
  | missing => cases hr
  | @closed job terminal =>
      obtain rfl : status = job.status := by simpa using hr
      obtain ⟨_, hread, hdone⟩ := chain_cons.mp hchain
      obtain rfl := chain_nil.mp hdone
      have hjobs := hread.jobs_eq rfl
      refine ⟨terminal, job.undated, ?_, rfl⟩
      rw [hjobs]
      exact JobStore.stored?_of_get hread.read
  | begun live attempted =>
      rw [← hr] at attempted
      obtain ⟨hend, hterminal⟩ := attempted.settled
      exact ⟨hterminal, (hend.cons _).stored hchain⟩

/-! ## The clean-up -/

/-- **The clean-up ends an unfinished record** and leaves a finished one alone, if its calls
are served. -/
theorem CleanupCourse.stored {calls : List ServiceExchange} (h : CleanupCourse id fault calls)
    (hserved : ∀ e ∈ calls, e.served = true)
    (hchain : Chain (Studio.Falters crew) freed calls s') :
    ∃ old job, freed.jobs.stored? id = some old ∧ s'.jobs.stored? id = some job ∧
      (if old.status.isTerminal then job = old
        else job = old.apply (failedUpdate fault.message) .epoch) := by
  cases h with
  | unseen unread => cases hserved _ (List.mem_singleton.mpr rfl)
  | missing => cases hserved _ (List.mem_singleton.mpr rfl)
  | @closed found closed =>
      obtain ⟨_, hread, hdone⟩ := chain_cons.mp hchain
      obtain rfl := chain_nil.mp hdone
      have hjobs := hread.jobs_eq rfl
      have hstored := JobStore.stored?_of_get hread.read
      have hover : found.undated.status.isTerminal = true := closed
      refine ⟨_, found.undated, hstored, ?_, by rw [hover, if_pos rfl]⟩
      rw [hjobs]
      exact hstored
  | @ended found unfinished reply =>
      obtain ⟨job, rfl⟩ : Kept reply := by
        have hlast := hserved (jobUpdated id (failedUpdate fault.message) reply) (by simp)
        rcases reply with unread | _ | job
        · cases hlast
        · cases hlast
        · exact ⟨job, rfl⟩
      obtain ⟨seen, hread, hrest⟩ := chain_cons.mp hchain
      obtain ⟨_, hupdate, hdone⟩ := chain_cons.mp hrest
      obtain rfl := chain_nil.mp hdone
      have hjobs := hread.jobs_eq rfl
      have hstored := JobStore.stored?_of_get hread.read
      have hwrites := Studio.writes_of_falters hupdate
      cases hwrites with
      | nothing unwritten => cases unwritten
      | @updated _ _ _ old _ kept new stored others count =>
          rw [hjobs, hstored] at kept
          obtain rfl := Option.some.inj kept
          refine ⟨_, _, hstored, stored, ?_⟩
          have hlive : found.undated.status.isTerminal = false := unfinished
          rw [hlive, if_neg Bool.false_ne_true]

end Pipeline

/-! ## Jobs that were let go -/

namespace Studio

variable {crew : Crew} {s s' : Studio} {e : ServiceExchange} {id : String}

/-- No job that is made from now on has the id. -/
def Unused (crew : Crew) (id : String) (s : Studio) : Prop :=
  ∀ n, s.counts.made ≤ n → crew.freshId n ≠ id

/-- A job was let go for good: it is not owned, and no new job will have its id. -/
structure LetGo (crew : Crew) (id : String) (s : Studio) : Prop where
  unowned : id ∉ s.owned
  unused : s.Unused crew id

/-- An id that no new job will have stays one. -/
theorem Unused.falters (hs : s.Unused crew id) (h : s.Falters crew e s') : s'.Unused crew id := by
  intro n hn
  have hwrites := writes_of_falters h
  cases hwrites with
  | nothing unwritten jobs count => exact hs n (Nat.le_trans count hn)
  | made given fresh stored others count => exact hs n (by omega)
  | updated found new stored others count => exact hs n (by omega)

/-- Only a question that takes the job on can end this. -/
theorem LetGo.falters (hs : s.LetGo crew id) (h : s.Falters crew e s')
    (hclaim : e.question ≠ .claim id) : s'.LetGo crew id := by
  refine ⟨?_, hs.unused.falters h⟩
  intro hmem
  rw [h.owned_eq] at hmem
  rcases mem_ownedAfter hmem with hold | hnew
  · exact hs.unowned hold
  · exact hclaim hnew

/-- The question that lets the job go begins this. -/
theorem Unused.released (hs : s.Unused crew id) (h : s.Falters crew (released id) s') :
    s'.LetGo crew id := by
  refine ⟨?_, hs.falters h⟩
  intro hmem
  rw [h.owned_eq] at hmem
  exact (mem_ownedAfter_release.mp hmem).2 rfl

/-- A job that was let go is not taken up again by work at a task. -/
theorem LetGo.workTurn {task : RenderTask} {stage stage' : WorkStage} (hs : s.LetGo crew id)
    (hturn : WorkTurn task stage e stage') (h : s.Falters crew e s') : s'.LetGo crew id :=
  hs.falters h (hturn.ne_claim id)

/-- What is known of the task's own job in each stage of the work: once it was let go, it
stays let go. -/
def LetGoInTime (crew : Crew) (id : String) : WorkStage → Studio → Prop
  | .cleaning, s | .doubted, s | .complete, s => s.LetGo crew id
  | _, s => s.Unused crew id

/-- By the end of the work at its task a job is let go. -/
theorem LetGoInTime.workTurn {task : RenderTask} {stage stage' : WorkStage}
    (hturn : WorkTurn task stage e stage') (h : s.Falters crew e s')
    (hs : LetGoInTime crew task.jobId stage s) : LetGoInTime crew task.jobId stage' s' := by
  cases hturn with
  | released => exact Unused.released hs h
  | dropped => exact Unused.released hs h
  | clean closed => exact LetGo.workTurn hs (.clean closed) h
  | doubted unfinished => exact LetGo.workTurn hs (.doubted unfinished) h
  | cleaned => exact LetGo.workTurn hs .cleaned h
  | _ => exact Unused.falters hs h

/-- A job that was let go is not taken up again when a task is abandoned. -/
theorem LetGo.abandonTurn {id' reason : String} {stage stage' : AbandonStage}
    (hs : s.LetGo crew id) (hturn : AbandonTurn id' reason stage e stage')
    (h : s.Falters crew e s') : s'.LetGo crew id :=
  hs.falters h (hturn.ne_claim id)

/-- The job has no part in a submission: neither is it the one that was made, nor the one
that is said to be in flight. -/
def LeftOut (crew : Crew) (id : String) (stage : SubmitStage) (s : Studio) : Prop :=
  s.LetGo crew id ∧
    ∀ job, stage = .created job ∨ stage = .answered (.ok (.inFlight job)) → job.id ≠ id

/-- **A submission takes on only the job that it made**, and says only of owned jobs that
they are in flight. -/
theorem LeftOut.submitTurn {code : String} {quality : Quality} {allowRetry : Bool}
    {stage stage' : SubmitStage} (hturn : SubmitTurn code quality allowRetry stage e stage')
    (h : s.Falters crew e s') (hs : LeftOut crew id stage s) : LeftOut crew id stage' s' := by
  obtain ⟨hgone, hapart⟩ := hs
  refine ⟨hgone.falters h ?_, ?_⟩
  · intro hclaim
    obtain ⟨made, hstage, hid⟩ := hturn.created_of_claim hclaim
    exact hapart made (Or.inl hstage) hid
  · intro job hnamed
    rcases hnamed with hcreated | hsaid
    · obtain rfl : e = jobMade (.ok job) := hturn.made_of_created hcreated
      have hwrites := writes_of_falters h
      cases hwrites with
      | nothing unwritten => cases unwritten
      | made given =>
          rw [given]
          exact hgone.unused _ (Nat.le_refl _)
    · obtain rfl : e = ownershipTested job.id true := hturn.owned_of_inFlight hsaid
      have howned : true = s.owned.contains job.id := h.tested
      rintro rfl
      exact hgone.unowned (List.contains_iff_mem.mp howned.symm)

/-- **A job that was let go is never again said to be in flight**, in whatever is done
later on. -/
theorem LetGo.chronicle {allowed : List Entry → Deed → Prop} {start : Studio} {past : List Entry}
    (hstart : start.LetGo crew id) (h : Chronicle (Studio.Falters crew) allowed start past s) :
    s.LetGo crew id ∧ ∀ e ∈ past, ∀ code quality allowRetry job,
      e.deed = .submitted code quality allowRetry (.ok (.inFlight job)) → job.id ≠ id := by
  induction h with
  | start =>
      refine ⟨hstart, ?_⟩
      intro e he
      cases he
  | @next past s s' deed before allows takes ih =>
      obtain ⟨hs, hpast⟩ := ih
      -- the older entries are as they were
      suffices hlast : s'.LetGo crew id ∧ ∀ code quality allowRetry job,
          deed = .submitted code quality allowRetry (.ok (.inFlight job)) → job.id ≠ id by
        refine ⟨hlast.1, ?_⟩
        intro e he
        rcases List.mem_cons.mp he with rfl | hold
        · exact hlast.2
        · exact hpast e hold
      cases deed with
      | submitted code quality allowRetry answer =>
          have hrun : Runs (Studio.Falters crew) (submit code quality allowRetry).run s answer s' :=
            takes
          have hbegin : LeftOut crew id .asked s :=
            ⟨hs, by rintro job (heq | heq) <;> cases heq⟩
          have hend : ∃ stage, SubmitEnd stage answer ∧ LeftOut crew id stage s' :=
            (follows_submit code quality allowRetry).run hrun hbegin LeftOut.submitTurn
          obtain ⟨_, rfl, hgone, hapart⟩ := hend
          refine ⟨hgone, ?_⟩
          intro code' quality' allowRetry' job heq
          cases heq
          exact hapart job (Or.inr rfl)
      | processed maxRetries task answer =>
          have hrun : Runs (Studio.Falters crew) (process maxRetries task) s answer s' := takes
          have hend : ∃ stage, stage = WorkStage.complete ∧ s'.LetGo crew id :=
            (follows_process maxRetries task).run hrun hs
              fun hturn hfalters hfact => hfact.workTurn hturn hfalters
          obtain ⟨_, -, hgone⟩ := hend
          exact ⟨hgone, fun _ _ _ _ heq => by cases heq⟩
      | abandoned id' reason answer =>
          have hrun : Runs (Studio.Falters crew) (abandon id' reason).run s answer s' := takes
          have hend : ∃ stage, stage = AbandonStage.complete ∧ s'.LetGo crew id :=
            (follows_abandon id' reason).run hrun hs
              fun hturn hfalters hfact => hfact.abandonTurn hturn hfalters
          obtain ⟨_, -, hgone⟩ := hend
          exact ⟨hgone, fun _ _ _ _ heq => by cases heq⟩
      | deleted id' =>
          obtain rfl : s' = { s with disk := (s.videos.delete id' s.disk).2 } := takes
          exact ⟨⟨hs.unowned, hs.unused⟩, fun _ _ _ _ heq => by cases heq⟩
      | restarted =>
          obtain rfl : s' = { s with owned := [] } := takes
          exact ⟨⟨List.not_mem_nil, hs.unused⟩, fun _ _ _ _ heq => by cases heq⟩

end Studio

/-- **No job is left dangling.**  Take any task, any studio and any course of the work at
the task, whatever fails in it.

* If the answer is a status, the status is final and it is the one that is stored.
* If the answer is a fault, the calls are those of the work until it was given up, the one
  that lets the job go, and those of the clean-up, which reads the record and ends it if it is
  unfinished.  If the calls of the clean-up are served, so that the job exists and none of them
  fails, the record that is stored in the end is final: as it was when the work was given up, if
  it was final then, and failed with the fault as its error otherwise.
* In both cases the job is owned no more, and no later submission is told that it is in
  flight. -/
theorem no_dangling_job {crew : Crew} {maxRetries : Nat} {task : RenderTask} {s s' : Studio}
    {calls : List ServiceExchange} {result : Except PipelineFault JobStatus}
    (hnew : ∀ n, s.counts.made ≤ n → crew.freshId n ≠ task.jobId)
    (hcourse : Course (process maxRetries task) calls result)
    (hchain : Chain (Studio.Falters crew) s calls s') :
    (∀ status, result = .ok status →
      status.isTerminal = true ∧
        ∃ job, s'.jobs.stored? task.jobId = some job ∧ job.status = status) ∧
    (∀ fault, result = .error fault →
      ∃ work clean given, calls = work ++ released task.jobId :: clean ∧
        Course (workOff maxRetries task).run work (.error fault) ∧
        Chain (Studio.Falters crew) s work given ∧ CleanupCourse task.jobId fault clean ∧
        ((∀ e ∈ clean, e.served = true) →
          ∃ old job, given.jobs.stored? task.jobId = some old ∧
            s'.jobs.stored? task.jobId = some job ∧ job.status.isTerminal = true ∧
            (old.status.isTerminal = true → job = old) ∧
            (old.status.isTerminal = false → job.status = .failed ∧ job.progress = 100 ∧
              job.stage = "failed" ∧ job.error = some fault.message))) ∧
    task.jobId ∉ s'.owned ∧
    ∀ {allowed past later}, Chronicle (Studio.Falters crew) allowed s' past later →
      ∀ e ∈ past, ∀ code quality allowRetry job,
        e.deed = .submitted code quality allowRetry (.ok (.inFlight job)) →
          job.id ≠ task.jobId := by
  have hend : ∃ stage, stage = WorkStage.complete ∧
      Studio.LetGoInTime crew task.jobId stage s' :=
    (follows_process maxRetries task).run (hcourse.runs hchain) hnew Studio.LetGoInTime.workTurn
  obtain ⟨_, rfl, hgone⟩ := hend
  obtain ⟨work, clean, rfl, hwork, hclean⟩ := course_process_iff.mp hcourse
  obtain ⟨given, hbefore, hafter⟩ := chain_append.mp hchain
  obtain ⟨freed, hfree, hlast⟩ := chain_cons.mp hafter
  have hjobs := hfree.jobs_eq rfl
  refine ⟨?_, ?_, hgone.unowned, ?_⟩
  · rintro status rfl
    obtain ⟨rfl, -⟩ := course_done.mp hclean
    obtain rfl := chain_nil.mp hlast
    obtain ⟨hterminal, job, hstored, hstatus⟩ := stored_of_workOff (hwork.runs hbefore)
    refine ⟨hterminal, job, ?_, hstatus⟩
    rw [hjobs]
    exact hstored
  · rintro fault rfl
    have hcalls : CleanupCourse task.jobId fault clean := cleanupCourse hclean
    refine ⟨work, clean, given, rfl, hwork, hbefore, hcalls, fun hserved => ?_⟩
    obtain ⟨old, job, hold, hjob, hend⟩ := hcalls.stored hserved hlast
    rw [hjobs] at hold
    refine ⟨old, job, hold, hjob, ?_⟩
    cases hlive : old.status.isTerminal
    · rw [hlive, if_neg Bool.false_ne_true] at hend
      subst hend
      exact ⟨rfl, nofun, fun _ => ⟨rfl, rfl, rfl, rfl⟩⟩
    · rw [hlive, if_pos rfl] at hend
      subst hend
      exact ⟨hlive, fun _ => rfl, nofun⟩
  · intro allowed past later hchronicle
    exact (hgone.chronicle hchronicle).2

/-! ## A rehearsal -/

/-- A crew whose job store refuses the second update: the record cannot be moved on to the
render. -/
def shakyCrew : Crew :=
  CrewScript.crew { failures := [⟨.update, some 1, none, .refused (.unreachable "unplugged")⟩] }
    "spool" letterId (fun _ => default)

/-- The studio at the point at which the work at the first task is given up, and the answer. -/
def shakenWork : Except PipelineFault JobStatus × Studio :=
  (filmSubmitted filmStudio).2.runPlan shakyCrew (workOff 0 filmTask).run

/-- A studio once the job was let go. -/
def shakenFreed (s : Studio) : Studio := (Studio.reply shakyCrew (.release "a") s).2

/-- The calls of the clean-up after that. -/
def shakenClean (fault : PipelineFault) (s : Studio) : List ServiceExchange :=
  (failUnfinished "a" fault).transcript (Studio.reply shakyCrew) (shakenFreed s)

/-- The studio after the clean-up. -/
def shakenEnd (fault : PipelineFault) (s : Studio) : Studio :=
  ((failUnfinished "a" fault).run (Studio.reply shakyCrew) (shakenFreed s)).2

/-- The clean-up of the rehearsal takes its course in any studio. -/
theorem shaken_clean (fault : PipelineFault) (s : Studio) :
    Course (cleanUp "a" (.error fault)) (shakenClean fault s) () ∧
      Chain (Studio.Falters shakyCrew) s (released "a" :: shakenClean fault s)
        (shakenEnd fault s) := by
  refine ⟨course_transcript (V := serviceVocabulary) _ _ _, chain_cons.mpr ⟨shakenFreed s, ?_, ?_⟩⟩
  · exact Studio.falters_of_replies rfl
  · exact (chain_transcript (V := serviceVocabulary) _ _ _).mono fun _ _ _ =>
      Studio.falters_of_replies

/-- In the rehearsal the record was left in the middle of the work, and the clean-up ends it
with the fault of the store. -/
theorem shaken_job_failed :
    ∃ calls fault s', Course (process 0 filmTask) calls (.error fault) ∧
      Chain (Studio.Falters shakyCrew) (filmSubmitted filmStudio).2 calls s' ∧
      (∃ job, s'.jobs.stored? "a" = some job ∧ job.status.isTerminal = true ∧
        job.status = .failed ∧ job.error = some fault.message) ∧
      "a" ∉ s'.owned := by
  -- one evaluation tells all that is needed of the run
  have hrun : ((filmSubmitted filmStudio).2.counts.made == 1 &&
      match shakenWork.1 with
      | .error fault => (shakenClean fault shakenWork.2).all served &&
          ((shakenEnd fault shakenWork.2).jobs.stored? "a").any fun job =>
            job.status == .failed && job.error == some fault.message
      | .ok _ => false) = true := by
    decide +kernel
  rw [Bool.and_eq_true, beq_iff_eq] at hrun
  obtain ⟨hmade, hclean⟩ := hrun
  have hnew : ∀ n, (filmSubmitted filmStudio).2.counts.made ≤ n →
      shakyCrew.freshId n ≠ filmTask.jobId := by
    intro n hn heq
    have hzero : n = 0 := letterId_injective heq
    omega
  have hwork : Runs (Studio.Falters shakyCrew) (workOff 0 filmTask).run
      (filmSubmitted filmStudio).2 shakenWork.1 shakenWork.2 :=
    Studio.runs_runPlan shakyCrew _ _
  cases hresult : shakenWork.1 with
  | ok status =>
      rw [hresult] at hclean
      cases hclean
  | error fault =>
      rw [hresult] at hclean hwork
      simp only [Bool.and_eq_true, List.all_eq_true, Option.any_eq_true, beq_iff_eq] at hclean
      obtain ⟨hserved, last, hlast, hfailed, herror⟩ := hclean
      obtain ⟨work, hcourse, hbefore⟩ := hwork.course
      obtain ⟨hcleaned, hafter⟩ := shaken_clean fault shakenWork.2
      have hprocess : Course (process 0 filmTask)
          (work ++ released "a" :: shakenClean fault shakenWork.2) (.error fault) :=
        course_process_iff.mpr ⟨work, _, rfl, hcourse, hcleaned⟩
      have hchain := chain_append.mpr ⟨_, hbefore, hafter⟩
      obtain ⟨-, hfault, hunowned, -⟩ := no_dangling_job hnew hprocess hchain
      obtain ⟨work', clean', given, hcalls, hcourse', -, -, hend⟩ := hfault fault rfl
      obtain ⟨rfl, hsame⟩ := hcourse.split_unique hcourse' hcalls
      obtain rfl := (List.cons.inj hsame).2
      obtain ⟨old, job, -, hjob, hterminal, -⟩ := hend hserved
      obtain rfl : job = last := Option.some.inj (hjob.symm.trans hlast)
      exact ⟨_, fault, _, hprocess, hchain, ⟨job, hjob, hterminal, hfailed, herror⟩, hunowned⟩

end SceneRender
