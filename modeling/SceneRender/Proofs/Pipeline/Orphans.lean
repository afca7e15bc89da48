import SceneRender.Proofs.Pipeline.Mishaps

/-!
# What a failed submission leaves behind

A submission that takes over a finished video makes its own record first, then copies the
video and then ends the record.  A fault of the last two calls is handed on as it is: the
record that was made stays behind, queued, owned by nobody and without a task.  A fault of
any other call leaves the job store as it was.

`failed_submission` says so for every submission that fails, in every studio that can be
reached from a new one, whatever failed before.  A submission ends at its first failing
call, so that the call to blame is the last one.
-/

namespace SceneRender

open Plan Pipeline ServiceExchange

namespace ServiceExchange

/-- Does a call of the job store or of the store of videos fail?  An update fails as well
when it is answered that the job is missing. -/
def fails : ServiceExchange → Bool
  | ⟨.updateJob _ _, (reply : JobReply)⟩ => reply.toOption.join.isNone
  | e => !e.isFaultless

/-- Is it a call by which a record that was made for a copy gets its video or its end? -/
def completesCopy : ServiceExchange → Bool
  | ⟨.cloneVideo _ _, _⟩ | ⟨.updateJob _ _, _⟩ => true
  | _ => false

/-- An update without a record has failed. -/
theorem fails_of_recordOf {id : String} {u : JobUpdate} {reply : JobReply}
    {fault : PipelineFault} (h : recordOf id reply = .error fault) :
    (jobUpdated id u reply).fails = true := by
  rcases reply with _ | _ | job
  · rfl
  · rfl
  · cases h

end ServiceExchange

namespace Studio

variable {crew : Crew} {s₀ s s' : Studio} {e : ServiceExchange} {id source : String} {job : Job}

/-! ## What is left behind -/

/-- Everything that is kept of jobs is as it was: their entries, which of them are owned, and
the tasks that wait. -/
structure Alike (s₀ s : Studio) : Prop where
  held : ∀ id, s.jobs.held? id = s₀.jobs.held? id
  owned : s.owned = s₀.owned
  queue : s.queue = s₀.queue

/-- A job was left behind: it was not there before, its record is a fresh one, nobody owns
it, and nothing else is different, so that there is no task for it either. -/
structure LeftBehind (s₀ s : Studio) (id : String) : Prop where
  new : ¬ s₀.jobs.Has id
  stored : s.jobs.stored? id = some (.fresh id .epoch)
  unowned : id ∉ s.owned
  others : ∀ id', id' ≠ id → s.jobs.held? id' = s₀.jobs.held? id'
  owned : s.owned = s₀.owned
  queue : s.queue = s₀.queue

/-- A studio is like itself. -/
theorem Alike.refl (s : Studio) : Alike s s := ⟨fun _ => rfl, rfl, rfl⟩

/-- An exchange that writes nothing leaves everything alike. -/
theorem Alike.falters (hs : Alike s₀ s) (h : s.Falters crew e s') (hnone : e.written? = none)
    (hcalm : isCalm e.question = true) : Alike s₀ s' := by
  have hjobs := h.jobs_eq hnone
  obtain ⟨howned, hqueue⟩ := calm_surroundings h hcalm
  refine ⟨?_, howned.trans hs.owned, hqueue.trans hs.queue⟩
  rw [hjobs]
  exact hs.held

/-- An exchange that writes nothing leaves the job behind where it is. -/
theorem LeftBehind.falters (hs : LeftBehind s₀ s id) (h : s.Falters crew e s')
    (hnone : e.written? = none) (hcalm : isCalm e.question = true) : LeftBehind s₀ s' id := by
  have hjobs := h.jobs_eq hnone
  obtain ⟨howned, hqueue⟩ := calm_surroundings h hcalm
  refine ⟨hs.new, ?_, ?_, ?_, howned.trans hs.owned, hqueue.trans hs.queue⟩
  · rw [hjobs]
    exact hs.stored
  · rw [howned]
    exact hs.unowned
  · rw [hjobs]
    exact hs.others

/-- A job that is made is there in addition to all that was there. -/
theorem Alike.made (hs : Alike s₀ s) (horderly : s₀.Orderly crew) (hahead : s.FreshAhead crew)
    (h : s.Falters crew (jobMade (.ok job)) s') : LeftBehind s₀ s' job.id := by
  have hnew : ¬ s₀.jobs.Has job.id := by
    intro hold
    have hsame := JobStore.has_congr (JobStore.get_congr (hs.held job.id))
    exact hahead.not_has h (hsame.mpr hold)
  obtain ⟨howned, hqueue⟩ := calm_surroundings h rfl
  have hwrites := writes_of_falters h
  cases hwrites with
  | nothing unwritten => cases unwritten
  | made given fresh stored others count =>
      refine ⟨hnew, stored, ?_, ?_, howned.trans hs.owned, hqueue.trans hs.queue⟩
      · intro hmem
        rw [howned, hs.owned] at hmem
        exact hnew (horderly.owned _ hmem)
      · intro id hother
        exact (others id hother).trans (hs.held id)

/-! ## The video that is taken over -/

/-- The video of a job is found. -/
def FindsVideo (s : Studio) (id : String) : Prop :=
  ∃ path, s.videos.get id s.disk = .ok (some path)

/-- A video that was found is there. -/
theorem findsVideo_of_falters {path : String}
    (h : s.Falters crew (videoSought id (.ok (some path))) s') : s'.FindsVideo id := by
  rcases h with ⟨refusal, hreply⟩ | ⟨hfault, -⟩
  · obtain ⟨hfound, rfl⟩ := Prod.mk.inj hreply
    exact ⟨path, hfound⟩
  · cases hfault

/-- The making of a job is no concern of the videos. -/
theorem FindsVideo.made {reply : Except StoreFault Job} (hs : s.FindsVideo id)
    (h : s.Falters crew (jobMade reply) s') : s'.FindsVideo id := by
  rcases h with ⟨refusal, hreply⟩ | ⟨hfault, -⟩
  · obtain ⟨jobs, counts, record, rfl, -⟩ := createJob_eq hreply
    exact hs
  · cases hfault

/-- A video that is found does not vanish before it is copied. -/
theorem FindsVideo.not_vanished (hs : s.FindsVideo source)
    (h : s.Falters crew (videoCloned source id (.ok none)) s') : False := by
  rcases h with ⟨refusal, hreply⟩ | ⟨hfault, -⟩
  · obtain ⟨path, hfound⟩ := hs
    have hclone : (s.videos.clone source id s.disk).1 = .ok none := congrArg Prod.fst hreply
    rw [ArtifactStore.clone, hfound] at hclone
    dsimp only at hclone
    cases hpath : s.videos.pathOf id with
    | error fault =>
        rw [hpath] at hclone
        cases hclone
    | ok target =>
        rw [hpath] at hclone
        dsimp only at hclone
        cases hcopy : s.disk.copy path target <;> rw [hcopy] at hclone <;> cases hclone
  · cases hfault

/-! ## A submission, call by call -/

/-- The calls so far left everything alike, and none of them failed. -/
structure Undisturbed (crew : Crew) (s₀ : Studio) (x : Studio × List ServiceExchange) : Prop where
  alike : Alike s₀ x.1
  ahead : x.1.FreshAhead crew
  smooth : ∀ e ∈ x.2, e.fails = false

/-- The calls so far made a job, and none of them failed. -/
structure Stranding (s₀ : Studio) (id : String) (x : Studio × List ServiceExchange) : Prop where
  behind : LeftBehind s₀ x.1 id
  smooth : ∀ e ∈ x.2, e.fails = false

/-- The last call and no other failed.  If it should have completed a copy, the record of the
copy was left behind; otherwise everything is alike. -/
def EndsFailing (s₀ : Studio) (x : Studio × List ServiceExchange) : Prop :=
  ∃ before last, x.2 = before ++ [last] ∧ (∀ e ∈ before, e.fails = false) ∧ last.fails = true ∧
    if last.completesCopy then ∃ id, LeftBehind s₀ x.1 id else Alike s₀ x.1

variable {x x' : Studio × List ServiceExchange}

/-- The log stays smooth with one more good exchange. -/
theorem smooth_logged (hs : ∀ e ∈ x.2, e.fails = false) (h : Logged (Studio.Falters crew) x e x')
    (hgood : e.fails = false) : ∀ e ∈ x'.2, e.fails = false := by
  intro e' he
  rw [h.2] at he
  rcases List.mem_append.mp he with hold | hlast
  · exact hs e' hold
  · rw [List.mem_singleton.mp hlast]
    exact hgood

/-- A studio stays undisturbed by an exchange that writes nothing. -/
theorem Undisturbed.logged (hfresh : Function.Injective crew.freshId)
    (hs : Undisturbed crew s₀ x) (h : Logged (Studio.Falters crew) x e x')
    (hnone : e.written? = none) (hcalm : isCalm e.question = true) (hgood : e.fails = false) :
    Undisturbed crew s₀ x' where
  alike := hs.alike.falters h.1 hnone hcalm
  ahead := hs.ahead.falters hfresh h.1
  smooth := smooth_logged hs.smooth h hgood

/-- A failing exchange in an undisturbed studio leaves no orphan. -/
theorem Undisturbed.endsFailing (hs : Undisturbed crew s₀ x)
    (h : Logged (Studio.Falters crew) x e x') (hnone : e.written? = none)
    (hcalm : isCalm e.question = true) (hcopy : e.completesCopy = false) (hbad : e.fails = true) :
    EndsFailing s₀ x' := by
  refine ⟨x.2, e, h.2, hs.smooth, hbad, ?_⟩
  rw [hcopy, if_neg Bool.false_ne_true]
  exact hs.alike.falters h.1 hnone hcalm

/-- A copy stays stranded by an exchange that writes nothing. -/
theorem Stranding.logged (hs : Stranding s₀ id x) (h : Logged (Studio.Falters crew) x e x')
    (hnone : e.written? = none) (hcalm : isCalm e.question = true) (hgood : e.fails = false) :
    Stranding s₀ id x' where
  behind := hs.behind.falters h.1 hnone hcalm
  smooth := smooth_logged hs.smooth h hgood

/-- A failing exchange that was to complete the copy leaves it behind. -/
theorem Stranding.endsFailing (hs : Stranding s₀ id x) (h : Logged (Studio.Falters crew) x e x')
    (hnone : e.written? = none) (hcalm : isCalm e.question = true)
    (hcopy : e.completesCopy = true) (hbad : e.fails = true) : EndsFailing s₀ x' := by
  refine ⟨x.2, e, h.2, hs.smooth, hbad, ?_⟩
  rw [hcopy, if_pos rfl]
  exact ⟨id, hs.behind.falters h.1 hnone hcalm⟩

/-- What is known in each stage of a submission that began in some studio, with the calls so
far.  A submission that has made its task cannot fail any more. -/
def SoFar (crew : Crew) (s₀ : Studio) : SubmitStage → Studio × List ServiceExchange → Prop
  | .asked, x | .known _, x | .doubtful _, x | .finished _, x | .wanting, x =>
    Undisturbed crew s₀ x
  | .copying source, x => Undisturbed crew s₀ x ∧ x.1.FindsVideo source
  | .made source job, x => Stranding s₀ job.id x ∧ x.1.FindsVideo source
  | .copied job _, x => Stranding s₀ job.id x
  | .vanished _, _ => False
  | .created _, _ | .taken _, _ | .answered (.ok _), _ => True
  | .answered (.error _), x => EndsFailing s₀ x

/-- **Every call of a submission** keeps what is known. -/
theorem SoFar.turn {code : String} {quality : Quality} {allowRetry : Bool}
    {stage stage' : SubmitStage} (hfresh : Function.Injective crew.freshId)
    (horderly : s₀.Orderly crew) (hturn : SubmitTurn code quality allowRetry stage e stage')
    (h : Logged (Studio.Falters crew) x e x') (hs : SoFar crew s₀ stage x) :
    SoFar crew s₀ stage' x' := by
  cases hturn with
  | unknown => exact Undisturbed.logged hfresh hs h rfl rfl rfl
  | known id => exact Undisturbed.logged hfresh hs h rfl rfl rfl
  | unread fault => exact Undisturbed.endsFailing hs h rfl rfl rfl rfl
  | missing => exact Undisturbed.logged hfresh hs h rfl rfl rfl
  | read job =>
      have hnext : Undisturbed crew s₀ x' := Undisturbed.logged hfresh hs h rfl rfl rfl
      rcases stageOfKnown_eq job with hknown | hknown | hknown <;> rw [hknown] <;> exact hnext
  | owned => exact trivial
  | foreign => exact Undisturbed.logged hfresh hs h rfl rfl rfl
  | unsought fault => exact Undisturbed.endsFailing hs h rfl rfl rfl rfl
  | lost => exact Undisturbed.logged hfresh hs h rfl rfl rfl
  | seen path => exact ⟨Undisturbed.logged hfresh hs h rfl rfl rfl, findsVideo_of_falters h.1⟩
  | unmade fault => exact Undisturbed.endsFailing hs.1 h rfl rfl rfl rfl
  | made job =>
      obtain ⟨hcalls, hvideo⟩ := hs
      have hbehind := hcalls.alike.made horderly hcalls.ahead h.1
      exact ⟨⟨hbehind, smooth_logged hcalls.smooth h rfl⟩, hvideo.made h.1⟩
  | uncopied fault => exact Stranding.endsFailing hs.1 h rfl rfl rfl rfl
  | vanished => exact hs.2.not_vanished h.1
  | copied path => exact Stranding.logged hs.1 h rfl rfl rfl
  | discarded last => exact hs.elim
  | undiscarded unkept => exact hs.elim
  | cached last => exact trivial
  | @uncached job path reply fault unkept =>
      have hnone : (jobUpdated job.id (finishedUpdate path) reply).written? = none := by
        rcases reply with _ | _ | last
        · rfl
        · rfl
        · cases unkept
      exact Stranding.endsFailing hs h hnone rfl rfl (fails_of_recordOf unkept)
  | uncreated fault => exact Undisturbed.endsFailing hs h rfl rfl rfl rfl
  | created job => exact trivial
  | claimed => exact trivial
  | remembered => exact trivial

end Studio

/-- **What a failed submission leaves behind.**  Take any studio that can be reached from a
new one, and any submission in it that ends in a fault.  Its last call failed, and no call
before it.  If that was the copying of the video of a finished job, or the update that
should have ended the record of the copy, then a job is left behind that was not there
before: its record is queued, nobody owns it and there is no task for it.  If it was any
other call, everything that is kept of jobs is as it was. -/
theorem failed_submission {crew : Crew} {allowed : List Entry → Deed → Prop}
    {start s s' : Studio} {past : List Entry} {code : String} {quality : Quality}
    {allowRetry : Bool} {fault : PipelineFault} {calls : List ServiceExchange}
    (hstart : start.IsNew) (hfresh : Function.Injective crew.freshId)
    (hpast : Chronicle (Studio.Falters crew) allowed start past s)
    (hcourse : Course (submit code quality allowRetry).run calls (.error fault))
    (hchain : Chain (Studio.Falters crew) s calls s') :
    ∃ before last, calls = before ++ [last] ∧ (∀ e ∈ before, e.fails = false) ∧
      last.fails = true ∧
      if last.completesCopy then ∃ id, s.LeftBehind s' id else s.Alike s' := by
  have horderly : s.Orderly crew := hstart.orderly.chronicle hfresh hpast
  have hbegin : Studio.SoFar crew s .asked (s, []) := ⟨.refl s, horderly.ahead, List.forall_mem_nil _⟩
  have hend : ∃ stage, SubmitEnd stage (.error fault) ∧
      Studio.SoFar crew s stage (s', [] ++ calls) :=
    (follows_submit code quality allowRetry).run (hcourse.logged hchain []) hbegin
      (Studio.SoFar.turn hfresh horderly)
  obtain ⟨_, rfl, hfailing⟩ := hend
  exact hfailing

/-! ## A rehearsal -/

/-- A crew whose job store refuses the fourth update.  Working the first task off takes three
of them. -/
def refusingCrew : Crew :=
  CrewScript.crew { failures := [⟨.update, some 3, none, .refused (.unreachable "unplugged")⟩] }
    "spool" letterId (fun _ => default)

/-- The submission of the scene, as a run. -/
def refusedSubmission (s : Studio) : Except PipelineFault Submission × Studio :=
  s.runPlan refusingCrew (submit emptyScene .low false).run

/-- The work at the task, as a run. -/
def refusedWork (s : Studio) : Except PipelineFault JobStatus × Studio :=
  s.runPlan refusingCrew (process 0 filmTask)

/-- The studio in which the scene was submitted. -/
def refusedQueued : Studio := (refusedSubmission filmStudio).2

/-- The studio in which its task was worked off. -/
def refusedFilmed : Studio := (refusedWork refusedQueued).2

/-- What is asked and replied when the scene is submitted again. -/
def refusedCalls : List ServiceExchange :=
  refusedFilmed.exchanges refusingCrew (submit emptyScene .low false).run

/-- The studio in which the task was worked off, from any studio. -/
def refusedAfter (s : Studio) : Studio := (refusedWork s).2

/-- The studio of the rehearsal can be reached. -/
theorem refusedFilmed_reached : ∃ past, Chronicle (Studio.Falters refusingCrew) (fun _ _ => True)
    filmStudio past refusedFilmed := by
  have hsubmitted : (Deed.submitted emptyScene .low false (refusedSubmission filmStudio).1).Takes
      (Studio.Falters refusingCrew) filmStudio refusedQueued :=
    Studio.runs_runPlan refusingCrew _ filmStudio
  have hprocessed : ∀ s : Studio, (Deed.processed 0 filmTask (refusedWork s).1).Takes
      (Studio.Falters refusingCrew) s (refusedAfter s) :=
    fun s => Studio.runs_runPlan refusingCrew _ s
  exact ⟨_, .next (.next .start trivial hsubmitted) trivial (hprocessed refusedQueued)⟩

/-- The calls of the rehearsal are a chain of exchanges that may falter. -/
theorem refusedCalls_chain : Chain (Studio.Falters refusingCrew) refusedFilmed refusedCalls
    (refusedSubmission refusedFilmed).2 :=
  (chain_transcript _ _ _).mono fun _ _ _ => Studio.falters_of_replies

/-- What the last submission of the rehearsal comes to: it fails with its last call, the
update of the copy, and the record of the copy is left unfinished, owned by nobody. -/
theorem refused_rehearsed :
    (refusedSubmission refusedFilmed).1.isOk = false ∧
      (∃ before last, refusedCalls = before ++ [last] ∧ (∀ e ∈ before, e.fails = false) ∧
        last.fails = true ∧ last.completesCopy = true) ∧
      ∃ job, refusedFilmed.jobs.get "aa" = .ok none ∧
        (refusedSubmission refusedFilmed).2.jobs.stored? "aa" = some job ∧
        job.status.isTerminal = false ∧ "aa" ∉ (refusedSubmission refusedFilmed).2.owned ∧
        ∀ task ∈ (refusedSubmission refusedFilmed).2.queue.waiting, task.jobId ≠ "aa" := by
  -- one evaluation of all three runs
  have hrehearsed : (refusedCalls.dropLast.all (fun e => !e.fails) &&
      refusedCalls.getLast?.any (fun e => e.fails && e.completesCopy) &&
      !(refusedSubmission refusedFilmed).1.isOk &&
      (refusedFilmed.jobs.held? "aa").isNone &&
      ((refusedSubmission refusedFilmed).2.jobs.stored? "aa").any (fun job =>
        !job.status.isTerminal) &&
      !(refusedSubmission refusedFilmed).2.owned.contains "aa" &&
      (refusedSubmission refusedFilmed).2.queue.waiting.all fun task => task.jobId != "aa") =
        true := by
    decide +kernel
  simp only [Bool.and_eq_true, List.all_eq_true, Option.any_eq_true, Bool.not_eq_true',
    Option.isNone_iff_eq_none, List.contains_eq_mem, decide_eq_false_iff_not, bne_iff_ne,
    ne_eq] at hrehearsed
  obtain ⟨⟨⟨⟨⟨⟨hbefore, last, hlast, hbad, hcopy⟩, hrefused⟩, hunheld⟩, job, hjob, hlive⟩,
    hunowned⟩, hwaiting⟩ := hrehearsed
  obtain ⟨before, hsplit⟩ := List.getLast?_eq_some_iff.mp hlast
  rw [hsplit, List.dropLast_concat] at hbefore
  have hunmade : refusedFilmed.jobs.get "aa" = .ok none := by
    rw [JobStore.get_eq_held, hunheld]
  exact ⟨hrefused, ⟨before, last, hsplit, hbefore, hbad, hcopy⟩, job, hunmade, hjob, hlive,
    hunowned, hwaiting⟩

/-- In the rehearsal the update of the copy is refused, and the copy is left behind. -/
theorem refused_copy_behind :
    ∃ fault id, (refusedSubmission refusedFilmed).1 = .error fault ∧
      refusedFilmed.LeftBehind (refusedSubmission refusedFilmed).2 id := by
  obtain ⟨hrefused, ⟨_, final, hfinal, -, -, hcompletes⟩, -⟩ := refused_rehearsed
  obtain ⟨past, hpast⟩ := refusedFilmed_reached
  cases hanswer : (refusedSubmission refusedFilmed).1 with
  | ok submission =>
      rw [hanswer] at hrefused
      cases hrefused
  | error fault =>
      have hcourse : Course (submit emptyScene .low false).run refusedCalls (.error fault) := by
        rw [← hanswer]
        exact course_transcript _ _ _
      obtain ⟨before, last, hcalls, -, -, hend⟩ := failed_submission filmStudio_isNew
        letterId_injective hpast hcourse refusedCalls_chain
      have hcopy : last.completesCopy = true := by
        obtain rfl : final = last := by
          simpa [hcalls] using congrArg List.getLast? hfinal.symm
        exact hcompletes
      rw [hcopy, if_pos rfl] at hend
      obtain ⟨id, hbehind⟩ := hend
      exact ⟨fault, id, rfl, hbehind⟩

/-- **A failed submission can leave an orphan.**  The scene was rendered, and it is submitted
once more.  One call fails, the update that should have ended the record of the copy, and
the submission ends in its fault.  The record that it made is still unfinished, although
nobody owns the job and no task for it waits. -/
theorem failed_submission_orphans :
    (∃ past, Chronicle (Studio.Falters refusingCrew) (fun _ _ => True) filmStudio past
      refusedFilmed) ∧
    (∃ fault, (refusedSubmission refusedFilmed).1 = .error fault) ∧
    (∃ before last, refusedCalls = before ++ [last] ∧ (∀ e ∈ before, e.fails = false) ∧
      last.fails = true) ∧
    ∃ job, refusedFilmed.jobs.get "aa" = .ok none ∧
      (refusedSubmission refusedFilmed).2.jobs.stored? "aa" = some job ∧
      job.status.isTerminal = false ∧ "aa" ∉ (refusedSubmission refusedFilmed).2.owned ∧
      ∀ task ∈ (refusedSubmission refusedFilmed).2.queue.waiting, task.jobId ≠ "aa" := by
  obtain ⟨hrefused, ⟨before, last, hsplit, hbefore, hbad, -⟩, horphan⟩ := refused_rehearsed
  refine ⟨refusedFilmed_reached, ?_, ⟨before, last, hsplit, hbefore, hbad⟩, horphan⟩
  cases hanswer : (refusedSubmission refusedFilmed).1 with
  | ok submission =>
      rw [hanswer] at hrefused
      cases hrefused
  | error fault => exact ⟨fault, rfl⟩

end SceneRender
