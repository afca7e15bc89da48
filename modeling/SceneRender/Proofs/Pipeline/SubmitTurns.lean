import SceneRender.Proofs.Pipeline.Steps

/-!
# The stages of a submission

`SubmitTurn` tells what a submission does, one exchange at a time.  The job that the
cache names for the input is looked up.  If it is done and its video is there, a new job
gets a copy of the video and is done at once; if it is unfinished and owned here, it is
the answer; otherwise a new job is made, taken on and remembered, in this order.

`follows_submit` says that every submission follows these turns.
-/

namespace SceneRender

open Plan ServiceExchange

namespace Pipeline

/-- The fingerprint under which an input is known. -/
def inputPrint (quality : Quality) (code : String) : String :=
  fingerprint (renderCanonical quality code)

/-- Where a submission stands. -/
inductive SubmitStage where
  /-- Nothing was asked yet. -/
  | asked
  /-- The cache names a job. -/
  | known (id : String)
  /-- The known job is unfinished. -/
  | doubtful (job : Job)
  /-- The known job is done. -/
  | finished (job : Job)
  /-- The video of the known job is there. -/
  | copying (source : String)
  /-- A new job was made for a copy of the video. -/
  | made (source : String) (job : Job)
  /-- The new job has its copy. -/
  | copied (job : Job) (path : String)
  /-- The video went away before it was copied. -/
  | vanished (job : Job)
  /-- A new job is needed. -/
  | wanting
  /-- A new job was made. -/
  | created (job : Job)
  /-- The new job was taken on. -/
  | taken (job : Job)
  /-- The submission is over. -/
  | answered (answer : Except PipelineFault Submission)

/-- What becomes of the known job once its record is read. -/
def stageOfKnown (job : Job) : SubmitStage :=
  if job.status = .done then .finished job
  else if job.status.isTerminal then .wanting
  else .doubtful job

/-- A known job is finished, wanting or doubtful. -/
theorem stageOfKnown_eq (job : Job) :
    stageOfKnown job = .finished job ∨ stageOfKnown job = .wanting ∨
      stageOfKnown job = .doubtful job := by
  rw [stageOfKnown]
  split
  · exact Or.inl rfl
  · split
    · exact Or.inr (Or.inl rfl)
    · exact Or.inr (Or.inr rfl)

/-- A known job is no answer yet. -/
theorem stageOfKnown_ne_answered (job : Job) (answer : Except PipelineFault Submission) :
    stageOfKnown job ≠ .answered answer := by
  intro h
  rcases stageOfKnown_eq job with hknown | hknown | hknown <;> cases hknown.symm.trans h

/-- A known job is no new one. -/
theorem stageOfKnown_ne_created (job made : Job) : stageOfKnown job ≠ .created made := by
  intro h
  rcases stageOfKnown_eq job with hknown | hknown | hknown <;> cases hknown.symm.trans h

/-- One exchange of a submission. -/
inductive SubmitTurn (code : String) (quality : Quality) (allowRetry : Bool) :
    SubmitStage → ServiceExchange → SubmitStage → Prop
  | unknown : SubmitTurn code quality allowRetry .asked
      (knownJob (inputPrint quality code) none) .wanting
  | known (id : String) : SubmitTurn code quality allowRetry .asked
      (knownJob (inputPrint quality code) (some id)) (.known id)
  | unread {id : String} (fault : StoreFault) : SubmitTurn code quality allowRetry (.known id)
      (jobRead id (.error fault)) (.answered (.error (.store fault)))
  | missing {id : String} : SubmitTurn code quality allowRetry (.known id)
      (jobRead id (.ok none)) .wanting
  | read {id : String} (job : Job) : SubmitTurn code quality allowRetry (.known id)
      (jobRead id (.ok (some job))) (stageOfKnown job)
  | owned {job : Job} : SubmitTurn code quality allowRetry (.doubtful job)
      (ownershipTested job.id true) (.answered (.ok (.inFlight job)))
  | foreign {job : Job} : SubmitTurn code quality allowRetry (.doubtful job)
      (ownershipTested job.id false) .wanting
  | unsought {job : Job} (fault : ArtifactFault) : SubmitTurn code quality allowRetry
      (.finished job) (videoSought job.id (.error fault)) (.answered (.error (.artifact fault)))
  | lost {job : Job} : SubmitTurn code quality allowRetry (.finished job)
      (videoSought job.id (.ok none)) .wanting
  | seen {job : Job} (path : String) : SubmitTurn code quality allowRetry (.finished job)
      (videoSought job.id (.ok (some path))) (.copying job.id)
  | unmade {source : String} (fault : StoreFault) : SubmitTurn code quality allowRetry
      (.copying source) (jobMade (.error fault)) (.answered (.error (.store fault)))
  | made {source : String} (job : Job) : SubmitTurn code quality allowRetry
      (.copying source) (jobMade (.ok job)) (.made source job)
  | uncopied {source : String} {job : Job} (fault : ArtifactFault) :
      SubmitTurn code quality allowRetry (.made source job)
        (videoCloned source job.id (.error fault)) (.answered (.error (.artifact fault)))
  | vanished {source : String} {job : Job} : SubmitTurn code quality allowRetry
      (.made source job) (videoCloned source job.id (.ok none)) (.vanished job)
  | copied {source : String} {job : Job} (path : String) : SubmitTurn code quality allowRetry
      (.made source job) (videoCloned source job.id (.ok (some path))) (.copied job path)
  | discarded {job : Job} (last : Job) : SubmitTurn code quality allowRetry (.vanished job)
      (jobUpdated job.id (failedUpdate vanishedMessage) (.ok (some last))) .wanting
  | undiscarded {job : Job} {reply : JobReply} {fault : PipelineFault}
      (unkept : recordOf job.id reply = .error fault) :
      SubmitTurn code quality allowRetry (.vanished job)
        (jobUpdated job.id (failedUpdate vanishedMessage) reply) (.answered (.error fault))
  | cached {job : Job} {path : String} (last : Job) : SubmitTurn code quality allowRetry
      (.copied job path) (jobUpdated job.id (finishedUpdate path) (.ok (some last)))
      (.answered (.ok (.cached last)))
  | uncached {job : Job} {path : String} {reply : JobReply} {fault : PipelineFault}
      (unkept : recordOf job.id reply = .error fault) :
      SubmitTurn code quality allowRetry (.copied job path)
        (jobUpdated job.id (finishedUpdate path) reply) (.answered (.error fault))
  | uncreated (fault : StoreFault) : SubmitTurn code quality allowRetry .wanting
      (jobMade (.error fault)) (.answered (.error (.store fault)))
  | created (job : Job) : SubmitTurn code quality allowRetry .wanting
      (jobMade (.ok job)) (.created job)
  | claimed {job : Job} : SubmitTurn code quality allowRetry (.created job)
      (jobClaimed job.id) (.taken job)
  | remembered {job : Job} : SubmitTurn code quality allowRetry (.taken job)
      (jobRemembered (inputPrint quality code) job.id)
      (.answered (.ok (.enqueued job ⟨job.id, code, quality, allowRetry⟩)))

/-- A submission ends in the stage of its answer. -/
def SubmitEnd (stage : SubmitStage) (answer : Except PipelineFault Submission) : Prop :=
  stage = .answered answer

/-- How the look at a finished job ends: with a job that took its video over, or with
the need of a new one. -/
inductive ReuseEnd : SubmitStage → Except PipelineFault (Option Submission) → Prop
  | reused (submission : Submission) :
      ReuseEnd (.answered (.ok submission)) (.ok (some submission))
  | wanting : ReuseEnd .wanting (.ok none)
  | fault (fault : PipelineFault) : ReuseEnd (.answered (.error fault)) (.error fault)

variable {code : String} {quality : Quality} {allowRetry : Bool}

/-- The taking over of a finished job's video follows the turns. -/
theorem follows_cloneFinished (job : Job) :
    (cloneFinished job.id).run.Follows (SubmitTurn code quality allowRetry)
      (fun stage r => ReuseEnd stage (r.map fun found => found.map .cached)) (.finished job) := by
  rw [cloneFinished, follows_bind_run, PipelinePlan.orFault]
  intro sought
  rcases sought with fault | _ | path
  · exact ⟨_, .unsought fault, .fault _⟩
  · exact ⟨_, .lost, .wanting⟩
  · refine ⟨_, .seen path, follows_done.mpr ?_⟩
    refine follows_bind_run.mpr (follows_createJob.mpr ?_)
    intro reply
    rcases reply with fault | made
    · exact ⟨_, .unmade fault, .fault _⟩
    · refine ⟨_, .made made, ?_⟩
      refine follows_bind_run.mpr ?_
      intro cloned
      rcases cloned with fault | _ | target
      · exact ⟨_, .uncopied fault, .fault _⟩
      · refine ⟨_, .vanished, follows_done.mpr ?_⟩
        refine follows_bind_run.mpr (follows_updateJob.mpr ?_)
        intro reply
        rcases reply with fault | _ | last
        · exact ⟨_, .undiscarded rfl, .fault _⟩
        · exact ⟨_, .undiscarded rfl, .fault _⟩
        · exact ⟨_, .discarded last, .wanting⟩
      · refine ⟨_, .copied target, follows_done.mpr ?_⟩
        refine follows_bind_run.mpr (follows_updateJob.mpr ?_)
        intro reply
        rcases reply with fault | _ | last
        · exact ⟨_, .uncached rfl, .fault _⟩
        · exact ⟨_, .uncached rfl, .fault _⟩
        · exact ⟨_, .cached last, .reused _⟩

/-- What is made of the known job follows the turns. -/
theorem follows_reuse (job : Job) :
    (reuse job).run.Follows (SubmitTurn code quality allowRetry) ReuseEnd (stageOfKnown job) := by
  rw [reuse, stageOfKnown]
  by_cases done : job.status = .done
  · rw [if_pos (by simp [done]), if_pos done]
    refine follows_bind_run.mpr ((follows_cloneFinished job).mono fun stage r hend => ?_)
    rcases r with fault | found
    · exact hend
    · exact hend
  · rw [if_neg (by simp [done]), if_neg done]
    cases terminal : job.status.isTerminal
    · rw [if_neg Bool.false_ne_true, if_neg Bool.false_ne_true]
      refine follows_bind_run.mpr (follows_lift_run.mpr ?_)
      intro owned
      cases owned with
      | false => exact ⟨_, .foreign, .wanting⟩
      | true => exact ⟨_, .owned, .reused _⟩
    · rw [if_pos rfl, if_pos rfl]
      exact .wanting

/-- Making a new job follows the turns. -/
theorem follows_enqueue :
    (enqueue (inputPrint quality code) code quality allowRetry).run.Follows
      (SubmitTurn code quality allowRetry) SubmitEnd .wanting := by
  rw [enqueue]
  refine follows_bind_run.mpr (follows_createJob.mpr ?_)
  intro reply
  rcases reply with fault | job
  · exact ⟨_, .uncreated fault, rfl⟩
  · refine ⟨_, .created job, ?_⟩
    refine follows_bind_run.mpr (follows_lift_run.mpr ?_)
    intro claim
    refine ⟨_, .claimed, ?_⟩
    refine follows_bind_run.mpr (follows_lift_run.mpr ?_)
    intro remember
    exact ⟨_, .remembered, rfl⟩

/-- What was reused is the answer; otherwise a new job is made. -/
theorem follows_reused {p : PipelinePlan (Option Submission)} {stage : SubmitStage}
    (h : p.run.Follows (SubmitTurn code quality allowRetry) ReuseEnd stage) :
    (p >>= fun reused =>
      match reused with
      | some submission => pure submission
      | none => enqueue (inputPrint quality code) code quality allowRetry).run.Follows
        (SubmitTurn code quality allowRetry) SubmitEnd stage := by
  refine follows_bind_run.mpr (h.mono fun stage' r hend => ?_)
  cases hend with
  | reused submission => exact rfl
  | wanting => exact follows_enqueue
  | fault fault => exact rfl

/-- **A submission follows the turns** to its answer. -/
theorem follows_submit (code : String) (quality : Quality) (allowRetry : Bool) :
    (submit code quality allowRetry).run.Follows (SubmitTurn code quality allowRetry) SubmitEnd
      .asked := by
  have hwanting : (pure none : PipelinePlan (Option Submission)).run.Follows
      (SubmitTurn code quality allowRetry) ReuseEnd .wanting := .wanting
  rw [submit]
  refine follows_bind_run.mpr (follows_lift_run.mpr ?_)
  intro known
  cases known with
  | none => exact ⟨_, .unknown, follows_reused hwanting⟩
  | some id =>
      refine ⟨_, .known id, ?_⟩
      refine follows_bind_run.mpr ?_
      intro reply
      rcases reply with fault | _ | job
      · exact ⟨_, .unread fault, rfl⟩
      · exact ⟨_, .missing, follows_reused hwanting⟩
      · exact ⟨_, .read job, follows_reused (follows_reuse job)⟩

/-! ## What an exchange says of the stages around it -/

section Inversion

variable {stage stage' : SubmitStage} {e : ServiceExchange} {job : Job}

/-- Only the job that was made is taken on. -/
theorem SubmitTurn.created_of_claim {id : String}
    (h : SubmitTurn code quality allowRetry stage e stage') (hclaim : e.question = .claim id) :
    ∃ made, stage = .created made ∧ made.id = id := by
  cases h with
  | @claimed made => exact ⟨made, rfl, ServiceQuestion.claim.inj hclaim⟩
  | _ => cases hclaim

/-- A job that is to be taken on was just made. -/
theorem SubmitTurn.made_of_created (h : SubmitTurn code quality allowRetry stage e stage')
    (hcreated : stage' = .created job) : e = jobMade (.ok job) := by
  cases h with
  | created made =>
      cases hcreated
      rfl
  | read known => exact absurd hcreated (stageOfKnown_ne_created known job)
  | _ => cases hcreated

/-- A job is said to be in flight right after it was found owned. -/
theorem SubmitTurn.owned_of_inFlight (h : SubmitTurn code quality allowRetry stage e stage')
    (hsaid : stage' = .answered (.ok (.inFlight job))) : e = ownershipTested job.id true := by
  cases h with
  | owned =>
      cases hsaid
      rfl
  | read known => exact absurd hsaid (stageOfKnown_ne_answered known _)
  | _ => cases hsaid

end Inversion

/-- If a stage is that of an answer with a task, the task is the input, under the id of its
job. -/
def ReturnsInput (code : String) (quality : Quality) (allowRetry : Bool) (stage : SubmitStage) :
    Prop :=
  ∀ job task, stage = .answered (.ok (.enqueued job task)) →
    task = ⟨job.id, code, quality, allowRetry⟩

/-- **The task of a new job** is the input, under the id of the job. -/
theorem task_of_enqueued {σ : Type} {exchange : σ → ServiceExchange → σ → Prop} {s s' : σ}
    {job : Job} {task : RenderTask}
    (h : Runs exchange (submit code quality allowRetry).run s (.ok (.enqueued job task)) s') :
    task = ⟨job.id, code, quality, allowRetry⟩ := by
  have hstep : ∀ {stage e stage'} {s s' : σ}, SubmitTurn code quality allowRetry stage e stage' →
      exchange s e s' → ReturnsInput code quality allowRetry stage →
        ReturnsInput code quality allowRetry stage' := by
    intro stage e stage' s s' hturn _ _ job task heq
    cases hturn with
    | remembered =>
        cases heq
        rfl
    | read job => exact absurd heq (stageOfKnown_ne_answered job _)
    | _ => cases heq
  have hend : ∃ stage, SubmitEnd stage (.ok (.enqueued job task)) ∧
      ReturnsInput code quality allowRetry stage :=
    (follows_submit code quality allowRetry).run h (fun _ _ heq => by cases heq) hstep
  obtain ⟨_, hend, htask⟩ := hend
  exact htask job task hend

end Pipeline

end SceneRender
