import SceneRender.Proofs.Pipeline.Steps

/-!
# The stages of the work at a task

`WorkTurn` tells what working a task off does to its job, one exchange at a time.  The
job is looked up; while it is live it is moved on, rendered and repaired, in any order
that the attempts choose; a rendered video is stored before the record says that the
job is done; an error ends the record otherwise.  Then the job is let go, once and at
the end, and only after a fault it is looked at once more.

`follows_process` says that the work follows these turns.
-/

namespace SceneRender

open Plan ServiceExchange

namespace Pipeline

/-- Where the work at a task stands. -/
inductive WorkStage where
  /-- Nothing was asked yet. -/
  | begun
  /-- The job is unfinished and has come so far. -/
  | live (progress : Nat)
  /-- A render left its video at a path. -/
  | filmed (path : String)
  /-- The video is stored at a path. -/
  | stored (target : String)
  /-- The video could not be stored. -/
  | unstored
  /-- The record is finished; the job has to be let go. -/
  | settled
  /-- The work ended in a fault; the job has to be let go. -/
  | lost
  /-- After a fault the record may have to be finished. -/
  | cleaning
  /-- The record was found unfinished after a fault. -/
  | doubted
  /-- Nothing is left to do. -/
  | complete

/-- The update moves an unfinished job on, from one progress to another one that is no
more than the greatest progress of an unfinished job. -/
structure MovesOn (u : JobUpdate) (before after : Nat) : Prop where
  status : ∃ status, u.status = some status ∧ status.isTerminal = false
  progress : u.progress = some after
  bounded : after ≤ max before 90
  videoPath : u.videoPath = none

/-- One exchange of the work at a task. -/
inductive WorkTurn (task : RenderTask) : WorkStage → ServiceExchange → WorkStage → Prop
  | unseen (fault : StoreFault) :
      WorkTurn task .begun (jobRead task.jobId (.error fault)) .lost
  | missing : WorkTurn task .begun (jobRead task.jobId (.ok none)) .lost
  | closed {job : Job} (terminal : job.status.isTerminal = true) :
      WorkTurn task .begun (jobRead task.jobId (.ok (some job))) .settled
  | found {job : Job} (unfinished : job.status.isTerminal = false) :
      WorkTurn task .begun (jobRead task.jobId (.ok (some job))) (.live job.progress)
  | moved {before after : Nat} {u : JobUpdate} (moves : MovesOn u before after) {job : Job} :
      WorkTurn task (.live before) (jobUpdated task.jobId u (.ok (some job))) (.live after)
  | stuck {before after : Nat} {u : JobUpdate} (moves : MovesOn u before after)
      {reply : JobReply} (unkept : ¬ Kept reply) :
      WorkTurn task (.live before) (jobUpdated task.jobId u reply) .lost
  | filmed {progress : Nat} {code path : String} :
      WorkTurn task (.live progress) (rendered task.jobId code task.quality (.success path))
        (.filmed path)
  | unfilmed {progress : Nat} {code : String} {outcome : RenderOutcome}
      (failed : ∀ path, outcome ≠ .success path) :
      WorkTurn task (.live progress) (rendered task.jobId code task.quality outcome)
        (.live progress)
  | repaired {progress : Nat} {code diagnostic reply : String} :
      WorkTurn task (.live progress) (repaired code diagnostic reply) (.live progress)
  | ended {progress : Nat} {status : JobStatus} {stage error : String}
      (bad : status = .failed ∨ status = .timeout) {job : Job} :
      WorkTurn task (.live progress)
        (jobUpdated task.jobId (endingUpdate status stage error) (.ok (some job))) .settled
  | unended {progress : Nat} {status : JobStatus} {stage error : String}
      (bad : status = .failed ∨ status = .timeout) {reply : JobReply} (unkept : ¬ Kept reply) :
      WorkTurn task (.live progress)
        (jobUpdated task.jobId (endingUpdate status stage error) reply) .lost
  | stored {path target : String} :
      WorkTurn task (.filmed path) (videoKept task.jobId path (.ok target)) (.stored target)
  | unstored {path : String} {fault : ArtifactFault} :
      WorkTurn task (.filmed path) (videoKept task.jobId path (.error fault)) .unstored
  | finished {target : String} {job : Job} :
      WorkTurn task (.stored target)
        (jobUpdated task.jobId (finishedUpdate target).clearError (.ok (some job))) .settled
  | unfinished {target : String} {reply : JobReply} (unkept : ¬ Kept reply) :
      WorkTurn task (.stored target)
        (jobUpdated task.jobId (finishedUpdate target).clearError reply) .lost
  | failed {error : String} {reply : JobReply} :
      WorkTurn task .unstored
        (jobUpdated task.jobId (endingUpdate .failed "failed" error) reply) .lost
  | released : WorkTurn task .settled (released task.jobId) .complete
  | dropped : WorkTurn task .lost (released task.jobId) .cleaning
  | clean {reply : JobReply}
      (closed : ∀ job, reply = .ok (some job) → job.status.isTerminal = true) :
      WorkTurn task .cleaning (jobRead task.jobId reply) .complete
  | doubted {job : Job} (unfinished : job.status.isTerminal = false) :
      WorkTurn task .cleaning (jobRead task.jobId (.ok (some job))) .doubted
  | cleaned {error : String} {reply : JobReply} :
      WorkTurn task .doubted
        (jobUpdated task.jobId (endingUpdate .failed "failed" error) reply) .complete

/-- How the work up to the release ends: a finished record with a status, or a fault. -/
inductive WorkEnd : WorkStage → Except PipelineFault JobStatus → Prop
  | settled (status : JobStatus) : WorkEnd .settled (.ok status)
  | lost (fault : PipelineFault) : WorkEnd .lost (.error fault)

variable {task : RenderTask} {stage : WorkStage}

/-- No work at a task takes a job on. -/
theorem WorkTurn.ne_claim {stage' : WorkStage} {e : ServiceExchange}
    (h : WorkTurn task stage e stage') (id : String) : e.question ≠ .claim id := by
  intro hclaim
  cases h <;> cases hclaim

/-! ## Steps -/

/-- A step that moves the job on goes on with the new progress, or the work is lost. -/
theorem follows_advance {α : Type} {progress target : Nat} {status : JobStatus}
    {step : String} {mark : JobUpdate → JobUpdate} {f : Nat → PipelinePlan α}
    {ends : WorkStage → Except PipelineFault α → Prop}
    (moves : MovesOn (mark (.reaching status step (max progress target))) progress
      (max progress target))
    (next : (f (max progress target)).run.Follows (WorkTurn task) ends (.live (max progress target)))
    (lost : ∀ fault, ends .lost (.error fault)) :
    (advance task.jobId progress status step target mark >>= f).run.Follows (WorkTurn task) ends
      (.live progress) := by
  rw [follows_bind_run, advance, follows_bind_run, follows_updateJob]
  intro reply
  rcases reply with fault | _ | job
  · exact ⟨.lost, .stuck moves (not_kept_fault fault), lost _⟩
  · exact ⟨.lost, .stuck moves not_kept_missing, lost _⟩
  · exact ⟨.live _, .moved moves, next⟩

/-- Ending a live job with an error. -/
theorem follows_terminate {progress : Nat} {status : JobStatus} {step error : String}
    (bad : status = .failed ∨ status = .timeout) :
    (terminate task.jobId status step error).run.Follows (WorkTurn task) WorkEnd
      (.live progress) := by
  rw [terminate, follows_bind_run, follows_updateJob]
  intro reply
  rcases reply with fault | _ | job
  · exact ⟨.lost, .unended bad (not_kept_fault fault), .lost _⟩
  · exact ⟨.lost, .unended bad not_kept_missing, .lost _⟩
  · exact ⟨.settled, .ended bad, .settled _⟩

/-- Storing the video of a successful render. -/
theorem follows_finish {path : String} :
    (finish task.jobId path).run.Follows (WorkTurn task) WorkEnd (.filmed path) := by
  rw [finish, follows_bind_run, follows_lift_run]
  intro kept
  cases kept with
  | error fault =>
      refine ⟨.unstored, .unstored, ?_⟩
      change (terminate task.jobId .failed "failed" (notStoredMessage fault) >>= fun _ =>
        throw (.artifact fault) : PipelinePlan JobStatus).run.Follows _ _ _
      rw [follows_bind_run, terminate, follows_bind_run, follows_updateJob]
      intro reply
      rcases reply with _ | _ | job <;> exact ⟨.lost, .failed, .lost _⟩
  | ok target =>
      refine ⟨.stored target, .stored, ?_⟩
      change (PipelinePlan.updateJob task.jobId (finishedUpdate target).clearError >>= fun _ =>
        pure .done : PipelinePlan JobStatus).run.Follows _ _ _
      rw [follows_bind_run, follows_updateJob]
      intro reply
      rcases reply with fault | _ | job
      · exact ⟨.lost, .unfinished (not_kept_fault fault), .lost _⟩
      · exact ⟨.lost, .unfinished not_kept_missing, .lost _⟩
      · exact ⟨.settled, .finished, .settled _⟩

/-- A repair leaves the job where it is. -/
theorem follows_adoptRepair {α : Type} {progress : Nat} {code diagnostic : String}
    {f : String → PipelinePlan α} {ends : WorkStage → Except PipelineFault α → Prop}
    (next : ∀ code, (f code).run.Follows (WorkTurn task) ends (.live progress)) :
    ((monadLift (adoptRepair code diagnostic) : PipelinePlan String) >>= f).run.Follows
      (WorkTurn task) ends (.live progress) := by
  rw [follows_bind_run, follows_lift_run, adoptRepair, follows_bind]
  intro reply
  exact ⟨.live progress, .repaired, next _⟩

/-! ## The whole work -/

/-- **The attempts follow the turns** from a live job on. -/
theorem follows_attempts (retries attempt : Nat) (code : String) (progress : Nat) :
    (attempts task retries attempt code progress).run.Follows (WorkTurn task) WorkEnd
      (.live progress) := by
  have hvalidating : validatingProgress attempt ≤ 40 := Nat.min_le_right _ _
  have hinvalid : retryingValidationProgress attempt ≤ 80 := Nat.min_le_right _ _
  have hrendering : renderingProgress attempt ≤ 80 := Nat.min_le_right _ _
  have hfailed : retryingRuntimeProgress attempt ≤ 90 := Nat.min_le_right _ _
  induction retries using Nat.strongRecOn generalizing attempt code progress with
  | ind retries ih =>
      rw [attempts.eq_def]
      refine follows_advance ?_ ?_ (fun fault => .lost fault)
      · exact ⟨⟨_, rfl, rfl⟩, rfl, by omega, rfl⟩
      · cases valid : (Script.validate code).ok <;> simp only [valid]
        · -- wrong code: repaired while retries are left
          cases retries with
          | zero => exact follows_terminate (Or.inl rfl)
          | succ retries =>
              refine follows_advance ?_ ?_ (fun fault => .lost fault)
              · exact ⟨⟨_, rfl, rfl⟩, rfl, by omega, rfl⟩
              · exact follows_adoptRepair fun code =>
                  ih retries (by omega) _ code _ (Nat.min_le_right _ _) (Nat.min_le_right _ _)
                    (Nat.min_le_right _ _) (Nat.min_le_right _ _)
        · -- right code: rendered, and repaired when the render fails
          refine follows_advance ?_ ?_ (fun fault => .lost fault)
          · exact ⟨⟨_, rfl, rfl⟩, rfl, by omega, rfl⟩
          · rw [follows_bind_run, follows_lift_run]
            intro outcome
            cases outcome with
            | success path => exact ⟨.filmed path, .filmed, follows_finish⟩
            | timeout =>
                refine ⟨_, .unfilmed ?_, follows_terminate (Or.inr rfl)⟩
                intro path heq
                cases heq
            | failure diagnostic =>
                refine ⟨_, .unfilmed (fun path heq => by cases heq), follows_done.mpr ?_⟩
                cases retries with
                | zero => exact follows_terminate (Or.inl rfl)
                | succ retries =>
                    refine follows_advance ?_ ?_ (fun fault => .lost fault)
                    · exact ⟨⟨_, rfl, rfl⟩, rfl, by omega, rfl⟩
                    · exact follows_adoptRepair fun code =>
                        ih retries (by omega) _ code _ (Nat.min_le_right _ _)
                          (Nat.min_le_right _ _) (Nat.min_le_right _ _) (Nat.min_le_right _ _)

/-- Work at a task follows its turns. -/
theorem follows_workOff (maxRetries : Nat) (task : RenderTask) :
    (workOff maxRetries task).run.Follows (WorkTurn task) WorkEnd .begun := by
  rw [workOff, follows_bind_run, PipelinePlan.getJob, PipelinePlan.orFault]
  intro reply
  rcases reply with fault | _ | job
  · exact ⟨.lost, .unseen fault, .lost _⟩
  · exact ⟨.lost, .missing, .lost _⟩
  · cases terminal : job.status.isTerminal
    · refine ⟨.live job.progress, .found terminal, ?_⟩
      change Plan.Follows _ _ (ExceptT.run (if job.status.isTerminal then pure job.status
        else attempts task (retriesOf task maxRetries) 1 task.code job.progress)) _
      rw [terminal, if_neg Bool.false_ne_true]
      exact follows_attempts _ _ _ _
    · refine ⟨.settled, .closed terminal, ?_⟩
      change Plan.Follows _ _ (ExceptT.run (if job.status.isTerminal then pure job.status
        else attempts task (retriesOf task maxRetries) 1 task.code job.progress)) _
      rw [terminal, if_pos rfl]
      exact .settled _

/-- A clean-up follows the turns of the work. -/
theorem follows_failUnfinished (id : String) (cause : PipelineFault) (h : id = task.jobId) :
    (failUnfinished id cause).Follows (WorkTurn task) (fun stage _ => stage = .complete) .cleaning := by
  subst h
  rw [failUnfinished, follows_bind]
  intro reply
  rcases reply with fault | _ | job
  · exact ⟨.complete, .clean (fun job heq => by cases heq), rfl⟩
  · exact ⟨.complete, .clean (fun job heq => by cases heq), rfl⟩
  · cases terminal : job.status.isTerminal
    · refine ⟨.doubted, .doubted terminal, ?_⟩
      change Plan.Follows _ _ (if job.status.isTerminal then pure () else
        ServicePlan.updateJob task.jobId (failedUpdate cause.message) >>= fun _ => pure ()) _
      rw [terminal, if_neg Bool.false_ne_true, follows_bind]
      intro reply
      exact ⟨.complete, .cleaned, rfl⟩
    · refine ⟨.complete, .clean ?_, ?_⟩
      · rintro job' heq
        cases heq
        exact terminal
      · change Plan.Follows _ _ (if job.status.isTerminal then pure () else
          ServicePlan.updateJob task.jobId (failedUpdate cause.message) >>= fun _ => pure ()) _
        rw [terminal, if_pos rfl]
        rfl

/-- **Working a task off follows the turns** to their end. -/
theorem follows_process (maxRetries : Nat) (task : RenderTask) :
    (process maxRetries task).Follows (WorkTurn task) (fun stage _ => stage = .complete) .begun := by
  rw [process, follows_bind]
  refine (follows_workOff maxRetries task).mono fun stage result hend => ?_
  rw [follows_bind]
  intro release
  cases hend with
  | settled status => exact ⟨.complete, .released, rfl⟩
  | lost fault =>
      refine ⟨.cleaning, .dropped, ?_⟩
      change Plan.Follows _ _ (failUnfinished task.jobId fault >>= fun _ =>
        pure (Except.error fault : Except PipelineFault JobStatus)) _
      rw [follows_bind]
      exact follows_failUnfinished _ _ rfl

/-! ## Giving a job up -/

/-- Where the giving up of a job stands. -/
inductive AbandonStage where
  | begun
  | freed
  | complete

/-- One exchange of giving a job up: the job is let go, and its record is ended. -/
inductive AbandonTurn (id reason : String) :
    AbandonStage → ServiceExchange → AbandonStage → Prop
  | released : AbandonTurn id reason .begun (released id) .freed
  | ended (reply : JobReply) : AbandonTurn id reason .freed
      (jobUpdated id (endingUpdate .failed "failed" reason) reply) .complete

/-- To give a job up is not to take one on. -/
theorem AbandonTurn.ne_claim {id reason : String} {stage stage' : AbandonStage}
    {e : ServiceExchange} (h : AbandonTurn id reason stage e stage') (id' : String) :
    e.question ≠ .claim id' := by
  intro hclaim
  cases h <;> cases hclaim

/-- Abandoning a task follows its turns. -/
theorem follows_abandon (id reason : String) :
    (abandon id reason).run.Follows (AbandonTurn id reason) (fun stage _ => stage = .complete)
      .begun := by
  rw [abandon]
  refine follows_bind_run.mpr (follows_lift_run.mpr ?_)
  intro release
  refine ⟨.freed, .released, ?_⟩
  refine follows_bind_run.mpr (follows_bind_run.mpr (follows_updateJob.mpr ?_))
  intro reply
  rcases reply with fault | _ | job <;> exact ⟨.complete, .ended _, rfl⟩

end Pipeline

end SceneRender
