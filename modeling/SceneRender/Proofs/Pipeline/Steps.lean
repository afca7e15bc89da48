import SceneRender.Proofs.Pipeline.ProcessCourse
import SceneRender.Proofs.Stages

/-!
# Single steps of the pipeline

The exchanges of a submission by name, and how a plan in stages goes through one
question of the pipeline: the reply leads to the next stage, and a fault in it is the
end.
-/

namespace SceneRender

open Plan

namespace ServiceExchange

/-- The making of a job. -/
def jobMade (reply : Except StoreFault Job) : ServiceExchange := ⟨.createJob, reply⟩

/-- The look for the job that is known for an input. -/
def knownJob (print : String) (reply : Option String) : ServiceExchange :=
  ⟨.lookUp .render print, reply⟩

/-- The remembering of the job of an input. -/
def jobRemembered (print id : String) : ServiceExchange := ⟨.remember .render print id, ()⟩

/-- The look for a video. -/
def videoSought (id : String) (reply : Except ArtifactFault (Option String)) : ServiceExchange :=
  ⟨.findVideo id, reply⟩

/-- The copying of a video. -/
def videoCloned (source target : String) (reply : Except ArtifactFault (Option String)) :
    ServiceExchange :=
  ⟨.cloneVideo source target, reply⟩

/-- The test whether a job is being worked on here. -/
def ownershipTested (id : String) (reply : Bool) : ServiceExchange := ⟨.owns id, reply⟩

/-- The moment from which a job is being worked on here. -/
def jobClaimed (id : String) : ServiceExchange := ⟨.claim id, ()⟩

end ServiceExchange

namespace Pipeline

open ServiceExchange

variable {τ : Type} {turn : τ → ServiceExchange → τ → Prop} {stage : τ}

/-- An update of a job, with what the pipeline makes of the reply. -/
theorem follows_updateJob {ends : τ → Except PipelineFault Job → Prop} {id : String}
    {u : JobUpdate} :
    (PipelinePlan.updateJob id u).run.Follows turn ends stage ↔
      ∀ reply, ∃ stage', turn stage (jobUpdated id u reply) stage' ∧
        ends stage' (recordOf id reply) := by
  rw [PipelinePlan.updateJob, follows_bind_run, PipelinePlan.orFault]
  constructor
  · intro h reply
    obtain ⟨stage', hturn, hend⟩ := h reply
    rcases reply with fault | _ | job <;> exact ⟨stage', hturn, hend⟩
  · intro h reply
    obtain ⟨stage', hturn, hend⟩ := h reply
    rcases reply with fault | _ | job <;> exact ⟨stage', hturn, hend⟩

/-- The making of a job. -/
theorem follows_createJob {ends : τ → Except PipelineFault Job → Prop} :
    PipelinePlan.createJob.run.Follows turn ends stage ↔
      ∀ reply, ∃ stage', turn stage (jobMade reply) stage' ∧ ends stage' (reply.mapError .store) := by
  constructor
  · intro h reply
    obtain ⟨stage', hturn, hend⟩ := h reply
    rcases reply with fault | job <;> exact ⟨stage', hturn, hend⟩
  · intro h reply
    obtain ⟨stage', hturn, hend⟩ := h reply
    rcases reply with fault | job <;> exact ⟨stage', hturn, hend⟩

end Pipeline

end SceneRender
