import SceneRender.Proofs.Job.Records
import SceneRender.Proofs.Pipeline.Steps
import SceneRender.Proofs.Runs

/-!
# The work does not look at the clock

A plan need not look at all of a reply.  Two plans are *alike* if they ask the same
questions for as long as they get replies that are alike, and then end with answers that
are related.  That a plan is alike to itself says that it does not tell such replies apart.

Plans that are alike can be run side by side (`Plan.Alike.runs`): if what holds of the two
states makes the replies alike, and is kept by the exchanges, then the answers are related
and it holds of the states in which the runs end.

Of what the job store says, the work at a task looks at whether the job is there, at its
status and at its progress, and at nothing that a clock had a part in.  So two replies that
differ in their moments only are alike to it (`JobReplyAlike`), and `alike_process` says
that the work goes on in the same way after them and ends with the same answer.
-/

namespace SceneRender

/-! ## Plans that do not look at everything -/

namespace Plan

variable {V : Vocabulary} {α α' β β' ε σ σ' : Type}
  {alike : ∀ q : V.Question, V.Reply q → V.Reply q → Prop}

/-- The plans ask the same questions after replies that are alike, and answer as related. -/
inductive Alike (alike : ∀ q : V.Question, V.Reply q → V.Reply q → Prop)
    (answers : α → α' → Prop) : Plan V α → Plan V α' → Prop
  | done {a : α} {a' : α'} (related : answers a a') : Alike alike answers (.done a) (.done a')
  | ask {q : V.Question} {next : V.Reply q → Plan V α} {next' : V.Reply q → Plan V α'}
      (rest : ∀ r r', alike q r r' → Alike alike answers (next r) (next' r')) :
      Alike alike answers (.ask q next) (.ask q next')

/-- How answers are related that may be faults: the faults are the same. -/
def OrFault (answers : α → α' → Prop) : Except ε α → Except ε α' → Prop
  | .ok a, .ok a' => answers a a'
  | .error e, .error e' => e = e'
  | _, _ => False

variable {answers : α → α' → Prop} {answers' : β → β' → Prop}

/-- One plan after another. -/
theorem Alike.bind {p : Plan V α} {p' : Plan V α'} {f : α → Plan V β} {f' : α' → Plan V β'}
    (h : p.Alike alike answers p')
    (hf : ∀ a a', answers a a' → (f a).Alike alike answers' (f' a')) :
    (p >>= f).Alike alike answers' (p' >>= f') := by
  induction h with
  | done related => exact hf _ _ related
  | ask rest ih => exact .ask ih

/-- With faults, the second plans count only where the first ones end well. -/
theorem Alike.bind_run {x : ExceptT ε (Plan V) α} {x' : ExceptT ε (Plan V) α'}
    {f : α → ExceptT ε (Plan V) β} {f' : α' → ExceptT ε (Plan V) β'}
    (h : x.run.Alike alike (OrFault answers) x'.run)
    (hf : ∀ a a', answers a a' → (f a).run.Alike alike (OrFault answers') (f' a').run) :
    (x >>= f).run.Alike alike (OrFault answers') (x' >>= f').run := by
  rw [ExceptT.run_bind, ExceptT.run_bind]
  refine h.bind ?_
  rintro (e | a) (e' | a') hrelated
  · exact .done hrelated
  · cases hrelated
  · cases hrelated
  · exact hf a a' hrelated

/-- A plan without faults, taken as one that may have them. -/
theorem Alike.lift_run {p : Plan V α} {p' : Plan V α'} (h : p.Alike alike answers p') :
    (monadLift p : ExceptT ε (Plan V) α).run.Alike alike (OrFault answers)
      (monadLift p' : ExceptT ε (Plan V) α').run := by
  change (p.andThen fun a => .done (.ok a)).Alike alike (OrFault answers)
    (p'.andThen fun a => .done (.ok a))
  exact h.bind fun _ _ hrelated => .done hrelated

/-- **Side by side.**  What holds of two states makes the replies alike and is kept: then
the runs of plans that are alike end in states of which it holds, with related answers. -/
theorem Alike.runs {p : Plan V α} {p' : Plan V α'} {s s' : σ} {t t' : σ'}
    {a : α} {a' : α'} {exchange : σ → Answered V → σ → Prop}
    {exchange' : σ' → Answered V → σ' → Prop} {fact : σ → σ' → Prop}
    (h : p.Alike alike answers p') (hrun : Runs exchange p s a s')
    (hrun' : Runs exchange' p' t a' t') (hst : fact s t)
    (hstep : ∀ {q r r' s s' t t'}, exchange s ⟨q, r⟩ s' → exchange' t ⟨q, r'⟩ t' → fact s t →
      alike q r r' ∧ fact s' t') :
    answers a a' ∧ fact s' t' := by
  induction h generalizing s t with
  | done related =>
      obtain ⟨rfl, rfl⟩ := runs_done.mp hrun
      obtain ⟨rfl, rfl⟩ := runs_done.mp hrun'
      exact ⟨related, hst⟩
  | ask rest ih =>
      obtain ⟨r, middle, hfirst, hrest⟩ := runs_ask.mp hrun
      obtain ⟨r', middle', hfirst', hrest'⟩ := runs_ask.mp hrun'
      obtain ⟨halike, hmiddle⟩ := hstep hfirst hfirst' hst
      exact ih r r' halike hrest hrest' hmiddle

end Plan

/-! ## The work at a task -/

open Plan

namespace Pipeline

/-- Two replies of the job store that differ in moments only. -/
inductive JobReplyAlike : JobReply → JobReply → Prop
  | fault (fault : StoreFault) : JobReplyAlike (.error fault) (.error fault)
  | missing : JobReplyAlike (.ok none) (.ok none)
  | found {job job' : Job} (same : job.undated = job'.undated) :
      JobReplyAlike (.ok (some job)) (.ok (some job'))

/-- Two replies to a question that differ in moments only. -/
def ReplyAlike : (q : ServiceQuestion) → q.Reply → q.Reply → Prop
  | .getJob _, r, r' | .updateJob _ _, r, r' => JobReplyAlike r r'
  | _, r, r' => r = r'

/-- The plans go on in the same way after replies that differ in moments only. -/
abbrev PlansAlike {α : Type} (answers : α → α → Prop) (p p' : ServicePlan α) : Prop :=
  p.Alike (V := serviceVocabulary) ReplyAlike answers p'

/-- The plan goes on in the same way after such replies, and so ends in the same way. -/
abbrev Undated {α : Type} (x : PipelinePlan α) : Prop :=
  PlansAlike (OrFault (· = ·)) x.run x.run

variable {id : String}

/-! ## Steps -/

/-- Of the reply to an update, only that there is a record is looked at. -/
theorem alike_updateJob (u : JobUpdate) :
    PlansAlike (OrFault fun _ _ => True) (PipelinePlan.updateJob id u).run
      (PipelinePlan.updateJob id u).run := by
  refine .ask fun r r' h => ?_
  cases h with
  | fault fault => exact .done rfl
  | missing => exact .done rfl
  | found same => exact .done trivial

/-- A plan that goes on without the record after an update. -/
theorem undated_updateJob_bind {α : Type} {u : JobUpdate} {x : PipelinePlan α} (h : Undated x) :
    Undated (PipelinePlan.updateJob id u >>= fun _ => x) :=
  (alike_updateJob u).bind_run fun _ _ _ => h

/-- An answer without questions reads no dates. -/
theorem undated_pure {α : Type} (a : α) : Undated (pure a : PipelinePlan α) := .done rfl

/-- Moving a job on reads no dates. -/
theorem undated_advance (progress target : Nat) (status : JobStatus) (stage : String)
    (mark : JobUpdate → JobUpdate) : Undated (advance id progress status stage target mark) :=
  undated_updateJob_bind (undated_pure _)

/-- Ending a job reads no dates. -/
theorem undated_terminate (status : JobStatus) (stage error : String) :
    Undated (terminate id status stage error) :=
  undated_updateJob_bind (undated_pure _)

/-- A plan and its sequel read no dates if both read none. -/
theorem Undated.bind {α β : Type} {x : PipelinePlan α} {f : α → PipelinePlan β} (h : Undated x)
    (hf : ∀ a, Undated (f a)) : Undated (x >>= f) :=
  h.bind_run fun a a' heq => by rw [← heq]; exact hf a

/-- A question whose reply holds no moment, with what follows. -/
theorem undated_ask {α : Type} {q : ServiceQuestion} {next : q.Reply → ServicePlan α}
    (hq : ∀ r r', ReplyAlike q r r' → r = r') (h : ∀ r, PlansAlike (· = ·) (next r) (next r)) :
    Undated (monadLift (Plan.ask (V := serviceVocabulary) q next) : PipelinePlan α) :=
  Alike.lift_run (.ask fun r r' hr => by rw [← hq r r' hr]; exact h r)

/-- A repair reads no dates. -/
theorem undated_adoptRepair (code diagnostic : String) :
    Undated (monadLift (adoptRepair code diagnostic) : PipelinePlan String) :=
  undated_ask (fun _ _ h => h) fun _ => .done rfl

/-- Finishing a job reads no dates. -/
theorem undated_finish (path : String) : Undated (finish id path) := by
  refine Undated.bind (undated_ask (fun _ _ h => h) fun _ => .done rfl) ?_
  rintro (fault | target)
  · exact (undated_terminate _ _ _).bind fun _ => .done rfl
  · exact undated_updateJob_bind (undated_pure _)

/-! ## The whole work -/

/-- The attempts read no dates. -/
theorem undated_attempts (task : RenderTask) (retries attempt : Nat) (code : String)
    (progress : Nat) : Undated (attempts task retries attempt code progress) := by
  induction retries using Nat.strongRecOn generalizing attempt code progress with
  | ind retries ih =>
      rw [attempts.eq_def]
      refine (undated_advance _ _ _ _ _).bind fun progress => ?_
      cases valid : (Script.validate code).ok <;> simp only [valid]
      · -- wrong code: repaired while retries are left
        cases retries with
        | zero => exact undated_terminate _ _ _
        | succ retries =>
            refine (undated_advance _ _ _ _ _).bind fun progress => ?_
            exact (undated_adoptRepair _ _).bind fun code => ih retries (by omega) _ _ _
      · -- right code: rendered, and repaired when the render fails
        refine (undated_advance _ _ _ _ _).bind fun progress => ?_
        refine Undated.bind (undated_ask (fun _ _ h => h) fun _ => .done rfl) ?_
        rintro (path | _ | diagnostic)
        · exact undated_finish path
        · exact undated_terminate _ _ _
        · cases retries with
          | zero => exact undated_terminate _ _ _
          | succ retries =>
              refine (undated_advance _ _ _ _ _).bind fun progress => ?_
              exact (undated_adoptRepair _ _).bind fun code => ih retries (by omega) _ _ _

/-- Work at a task reads no dates. -/
theorem undated_workOff (n : Nat) (task : RenderTask) : Undated (workOff n task) := by
  refine .ask fun r r' h => ?_
  cases h with
  | fault fault => exact .done rfl
  | missing => exact .done rfl
  | @found job job' same =>
      have hstatus : job'.status = job.status := (congrArg Job.status same).symm
      have hprogress : job'.progress = job.progress := (congrArg Job.progress same).symm
      change PlansAlike _ (ExceptT.run (if job.status.isTerminal then pure job.status
          else attempts task (retriesOf task n) 1 task.code job.progress))
        (ExceptT.run (if job'.status.isTerminal then pure job'.status
          else attempts task (retriesOf task n) 1 task.code job'.progress))
      rw [hstatus, hprogress]
      split
      · exact undated_pure _
      · exact undated_attempts _ _ _ _ _

/-- A clean-up is the same whatever the dates. -/
theorem alike_failUnfinished (id : String) (cause : PipelineFault) :
    PlansAlike (· = ·) (failUnfinished id cause) (failUnfinished id cause) := by
  refine .ask fun r r' h => ?_
  cases h with
  | fault fault => exact .done rfl
  | missing => exact .done rfl
  | @found job job' same =>
      have hstatus : job'.status = job.status := (congrArg Job.status same).symm
      change PlansAlike _ (if job.status.isTerminal then pure () else
          ServicePlan.updateJob id (failedUpdate cause.message) >>= fun _ => pure ())
        (if job'.status.isTerminal then pure () else
          ServicePlan.updateJob id (failedUpdate cause.message) >>= fun _ => pure ())
      rw [hstatus]
      split
      · exact .done rfl
      · exact .ask fun _ _ _ => .done rfl

/-- **The work at a task goes on in the same way after replies that differ in moments
only**, and ends with the same answer. -/
theorem alike_process (n : Nat) (task : RenderTask) :
    PlansAlike (· = ·) (process n task) (process n task) := by
  refine Alike.bind (undated_workOff n task) ?_
  rintro (fault | status) (fault' | status') hrelated
  · obtain rfl : fault = fault' := hrelated
    refine .ask fun _ _ _ => ?_
    exact (alike_failUnfinished task.jobId fault).bind fun _ _ _ => .done rfl
  · cases hrelated
  · cases hrelated
  · obtain rfl : status = status' := hrelated
    exact .ask fun _ _ _ => .done rfl

end Pipeline

end SceneRender
