import SceneRender.Proofs.Pipeline.ProcessCourse
import SceneRender.Proofs.Pipeline.Screening
import SceneRender.Settings.Basic

/-!
# Progress never goes back

Four rules say how far a job has come in an attempt.  Each of them rises with the number of
the attempt, but they are asked for in an order that the renderer and the repair decide, so
that one rule may give less than another one gave before.  What is written is therefore the
largest value so far: `Rises` says so of a sequence of updates, `course_rises` that the
updates of any course of the work are such a sequence, whatever the stores reply.

The rules are computed in words of 32 bits, and the result is one of 8 bits.  None of them
leaves its words up to `Pipeline.lastExactAttempt` (`ProgressRule.targetInWords?_eq`), and the
settings allow only a few retries.
-/

namespace SceneRender

open Plan Pipeline ServiceExchange

/-! ## Updates among exchanges -/

/-- The update that an exchange asks for, whatever the store replies. -/
def ServiceExchange.update? : ServiceExchange → Option JobUpdate
  | ⟨.updateJob _ u, _⟩ => some u
  | _ => none

/-- The updates that are asked for, in order. -/
def updatesOf (h : List ServiceExchange) : List JobUpdate := h.filterMap update?

/-- The progress values of updates, in order. -/
def progressesOf (us : List JobUpdate) : List Nat := us.filterMap (·.progress)

/-! ## Rules in words -/

/-- A number as a word of some size, unless it is out of range. -/
def word? (size : Nat) (z : Int) : Option Nat :=
  if 0 ≤ z ∧ z.toNat < size then some z.toNat else none

/-- A small number is its word. -/
theorem word?_eq_some {size n : Nat} {z : Int} (hz : z = n) (hn : n < size) :
    word? size z = some n := by
  subst hz
  rw [word?, Int.toNat_natCast, if_pos ⟨Int.natCast_nonneg n, hn⟩]

/-- How far a job has come at a stage of an attempt: a base, and a slope for each attempt
after some first ones, up to a cap. -/
structure ProgressRule where
  status : JobStatus
  stage : String
  base : Nat
  before : Nat
  slope : Nat
  cap : Nat
  deriving DecidableEq, Repr

namespace ProgressRule

/-- The progress that a rule gives an attempt. -/
def target (rule : ProgressRule) (attempt : Nat) : Nat :=
  min (rule.base + (attempt - rule.before) * rule.slope) rule.cap

/-- The same in words: each step has 32 bits, the result has 8. -/
def targetInWords? (rule : ProgressRule) (attempt : Nat) : Option Nat := do
  let counted ← word? UInt32.size (attempt - rule.before)
  let risen ← word? UInt32.size (counted * rule.slope)
  let reached ← word? UInt32.size (rule.base + risen)
  word? UInt8.size (min reached rule.cap : Nat)

/-- An attempt validates its code. -/
def validating : ProgressRule := ⟨.validating, "validating", 10, 1, 10, 40⟩

/-- The code of an attempt was wrong. -/
def retryingValidation : ProgressRule := ⟨.retrying, "retrying_validation", 20, 0, 15, 80⟩

/-- An attempt renders. -/
def rendering : ProgressRule := ⟨.rendering, "rendering", 20, 1, 20, 80⟩

/-- The render of an attempt failed. -/
def retryingRuntime : ProgressRule := ⟨.retrying, "retrying_runtime", 40, 0, 20, 90⟩

/-- All rules. -/
def all : List ProgressRule := [validating, retryingValidation, rendering, retryingRuntime]

/-- Nothing is out of range where the numbers are small. -/
theorem targetInWords?_eq_of_small {rule : ProgressRule} {attempt : Nat}
    (hbefore : rule.before ≤ attempt) (hreached : rule.base + attempt * rule.slope < UInt32.size)
    (hcounted : attempt < UInt32.size) (hcap : rule.cap < UInt8.size) :
    rule.targetInWords? attempt = some (rule.target attempt) := by
  have hslope : (attempt - rule.before) * rule.slope ≤ attempt * rule.slope :=
    Nat.mul_le_mul_right _ (Nat.sub_le _ _)
  have hcountedWord : word? UInt32.size ((attempt : Int) - rule.before) =
      some (attempt - rule.before) :=
    word?_eq_some (Int.ofNat_sub hbefore).symm (by omega)
  have hrisenWord : word? UInt32.size (((attempt - rule.before : Nat) : Int) * rule.slope) =
      some ((attempt - rule.before) * rule.slope) :=
    word?_eq_some (Int.natCast_mul _ _).symm (by omega)
  have hreachedWord : word? UInt32.size ((rule.base : Int) +
      ((attempt - rule.before) * rule.slope : Nat)) =
      some (rule.base + (attempt - rule.before) * rule.slope) :=
    word?_eq_some (Int.natCast_add _ _).symm (by omega)
  rw [targetInWords?, hcountedWord]
  simp only [Option.bind_eq_bind, Option.bind_some]
  rw [hrisenWord, Option.bind_some, hreachedWord, Option.bind_some]
  exact word?_eq_some rfl (Nat.lt_of_le_of_lt (Nat.min_le_right _ _) hcap)

/-- **No rule leaves its words** up to the last exact attempt. -/
theorem targetInWords?_eq {rule : ProgressRule} (hrule : rule ∈ all) {attempt : Nat}
    (hfirst : 1 ≤ attempt) (hlast : attempt ≤ lastExactAttempt) :
    rule.targetInWords? attempt = some (rule.target attempt) := by
  have hword : lastExactAttempt < UInt32.size := by decide
  have hslope : attempt * rule.slope ≤ lastExactAttempt * rule.slope :=
    Nat.mul_le_mul_right _ hlast
  have hsmall : ∀ rule ∈ all, rule.before ≤ 1 ∧
      rule.base + lastExactAttempt * rule.slope < UInt32.size ∧ rule.cap < UInt8.size := by
    decide
  obtain ⟨hbefore, hreached, hcap⟩ := hsmall rule hrule
  exact targetInWords?_eq_of_small (by omega) (by omega) (by omega) hcap

/-- The settings allow no attempt beyond the last exact one. -/
theorem settled_attempt_exact : Settings.maxRetriesBound + 1 ≤ lastExactAttempt := by decide

/-- A rule is for a stage of unfinished jobs, and none of its values is full. -/
theorem unfinished :
    ∀ rule ∈ all, rule.status.isTerminal = false ∧ rule.cap < Job.fullProgress := by
  decide

/-- No rule gives full progress. -/
theorem target_lt {rule : ProgressRule} (hrule : rule ∈ all) (attempt : Nat) :
    rule.target attempt < Job.fullProgress :=
  Nat.lt_of_le_of_lt (Nat.min_le_right _ _) (unfinished rule hrule).2

end ProgressRule

/-! ## Rising updates -/

namespace JobUpdate

/-- The update moves a job on as a rule says, from a progress on. -/
structure MovedBy (u : JobUpdate) (rule : ProgressRule) (attempt before : Nat) : Prop where
  status : u.status = some rule.status
  stage : u.stage = some rule.stage
  progress : u.progress = some (max before (rule.target attempt))

/-- The update ends a record. -/
def EndsRecord (u : JobUpdate) : Prop :=
  ∃ status, u.status = some status ∧ status.isTerminal = true ∧ u.progress = some Job.fullProgress

end JobUpdate

/-- Updates that never take the progress back: some move the job on, in attempts up to a last
one, and those behind end it. -/
inductive Rises (last : Nat) : Nat → List JobUpdate → Prop
  | ended {progress : Nat} {us : List JobUpdate} (ends : ∀ u ∈ us, u.EndsRecord) :
      Rises last progress us
  | moved {progress attempt : Nat} {rule : ProgressRule} {u : JobUpdate} {us : List JobUpdate}
      (rules : rule ∈ ProgressRule.all) (first : 1 ≤ attempt) (counted : attempt ≤ last)
      (moves : u.MovedBy rule attempt progress)
      (rest : Rises last (max progress (rule.target attempt)) us) :
      Rises last progress (u :: us)

namespace Rises

variable {last progress : Nat} {us vs : List JobUpdate}

/-- The job may be ended once more. -/
theorem append_ended (h : Rises last progress us) (hvs : ∀ v ∈ vs, v.EndsRecord) :
    Rises last progress (us ++ vs) := by
  induction h with
  | ended ends =>
      exact .ended fun u hu => (List.mem_append.mp hu).elim (ends u) (hvs u)
  | moved rules first counted moves rest ih => exact .moved rules first counted moves ih

/-- Updates that end the record write full progress. -/
theorem progressesOf_ended (h : ∀ u ∈ us, u.EndsRecord) :
    ∀ p ∈ progressesOf us, p = Job.fullProgress := by
  intro p hp
  obtain ⟨u, hu, hprogress⟩ := List.mem_filterMap.mp hp
  obtain ⟨status, -, -, hfull⟩ := h u hu
  exact (Option.some.inj (hfull.symm.trans hprogress)).symm

/-- **The progress values do not fall.** -/
theorem pairwise (h : Rises last progress us) (hprogress : progress < Job.fullProgress) :
    (progress :: progressesOf us).Pairwise (· ≤ ·) := by
  induction h with
  | @ended progress us ends =>
      have hfull := progressesOf_ended ends
      refine List.pairwise_cons.mpr ⟨fun p hp => ?_, List.pairwise_of_forall_mem_list ?_⟩
      · rw [hfull p hp]
        exact Nat.le_of_lt hprogress
      · intro p hp q hq
        exact Nat.le_of_eq ((hfull p hp).trans (hfull q hq).symm)
  | @moved progress attempt rule u us rules first counted moves rest ih =>
      have hnext := ih (Nat.max_lt.mpr ⟨hprogress, ProgressRule.target_lt rules attempt⟩)
      rw [progressesOf, List.filterMap_cons_some moves.progress]
      refine List.pairwise_cons.mpr ⟨fun p hp => ?_, hnext⟩
      have hle : progress ≤ max progress (rule.target attempt) := Nat.le_max_left _ _
      rcases List.mem_cons.mp hp with rfl | hp
      · exact hle
      · exact Nat.le_trans hle ((List.pairwise_cons.mp hnext).1 p hp)

/-- **Every update ends the record, or is made by a rule** from the progress before it, which is
not full. -/
theorem cases_of_split {u : JobUpdate} (h : Rises last progress (us ++ u :: vs))
    (hprogress : progress < Job.fullProgress) :
    u.EndsRecord ∨ ∃ rule ∈ ProgressRule.all, ∃ attempt, 1 ≤ attempt ∧ attempt ≤ last ∧
      (progressesOf us).getLastD progress < Job.fullProgress ∧
      u.MovedBy rule attempt ((progressesOf us).getLastD progress) := by
  induction us generalizing progress with
  | nil =>
      cases h with
      | ended ends => exact Or.inl (ends u List.mem_cons_self)
      | moved rules first counted moves rest =>
          exact Or.inr ⟨_, rules, _, first, counted, hprogress, moves⟩
  | cons u' us ih =>
      cases h with
      | ended ends => exact Or.inl (ends u (by simp))
      | @moved _ attempt rule _ _ rules first counted moves rest =>
          rw [progressesOf, List.filterMap_cons_some moves.progress, List.getLastD_cons]
          exact ih rest (Nat.max_lt.mpr ⟨hprogress, ProgressRule.target_lt rules attempt⟩)

end Rises

/-! ## The work at a task -/

namespace Pipeline

variable {last progress attempt : Nat} {us : List JobUpdate}

/-- An update to a terminal status ends the record. -/
theorem endsRecord_endingUpdate {status : JobStatus} (h : status.isTerminal = true)
    (stage error : String) : (endingUpdate status stage error).EndsRecord :=
  ⟨status, rfl, h, rfl⟩

/-- The progress rises when an attempt validates. -/
theorem rises_validating (hfirst : 1 ≤ attempt) (hlast : attempt ≤ last)
    (rest : Rises last (validatedAt attempt progress) us) :
    Rises last progress (validatingUpdate attempt progress :: us) :=
  .moved (show ProgressRule.validating ∈ ProgressRule.all by decide) hfirst hlast
    ⟨rfl, rfl, rfl⟩ rest

/-- The progress rises when an attempt renders. -/
theorem rises_rendering (hfirst : 1 ≤ attempt) (hlast : attempt ≤ last)
    (rest : Rises last (renderedAt attempt progress) us) :
    Rises last (validatedAt attempt progress) (renderingUpdate attempt progress :: us) :=
  .moved (show ProgressRule.rendering ∈ ProgressRule.all by decide) hfirst hlast
    ⟨rfl, rfl, rfl⟩ rest

/-- The progress rises when the code of an attempt was wrong. -/
theorem rises_invalid (hfirst : 1 ≤ attempt) (hlast : attempt ≤ last) {message : String}
    (rest : Rises last (invalidAt attempt progress) us) :
    Rises last (validatedAt attempt progress) (invalidUpdate attempt progress message :: us) :=
  .moved (show ProgressRule.retryingValidation ∈ ProgressRule.all by decide) hfirst hlast
    ⟨rfl, rfl, rfl⟩ rest

/-- The progress rises when the render of an attempt failed. -/
theorem rises_failedRender (hfirst : 1 ≤ attempt) (hlast : attempt ≤ last) {diagnostic : String}
    (rest : Rises last (failedAt attempt progress) us) :
    Rises last (renderedAt attempt progress)
      (failedRenderUpdate attempt progress diagnostic :: us) :=
  .moved (show ProgressRule.retryingRuntime ∈ ProgressRule.all by decide) hfirst hlast
    ⟨rfl, rfl, rfl⟩ rest

/-- All updates at the end of the work end the record. -/
theorem endsRecord_finish {id path : String} {h : List ServiceExchange}
    {r : Except PipelineFault JobStatus} (hc : FinishCourse id path h r) :
    ∀ u ∈ updatesOf h, u.EndsRecord := by
  cases hc with
  | notStored fault reply =>
      intro u hu
      obtain rfl := List.mem_singleton.mp hu
      exact endsRecord_endingUpdate rfl _ _
  | stored target reply =>
      intro u hu
      obtain rfl := List.mem_singleton.mp hu
      exact ⟨.done, rfl, rfl, rfl⟩

/-- **The attempts let the progress rise.** -/
theorem attempts_rise {task : RenderTask} {retries : Nat} {code : String}
    {h : List ServiceExchange} {r : Except PipelineFault JobStatus}
    (hc : AttemptCourse task retries attempt code progress h r) (hfirst : 1 ≤ attempt)
    (hlast : attempt + retries ≤ last) : Rises last progress (updatesOf h) := by
  have hnothing {progress : Nat} : Rises last progress [] := .ended (List.forall_mem_nil _)
  have hending {progress : Nat} {status : JobStatus} (hstatus : status.isTerminal = true)
      (stage error : String) : Rises last progress [endingUpdate status stage error] :=
    .ended (List.forall_mem_singleton.mpr (endsRecord_endingUpdate hstatus stage error))
  induction hc with
  | lostBefore => exact rises_validating hfirst (by omega) hnothing
  | invalidEnd => exact rises_validating hfirst (by omega) (hending rfl _ _)
  | invalidLost =>
      exact rises_validating hfirst (by omega) (rises_invalid hfirst (by omega) hnothing)
  | invalidRetry _ _ _ _ _ ih =>
      exact rises_validating hfirst (by omega)
        (rises_invalid hfirst (by omega) (ih (by omega) (by omega)))
  | lostRendering =>
      exact rises_validating hfirst (by omega) (rises_rendering hfirst (by omega) hnothing)
  | success _ _ _ _ finished =>
      exact rises_validating hfirst (by omega)
        (rises_rendering hfirst (by omega) (.ended fun u hu => endsRecord_finish finished u hu))
  | timeout =>
      exact rises_validating hfirst (by omega)
        (rises_rendering hfirst (by omega) (hending rfl _ _))
  | failedEnd =>
      exact rises_validating hfirst (by omega)
        (rises_rendering hfirst (by omega) (hending rfl _ _))
  | failedLost =>
      exact rises_validating hfirst (by omega)
        (rises_rendering hfirst (by omega) (rises_failedRender hfirst (by omega) hnothing))
  | failedRetry _ _ _ _ _ _ _ ih =>
      exact rises_validating hfirst (by omega)
        (rises_rendering hfirst (by omega)
          (rises_failedRender hfirst (by omega) (ih (by omega) (by omega))))

/-- The record that the work begins with, where it finds one, has a progress. -/
def BeginsAt (task : RenderTask) (progress : Nat) (h : List ServiceExchange) : Prop :=
  ∀ job, h.head? = some (jobRead task.jobId (.ok (some job))) → job.progress = progress

/-- The progress rises along the work at a task. -/
theorem work_rises {maxRetries : Nat} {task : RenderTask} {h : List ServiceExchange}
    {r : Except PipelineFault JobStatus} (hc : WorkCourse maxRetries task h r)
    (hstart : BeginsAt task progress h) :
    Rises (retriesOf task maxRetries + 1) progress (updatesOf h) := by
  cases hc with
  | unseen | missing | closed => exact .ended (List.forall_mem_nil _)
  | @begun job live rest r attempted =>
      obtain rfl := hstart job rfl
      change Rises _ _ (updatesOf rest)
      exact attempts_rise attempted (Nat.le_refl 1) (Nat.le_of_eq (Nat.add_comm ..))

/-- All updates of a clean-up end the record. -/
theorem endsRecord_cleanup {id : String} {cause : PipelineFault} {h : List ServiceExchange}
    (hc : CleanupCourse id cause h) : ∀ u ∈ updatesOf h, u.EndsRecord := by
  cases hc with
  | unseen | missing | closed => exact List.forall_mem_nil _
  | ended live reply =>
      intro u hu
      obtain rfl := List.mem_singleton.mp hu
      exact ⟨.failed, rfl, rfl, rfl⟩

/-- **Whatever the stores reply, the progress rises** while a task is worked off, clean-up
included. -/
theorem course_rises {maxRetries : Nat} {task : RenderTask} {h : List ServiceExchange}
    {r : Except PipelineFault JobStatus} (hc : Course (process maxRetries task) h r)
    (hstart : BeginsAt task progress h) :
    Rises (retriesOf task maxRetries + 1) progress (updatesOf h) := by
  obtain ⟨work, cleanup, rfl, hwork, hend⟩ := course_process hc
  have hbegins : BeginsAt task progress work := by
    intro job hjob
    refine hstart job ?_
    rw [List.head?_append, hjob]
    rfl
  have hcleanup : ∀ u ∈ updatesOf cleanup, u.EndsRecord := by
    rcases hend with ⟨_, -, rfl⟩ | ⟨_, -, hclean⟩
    · exact List.forall_mem_nil _
    · exact endsRecord_cleanup hclean
  have hupdates : updatesOf (work ++ released task.jobId :: cleanup) =
      updatesOf work ++ updatesOf cleanup := List.filterMap_append
  rw [hupdates]
  exact (work_rises hwork hbegins).append_ended hcleanup

/-- Settings that pass the check allow few retries. -/
theorem retriesOf_le {settings : Settings} (h : settings.check = none) (task : RenderTask) :
    retriesOf task settings.render.maxRetries ≤ Settings.maxRetriesBound := by
  have hinvalid : settings.invalid = [] := List.head?_eq_none_iff.mp h
  rw [Settings.invalid, List.append_eq_nil_iff] at hinvalid
  have hmost : settings.render.maxRetries ≤ Settings.maxRetriesBound := by
    refine Nat.not_lt.mp fun hmore => ?_
    rw [if_pos hmore] at hinvalid
    cases hinvalid.2
  rw [retriesOf]
  split
  · exact Nat.le_trans (Nat.min_le_left _ _) hmost
  · exact Nat.zero_le _

/-- **Progress never goes back, and is full at the end only.**  Whatever is replied while a task
is worked off, the progress values that are written do not fall, nor are they less than that
of the record at the beginning.  An update with a final status has the full progress.  Any
other one has less: what was written before it, or what one of the four rules gives one of the
attempts, if this is more.  In none of these attempts does a rule leave its words, nor does
the number of the next attempt. -/
theorem progress_never_goes_back {settings : Settings} (hsettings : settings.check = none)
    {task : RenderTask} {h : List ServiceExchange} {r : Except PipelineFault JobStatus}
    (hc : Course (process settings.render.maxRetries task) h r) {start : Nat}
    (hunfinished : start < 100) (hstart : BeginsAt task start h) :
    (start :: progressesOf (updatesOf h)).Pairwise (· ≤ ·) ∧
    (∀ us u vs, updatesOf h = us ++ u :: vs → ∃ status progress,
      (∀ old now, (Job.apply old u now).status = status ∧
        (Job.apply old u now).progress = progress) ∧
      u.status = some status ∧ u.progress = some progress ∧
      (status.isTerminal = true → progress = 100) ∧
      (status.isTerminal = false → progress < 100 ∧ ∃ attempt, 1 ≤ attempt ∧
        attempt ≤ retriesOf task settings.render.maxRetries + 1 ∧ ∃ target ∈
          [validatingProgress attempt, retryingValidationProgress attempt,
            renderingProgress attempt, retryingRuntimeProgress attempt],
          progress = max ((progressesOf us).getLastD start) target)) ∧
    ∀ attempt, 1 ≤ attempt → attempt ≤ retriesOf task settings.render.maxRetries + 1 →
      ProgressRule.validating.targetInWords? attempt = some (validatingProgress attempt) ∧
      ProgressRule.retryingValidation.targetInWords? attempt =
        some (retryingValidationProgress attempt) ∧
      ProgressRule.rendering.targetInWords? attempt = some (renderingProgress attempt) ∧
      ProgressRule.retryingRuntime.targetInWords? attempt =
        some (retryingRuntimeProgress attempt) ∧
      word? UInt32.size (attempt + 1) = some (attempt + 1) := by
  have hrises := course_rises hc hstart
  refine ⟨hrises.pairwise hunfinished, fun us u vs hsplit => ?_, fun attempt hfirst hlast => ?_⟩
  · rw [hsplit] at hrises
    rcases hrises.cases_of_split hunfinished with ⟨status, hstatus, hterminal, hfull⟩ |
      ⟨rule, hrule, attempt, hfirst, hlast, hbefore, hmoves⟩
    · refine ⟨status, 100, fun old now => ?_, hstatus, hfull, fun _ => rfl, fun hlive => ?_⟩
      · simp [Job.apply, hstatus, hfull, Job.fullProgress]
      · rw [hterminal] at hlive
        cases hlive
    · have hless := Nat.max_lt.mpr ⟨hbefore, ProgressRule.target_lt hrule attempt⟩
      refine ⟨rule.status, _, fun old now => ?_, hmoves.status, hmoves.progress,
        fun hterminal => ?_,
        fun _ => ⟨hless, attempt, hfirst, hlast, rule.target attempt, ?_, rfl⟩⟩
      · simp only [Job.apply, hmoves.status, hmoves.progress, Option.getD_some, Option.map_some]
        exact ⟨trivial, Nat.min_eq_left (Nat.le_of_lt hless)⟩
      · rw [(ProgressRule.unfinished rule hrule).1] at hterminal
        cases hterminal
      · exact List.mem_map_of_mem (f := (ProgressRule.target · attempt)) hrule
  · have hfew := retriesOf_le hsettings task
    have hexact : attempt ≤ lastExactAttempt := by
      have := ProgressRule.settled_attempt_exact
      omega
    have hwords (rule : ProgressRule) (hrule : rule ∈ ProgressRule.all) :=
      ProgressRule.targetInWords?_eq hrule hfirst hexact
    have hword : lastExactAttempt + 1 < UInt32.size := by decide
    exact ⟨hwords .validating (by decide), hwords .retryingValidation (by decide),
      hwords .rendering (by decide), hwords .retryingRuntime (by decide),
      word?_eq_some (Int.natCast_add _ _).symm (by omega)⟩

/-- A task without any code. -/
def codelessTask : RenderTask := ⟨"job_1", "", .low, true⟩

/-- A crew that repairs nothing. -/
def helplessCrew : Crew := CrewScript.crew {} "spool" (fun _ => "job_2") (fun _ => default)

/-- The second and the third attempt validate at the progress that the failure of the one before
had reached. -/
theorem codeless_progress :
    Settings.default.check = none ∧ 0 < 100 ∧
    ∃ h r, Course (process Settings.default.render.maxRetries codelessTask) h r ∧
      BeginsAt codelessTask 0 h ∧
      progressesOf (updatesOf h) = [10, 35, 35, 50, 50, 100] ∧
      (0 :: progressesOf (updatesOf h)).Pairwise (· ≤ ·) := by
  have hcheck : Settings.default.check = none := by decide +kernel
  have hcourse := course_transcript (Studio.reply helplessCrew)
    (process Settings.default.render.maxRetries codelessTask) emptySceneStudio
  have hbegins : BeginsAt codelessTask 0 ((process Settings.default.render.maxRetries
      codelessTask).transcript (Studio.reply helplessCrew) emptySceneStudio) := by
    intro job hjob
    cases hjob
    rfl
  have hvalues : progressesOf (updatesOf ((process Settings.default.render.maxRetries
      codelessTask).transcript (Studio.reply helplessCrew) emptySceneStudio)) =
      [10, 35, 35, 50, 50, 100] := by decide +kernel
  exact ⟨hcheck, by decide, _, _, hcourse, hbegins, hvalues,
    (progress_never_goes_back hcheck hcourse (by decide) hbegins).1⟩

end Pipeline

end SceneRender
