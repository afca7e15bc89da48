import SceneRender.Proofs.Pipeline.Exchanges
import SceneRender.Proofs.Pipeline.Screening

/-!
# The cycles of a task

While the stores serve it, a task is worked off in cycles.  A cycle looks at the
current code, renders it if it is valid, and either ends the job or has the code
repaired for the next cycle.  `CycleLaw` says exactly what is recorded, rendered and
repaired on the way, and how many cycles there can be.

`AttemptCourse.cycles` proves the law for the attempts of every course, one cycle
after the other, and `process_cycles` for every run in a studio.
-/

namespace SceneRender

open Plan

open ServiceExchange

namespace Pipeline

/-! ## Cycles -/

/-- Code that was looked at, with the outcome of its render if it was valid. -/
structure Cycle where
  code : String
  outcome : Option RenderOutcome

/-- Where a record says that its job stands. -/
def standing (job : Job) : JobStatus × String := (job.status, job.stage)

namespace Cycle

/-- How the records of a cycle begin. -/
def begun (c : Cycle) : List (JobStatus × String) :=
  (.validating, "validating") :: if c.outcome.isSome then [(.rendering, "rendering")] else []

/-- The diagnostic of a cycle that went wrong. -/
def diagnostic? (c : Cycle) : Option String :=
  match c.outcome with
  | none => some (invalidMessage (Script.validate c.code))
  | some (.failure diagnostic) => some diagnostic
  | some .timeout | some (.success _) => none

/-- The records of a cycle that is followed by another one. -/
def retried (c : Cycle) : List (JobStatus × String) :=
  c.begun ++
    [(.retrying, if c.outcome.isSome then "retrying_runtime" else "retrying_validation")]

/-- The status with which a cycle ends its job. -/
def endStatus (c : Cycle) : JobStatus :=
  match c.outcome with
  | none | some (.failure _) => .failed
  | some .timeout => .timeout
  | some (.success _) => .done

/-- The stage with which a cycle ends its job. -/
def endStage (c : Cycle) : String :=
  match c.outcome with
  | none => "validation"
  | some (.failure _) => "failed"
  | some .timeout => "timeout"
  | some (.success _) => "done"

/-- The records of the last cycle. -/
def ended (c : Cycle) : List (JobStatus × String) := c.begun ++ [(c.endStatus, c.endStage)]

/-- The calls of the renderer in a cycle: at most one. -/
def renders (task : RenderTask) (c : Cycle) :
    List (String × String × Quality × RenderOutcome) :=
  c.outcome.toList.map fun outcome => (task.jobId, c.code, task.quality, outcome)

end Cycle

/-- A cycle that went wrong, with what its code was repaired to. -/
structure Retry extends Cycle where
  diagnostic : String
  repair : String

/-- The call of the repair after a cycle. -/
def Retry.repairCall (r : Retry) : String × String × String := (r.code, r.diagnostic, r.repair)

/-- The errors that the retrying records show. -/
def retryErrors (h : List ServiceExchange) : List (Option String) :=
  ((recordsOf h).filter (·.status == .retrying)).map (·.error)

/-- The errors of retries follow each other. -/
theorem retryErrors_append (h h' : List ServiceExchange) :
    retryErrors (h ++ h') = retryErrors h ++ retryErrors h' := by
  simp [retryErrors]

/-! ## The law of cycles -/

/-- What one cycle does that is followed by another one. -/
structure RetryLaw (task : RenderTask) (start : String) (h : List ServiceExchange) (r : Retry) :
    Prop where
  code : r.code = start
  validated : (Script.validate r.code).ok = r.outcome.isSome
  failed : r.diagnostic? = some r.diagnostic
  records : (recordsOf h).map standing = r.retried
  errors : retryErrors h = [some r.diagnostic]
  renders : rendersOf h = r.renders task
  repairs : repairsOf h = [r.repairCall]

/-- **The law of cycles**: from some code on and with a budget of cycles, exchanges
that end with some result are those of the retries, followed by those of the last
cycle. -/
structure CycleLaw (task : RenderTask) (start : String) (budget : Nat)
    (h : List ServiceExchange) (result : Except PipelineFault JobStatus)
    (retries : List Retry) (last : Cycle) : Prop where
  /-- The last cycle decides the result. -/
  result : result = .ok last.endStatus
  /-- Each cycle has the current code. -/
  codes : retries.map (·.code) ++ [last.code] = (retries.map (·.repair)).scanl adopted start
  /-- Code is rendered exactly if it is valid. -/
  validated : ∀ c ∈ retries.map (·.toCycle) ++ [last],
    (Script.validate c.code).ok = c.outcome.isSome
  /-- Every cycle but the last went wrong, with the diagnostic that it is repaired by. -/
  failed : ∀ r ∈ retries, r.diagnostic? = some r.diagnostic
  /-- The records are those of the cycles. -/
  records : (recordsOf h).map standing = retries.flatMap (·.retried) ++ last.ended
  /-- The retrying records show the diagnostics. -/
  errors : retryErrors h = retries.map fun r => some r.diagnostic
  /-- The renderer is called by the cycles only. -/
  renders : rendersOf h = (retries.map (·.toCycle) ++ [last]).flatMap (·.renders task)
  /-- The repair is called once after each cycle but the last. -/
  repairs : repairsOf h = retries.map (·.repairCall)
  /-- The cycles keep to the budget. -/
  inBudget : retries.length + 1 ≤ budget
  /-- A job fails only when the budget is used up. -/
  usedUp : last.endStatus = .failed → retries.length + 1 = budget

variable {task : RenderTask} {start : String} {budget : Nat} {h : List ServiceExchange}
  {result : Except PipelineFault JobStatus}

/-- The last cycle alone keeps the law. -/
theorem CycleLaw.last {c : Cycle} (inBudget : 1 ≤ budget)
    (result_eq : result = .ok c.endStatus)
    (code : c.code = start) (validated : (Script.validate c.code).ok = c.outcome.isSome)
    (records : (recordsOf h).map standing = c.ended) (errors : retryErrors h = [])
    (renders : rendersOf h = c.renders task) (repairs : repairsOf h = [])
    (usedUp : c.endStatus = .failed → budget = 1) :
    CycleLaw task start budget h result [] c where
  result := result_eq
  codes := by simp [code]
  validated := by simpa using validated
  failed := by simp
  records := by simpa using records
  errors := by simpa using errors
  renders := by simpa using renders
  repairs := by simpa using repairs
  inBudget := by simpa using inBudget
  usedUp := fun hfailed => (usedUp hfailed).symm

/-- **One cycle more** before a run that keeps the law, from the repaired code on and
with one cycle less, keeps the law. -/
theorem CycleLaw.cons {first : List ServiceExchange} {r : Retry} {retries : List Retry}
    {last : Cycle} (hfirst : RetryLaw task start first r)
    (hrest : CycleLaw task (adopted start r.repair) budget h result retries last) :
    CycleLaw task start (budget + 1) (first ++ h) result (r :: retries) last where
  result := hrest.result
  codes := by
    rw [List.map_cons, List.cons_append, hrest.codes, List.map_cons, List.scanl_cons, hfirst.code]
  validated := by
    intro c hc
    rcases List.mem_cons.mp hc with rfl | hc
    · exact hfirst.validated
    · exact hrest.validated c hc
  failed := by
    intro r' hr
    rcases List.mem_cons.mp hr with rfl | hr
    · exact hfirst.failed
    · exact hrest.failed r' hr
  records := by
    rw [recordsOf_append, List.map_append, hfirst.records, hrest.records, List.flatMap_cons,
      List.append_assoc]
  errors := by
    rw [retryErrors_append, hfirst.errors, hrest.errors, List.map_cons, List.singleton_append]
  renders := by
    rw [rendersOf_append, hfirst.renders, hrest.renders, List.map_cons, List.cons_append,
      List.flatMap_cons]
  repairs := by
    rw [repairsOf_append, hfirst.repairs, hrest.repairs, List.map_cons, List.singleton_append]
  inBudget := by
    rw [List.length_cons]
    exact Nat.succ_le_succ hrest.inBudget
  usedUp := fun hfailed => by rw [List.length_cons, hrest.usedUp hfailed]

/-! ## The attempts -/

/-- A cycle with wrong code, up to its repair. -/
theorem retryLaw_invalid {attempt progress : Nat} {code repair : String} {old old' : Job}
    {now now' : Timestamp} (wrong : (Script.validate code).ok = false) :
    RetryLaw task code
      [jobUpdated task.jobId (validatingUpdate attempt progress)
          (.ok (some (old.apply (validatingUpdate attempt progress) now))),
        jobUpdated task.jobId
          (invalidUpdate attempt progress (invalidMessage (Script.validate code)))
          (.ok (some (old'.apply
            (invalidUpdate attempt progress (invalidMessage (Script.validate code))) now'))),
        repaired code (invalidMessage (Script.validate code)) repair]
      ⟨⟨code, none⟩, invalidMessage (Script.validate code), repair⟩ :=
  ⟨rfl, wrong, rfl, rfl, rfl, rfl, rfl⟩

/-- A cycle whose render failed, up to its repair. -/
theorem retryLaw_failed {attempt progress : Nat} {code diagnostic repair : String}
    {old old' old'' : Job} {now now' now'' : Timestamp}
    (right : (Script.validate code).ok = true) :
    RetryLaw task code
      [jobUpdated task.jobId (validatingUpdate attempt progress)
          (.ok (some (old.apply (validatingUpdate attempt progress) now))),
        jobUpdated task.jobId (renderingUpdate attempt progress)
          (.ok (some (old'.apply (renderingUpdate attempt progress) now'))),
        rendered task.jobId code task.quality (.failure diagnostic),
        jobUpdated task.jobId (failedRenderUpdate attempt progress diagnostic)
          (.ok (some (old''.apply (failedRenderUpdate attempt progress diagnostic) now''))),
        repaired code diagnostic repair]
      ⟨⟨code, some (.failure diagnostic)⟩, diagnostic, repair⟩ :=
  ⟨rfl, right, rfl, rfl, rfl, rfl, rfl⟩

/-- **The attempts keep the law** in every course in which updates are carried out
and videos are stored. -/
theorem AttemptCourse.cycles {retries attempt : Nat} {code : String} {progress : Nat}
    (hc : AttemptCourse task retries attempt code progress h result)
    (carriedOut : ∀ e ∈ h, e.CarriedOut) :
    ∃ rs last, CycleLaw task code (retries + 1) h result rs last := by
  induction hc with
  | lostBefore lost =>
      obtain ⟨⟨old, now, rfl⟩, -⟩ := List.forall_mem_cons.mp carriedOut
      cases lost
  | invalidEnd kept wrong last =>
      simp only [List.forall_mem_cons] at carriedOut
      obtain ⟨⟨old, now, rfl⟩, ⟨old', now', rfl⟩, -⟩ := carriedOut
      exact ⟨[], ⟨_, none⟩, .last (by omega) rfl rfl wrong rfl rfl rfl rfl (fun _ => rfl)⟩
  | invalidLost kept wrong lost =>
      simp only [List.forall_mem_cons] at carriedOut
      obtain ⟨-, ⟨old', now', rfl⟩, -⟩ := carriedOut
      cases lost
  | invalidRetry kept wrong keptNext repair more ih =>
      simp only [List.forall_mem_cons] at carriedOut
      obtain ⟨⟨old, now, rfl⟩, ⟨old', now', rfl⟩, -, rest⟩ := carriedOut
      obtain ⟨rs, last, hlaw⟩ := ih rest
      exact ⟨_, last, .cons (retryLaw_invalid wrong) hlaw⟩
  | lostRendering kept right lost =>
      simp only [List.forall_mem_cons] at carriedOut
      obtain ⟨-, ⟨old', now', rfl⟩, -⟩ := carriedOut
      cases lost
  | success kept right keptRender path finished =>
      simp only [List.forall_mem_cons] at carriedOut
      obtain ⟨⟨old, now, rfl⟩, ⟨old', now', rfl⟩, -, rest⟩ := carriedOut
      cases finished with
      | notStored fault reply =>
          obtain ⟨⟨target, htarget⟩, -⟩ := List.forall_mem_cons.mp rest
          cases htarget
      | stored target reply =>
          simp only [List.forall_mem_cons] at rest
          obtain ⟨-, ⟨old'', now'', rfl⟩, -⟩ := rest
          exact ⟨[], ⟨_, some (.success path)⟩,
            .last (by omega) rfl rfl right rfl rfl rfl rfl (fun hfailed => by cases hfailed)⟩
  | timeout kept right keptRender last =>
      simp only [List.forall_mem_cons] at carriedOut
      obtain ⟨⟨old, now, rfl⟩, ⟨old', now', rfl⟩, -, ⟨old'', now'', rfl⟩, -⟩ := carriedOut
      exact ⟨[], ⟨_, some .timeout⟩,
        .last (by omega) rfl rfl right rfl rfl rfl rfl (fun hfailed => by cases hfailed)⟩
  | failedEnd kept right keptRender diagnostic last =>
      simp only [List.forall_mem_cons] at carriedOut
      obtain ⟨⟨old, now, rfl⟩, ⟨old', now', rfl⟩, -, ⟨old'', now'', rfl⟩, -⟩ := carriedOut
      exact ⟨[], ⟨_, some (.failure diagnostic)⟩,
        .last (by omega) rfl rfl right rfl rfl rfl rfl (fun _ => rfl)⟩
  | failedLost kept right keptRender diagnostic lost =>
      simp only [List.forall_mem_cons] at carriedOut
      obtain ⟨-, -, -, ⟨old'', now'', rfl⟩, -⟩ := carriedOut
      cases lost
  | failedRetry kept right keptRender diagnostic keptNext repair more ih =>
      simp only [List.forall_mem_cons] at carriedOut
      obtain ⟨⟨old, now, rfl⟩, ⟨old', now', rfl⟩, -, ⟨old'', now'', rfl⟩, -, rest⟩ := carriedOut
      obtain ⟨rs, last, hlaw⟩ := ih rest
      exact ⟨_, last, .cons (retryLaw_failed right) hlaw⟩

/-! ## What follows from the law -/

/-- An attempt begins with the job unfinished. -/
theorem Cycle.begun_open {c : Cycle} {x : JobStatus × String} (hx : x ∈ c.begun) :
    x.1.isTerminal = false := by
  rcases List.mem_cons.mp hx with rfl | hx
  · rfl
  · split at hx
    · obtain rfl := List.mem_singleton.mp hx
      rfl
    · cases hx

/-- A retry leaves the job unfinished. -/
theorem Cycle.retried_open {c : Cycle} {x : JobStatus × String} (hx : x ∈ c.retried) :
    x.1.isTerminal = false := by
  rcases List.mem_append.mp hx with hx | hx
  · exact c.begun_open hx
  · obtain rfl := List.mem_singleton.mp hx
    rfl

/-- The last attempt ends the job. -/
theorem Cycle.endStatus_terminal (c : Cycle) : c.endStatus.isTerminal = true := by
  rcases c with ⟨code, _ | _ | _ | _⟩ <;> rfl

/-- **Only the last record is terminal.** -/
theorem CycleLaw.terminal_iff_last {retries : List Retry} {last : Cycle}
    (hlaw : CycleLaw task start budget h result retries last) {before after : List Job}
    {record : Job} (split : recordsOf h = before ++ record :: after) :
    record.status.isTerminal = true ↔ after = [] := by
  have hrecords := hlaw.records
  rw [Cycle.ended, ← List.append_assoc, split] at hrecords
  have initial : (before ++ record :: after).dropLast.map standing =
      retries.flatMap (·.retried) ++ last.begun := by
    rw [List.map_dropLast, hrecords, List.dropLast_concat]
  cases after with
  | nil =>
      have hlast := congrArg List.getLast? hrecords
      rw [List.getLast?_map, List.getLast?_concat, List.getLast?_concat] at hlast
      have hstatus : record.status = last.endStatus := congrArg Prod.fst (Option.some.inj hlast)
      exact iff_of_true (hstatus ▸ last.endStatus_terminal) rfl
  | cons next after =>
      have hmem : standing record ∈ retries.flatMap (·.retried) ++ last.begun := by
        rw [← initial, List.dropLast_append_of_ne_nil (by simp), List.dropLast_cons_cons]
        exact List.mem_map_of_mem (by simp)
      have hopen : record.status.isTerminal = false := by
        rcases List.mem_append.mp hmem with hmem | hmem
        · obtain ⟨r, -, hr⟩ := List.mem_flatMap.mp hmem
          exact Cycle.retried_open hr
        · exact Cycle.begun_open hmem
      exact iff_of_false (by simp [hopen]) (List.cons_ne_nil next after)

/-- The renderer is called once for each rendering record. -/
theorem CycleLaw.renders_length {retries : List Retry} {last : Cycle}
    (hlaw : CycleLaw task start budget h result retries last) :
    (rendersOf h).length = (recordsOf h).countP (·.status == .rendering) := by
  have hretried : ∀ c : Cycle,
      c.retried.countP (·.1 == .rendering) = (c.renders task).length := by
    rintro ⟨code, _ | outcome⟩ <;> rfl
  have hended : last.ended.countP (·.1 == .rendering) = (last.renders task).length := by
    rcases last with ⟨code, _ | _ | _ | _⟩ <;> rfl
  have hcount : (recordsOf h).countP (·.status == .rendering) =
      ((recordsOf h).map standing).countP (·.1 == .rendering) := by
    rw [List.countP_map]
    rfl
  rw [hcount, hlaw.records, hlaw.renders, List.countP_append, hended, List.flatMap_append,
    List.length_append, List.countP_flatMap, List.length_flatMap, List.map_map]
  simp [Function.comp_def, hretried]

/-- Without a budget for a second cycle nothing is repaired. -/
theorem CycleLaw.no_repairs {retries : List Retry} {last : Cycle}
    (hlaw : CycleLaw task start 1 h result retries last) : repairsOf h = [] := by
  have hnone : retries = [] := List.eq_nil_of_length_eq_zero (by have := hlaw.inBudget; omega)
  rw [hlaw.repairs, hnone, List.map_nil]

/-! ## Every run -/

/-- The cycles that a task may take. -/
def budgetOf (task : RenderTask) (maxRetries : Nat) : Nat :=
  if task.allowRetry then min (maxRetries + 1) mostAttempts else 1

/-- The budget counts the first attempt and the retries. -/
theorem retriesOf_succ (task : RenderTask) (maxRetries : Nat) :
    retriesOf task maxRetries + 1 = budgetOf task maxRetries := by
  have hmost : 1 ≤ mostAttempts := by decide
  cases hretry : task.allowRetry <;> simp only [retriesOf, budgetOf, hretry]
  · rfl
  · simp only [if_true]
    omega

/-- The look at the job and the letting go of it leave the law as it is. -/
theorem CycleLaw.framed {retries : List Retry} {last : Cycle} {id : String} {reply : JobReply}
    (hlaw : CycleLaw task start budget h result retries last) :
    CycleLaw task start budget (jobRead id reply :: h ++ [released id]) result retries last := by
  have hrecords : recordsOf (jobRead id reply :: h ++ [released id]) = recordsOf h :=
    (recordsOf_append _ _).trans (List.append_nil _)
  have hrenders : rendersOf (jobRead id reply :: h ++ [released id]) = rendersOf h :=
    (rendersOf_append _ _).trans (List.append_nil _)
  have hrepairs : repairsOf (jobRead id reply :: h ++ [released id]) = repairsOf h :=
    (repairsOf_append _ _).trans (List.append_nil _)
  exact { hlaw with
    records := hrecords ▸ hlaw.records
    errors := by rw [retryErrors, hrecords, ← hlaw.errors, retryErrors]
    renders := hrenders.trans hlaw.renders
    repairs := hrepairs.trans hlaw.repairs }

/-- Work at a task begins by looking at the record. -/
theorem WorkCourse.looks_first {maxRetries : Nat} (hc : WorkCourse maxRetries task h result) :
    ∃ reply tail, h = jobRead task.jobId reply :: tail := by
  cases hc <;> exact ⟨_, _, rfl⟩

/-- Working off a job that is not over keeps the law, and lets go of the job at the
end. -/
theorem WorkCourse.cycles {maxRetries : Nat} {job : Job} (live : job.status.isTerminal = false)
    {rest : List ServiceExchange}
    (hc : WorkCourse maxRetries task (jobRead task.jobId (.ok (some job)) :: rest) result)
    (carriedOut : ∀ e ∈ rest, CarriedOut e) :
    ∃ retries last, CycleLaw task task.code (budgetOf task maxRetries) rest result retries last := by
  cases hc with
  | closed terminal => cases live.symm.trans terminal
  | begun live attempted =>
      rw [← retriesOf_succ]
      exact attempted.cycles carriedOut

/-- **The law of cycles holds of every run.**  In any studio that has the job of a
task, not yet over, and with any crew, as long as the stores serve the work: the task
is worked off in cycles, its last record is the only terminal one, the renderer is
called once for each rendering record, and a task that may not be retried is not
repaired. -/
theorem process_cycles (crew : Crew) (s : Studio) (maxRetries : Nat) (task : RenderTask)
    {job : Job} (found : s.jobs.get task.jobId = .ok (some job))
    (live : job.status.isTerminal = false)
    (allServed : ∀ e ∈ s.exchanges crew (process maxRetries task), served e = true) :
    ∃ retries last,
      CycleLaw task task.code (budgetOf task maxRetries)
        (s.exchanges crew (process maxRetries task))
        (s.runPlan crew (process maxRetries task)).1 retries last ∧
      (∀ before record after,
        recordsOf (s.exchanges crew (process maxRetries task)) = before ++ record :: after →
        (record.status.isTerminal = true ↔ after = [])) ∧
      (rendersOf (s.exchanges crew (process maxRetries task))).length =
        (recordsOf (s.exchanges crew (process maxRetries task))).countP
          (·.status == .rendering) ∧
      (task.allowRetry = false → repairsOf (s.exchanges crew (process maxRetries task)) = []) := by
  have carriedOut : ∀ e ∈ s.exchanges crew (process maxRetries task), CarriedOut e :=
    fun e he => Studio.carriedOut_of_served he (allServed e he)
  have looked : ∃ rest, s.exchanges crew (process maxRetries task) =
      jobRead task.jobId (s.getJob crew task.jobId).1 :: rest := ⟨_, rfl⟩
  have hc : Course (process maxRetries task) (s.exchanges crew (process maxRetries task))
      (s.runPlan crew (process maxRetries task)).1 := course_transcript _ _ s
  generalize s.exchanges crew (process maxRetries task) = h at *
  generalize (s.runPlan crew (process maxRetries task)).1 = result at *
  obtain ⟨rest, hlooked⟩ := looked
  obtain ⟨work, cleanup, rfl, hwork, hend⟩ := course_process hc
  -- the look at the job finds the job that the studio has
  obtain ⟨reply, tail, rfl⟩ := hwork.looks_first
  have hreply : reply = (s.getJob crew task.jobId).1 := by
    cases (List.cons.inj hlooked).1
    rfl
  have hjob : reply = .ok (some job) := by
    have hserved := allServed (jobRead task.jobId reply) (by simp)
    rcases reply with fault | _ | job'
    · cases hserved
    · cases hserved
    · cases (Studio.getJob_found hreply.symm).symm.trans found
      rfl
  subst hjob
  obtain ⟨retries, last, hlaw⟩ := hwork.cycles live fun e he => carriedOut e (by simp [he])
  -- a run that ends well is not cleaned up
  obtain rfl : cleanup = [] := by
    rcases hend with ⟨status, -, hnil⟩ | ⟨cause, herror, -⟩
    · exact hnil
    · cases herror.symm.trans hlaw.result
  have hall : CycleLaw task _ _ (jobRead task.jobId (.ok (some job)) :: _ ++ [released task.jobId])
      _ retries last := hlaw.framed
  refine ⟨retries, last, hall, fun _ _ _ => hall.terminal_iff_last, hall.renders_length, ?_⟩
  intro hretry
  rw [budgetOf, hretry] at hall
  exact hall.no_repairs

/-- The rehearsal is a run that the law speaks of. -/
theorem rehearsal_cycles :
    emptySceneStudio.jobs.get "job_1" = .ok (some (.fresh "job_1" default)) ∧
    (∀ e ∈ emptySceneStudio.exchanges lucklessCrew (process 1 emptySceneTask),
      served e = true) ∧
    ∃ retries last, CycleLaw emptySceneTask emptySceneTask.code 2
      (emptySceneStudio.exchanges lucklessCrew (process 1 emptySceneTask))
      (emptySceneStudio.runPlan lucklessCrew (process 1 emptySceneTask)).1 retries last := by
  have found : emptySceneStudio.jobs.get "job_1" = .ok (some (.fresh "job_1" default)) := rfl
  have allServed : ∀ e ∈ emptySceneStudio.exchanges lucklessCrew (process 1 emptySceneTask),
      served e = true := by
    rw [← List.all_eq_true]
    decide +kernel
  obtain ⟨retries, last, hlaw, -⟩ :=
    process_cycles lucklessCrew emptySceneStudio 1 emptySceneTask found rfl allServed
  exact ⟨found, allServed, retries, last, hlaw⟩

end Pipeline

end SceneRender
