import SceneRender.Proofs.Pipeline.ProcessCourse
import SceneRender.Rehearsal.ScriptedCrew

/-!
# Only validated code is rendered

Whatever the stores, the renderer and the repair reply, code reaches the renderer
only if the validation accepts it, under the id and in the quality of its task.
Nor does it come from anywhere else: it is the code of the task, or the latest
repair that was not blank.

`Screened` says so of a list of exchanges from some current code on.  It splits
along the list, `AttemptCourse.screened` proves it for the attempts by induction,
and `process_renders_validated_code` reads it off a whole run.
-/

namespace SceneRender

open Plan

/-! ## The current code -/

/-- The repair that an exchange brings, unless it is blank. -/
def ServiceExchange.usableRepair? : ServiceExchange → Option String
  | ⟨.repair _ _, (reply : String)⟩ => if Text.isBlankText reply then none else some reply
  | _ => none

/-- Is the exchange a call of the renderer for some job, code and quality? -/
def ServiceExchange.renders (id code : String) (quality : Quality) : ServiceExchange → Bool
  | ⟨.render id' code' quality', _⟩ => id' == id && code' == code && quality' == quality
  | _ => false

/-- An exchange renders exactly if it is a call of the renderer. -/
theorem ServiceExchange.renders_iff {id code : String} {quality : Quality} {e : ServiceExchange} :
    e.renders id code quality = true ↔ ∃ outcome, e = rendered id code quality outcome := by
  constructor
  · intro he
    obtain ⟨q, outcome⟩ := e
    cases q with
    | render id' code' quality' =>
        simp only [renders, Bool.and_eq_true, beq_iff_eq] at he
        obtain ⟨⟨rfl, rfl⟩, rfl⟩ := he
        exact ⟨outcome, rfl⟩
    | _ => simp [renders] at he
  · rintro ⟨outcome, rfl⟩
    simp [renders, rendered]

namespace Pipeline

open ServiceExchange

/-- The code that is current after some exchanges: the latest usable repair, or
the code at the start. -/
def currentCode (start : String) (h : List ServiceExchange) : String :=
  (h.filterMap usableRepair?).getLastD start

variable {task : RenderTask} {code : String} {e : ServiceExchange}
  {h before after : List ServiceExchange}

/-- Before any repair the code is the given one. -/
@[simp] theorem currentCode_nil : currentCode code [] = code := rfl

/-- The exchanges count one after the other. -/
theorem currentCode_cons : currentCode code (e :: h) = currentCode (currentCode code [e]) h := by
  cases he : e.usableRepair? with
  | none => simp [currentCode, he]
  | some repair =>
      rw [currentCode, currentCode, currentCode, List.filterMap_cons_some he,
        List.filterMap_cons_some he, List.getLastD_cons]
      rfl

/-- An exchange that brings no repair leaves the code alone. -/
theorem currentCode_cons_other (he : e.usableRepair? = none) :
    currentCode code (e :: h) = currentCode code h := by
  simp [currentCode, he]

/-- A repair is adopted, and what follows goes on from there. -/
@[simp] theorem currentCode_repaired {old diagnostic reply : String} :
    currentCode code (repaired old diagnostic reply :: h) =
      currentCode (adopted code reply) h := by
  by_cases blank : Text.isBlankText reply
  · rw [currentCode_cons_other (by simp [usableRepair?, repaired, blank]), adopted, if_pos blank]
  · have usable : (repaired old diagnostic reply).usableRepair? = some reply := by
      simp [usableRepair?, repaired, blank]
    rw [currentCode, List.filterMap_cons_some usable, List.getLastD_cons, adopted,
      if_neg blank, currentCode]

/-! ## Screened exchanges -/

/-- Every call of the renderer is for the task, and renders the code that is
current by then and that the validation accepts. -/
def Screened (task : RenderTask) (start : String) (h : List ServiceExchange) : Prop :=
  ∀ before id code quality outcome after,
    h = before ++ rendered id code quality outcome :: after →
    (Script.validate code).ok = true ∧ quality = task.quality ∧ id = task.jobId ∧
      code = currentCode start before

/-- Nothing was rendered yet. -/
@[simp] theorem screened_nil : Screened task code [] := by
  intro before id code quality outcome after split
  simp at split

/-- **One exchange at a time.**  Only a call of the renderer has to be looked at;
what follows goes on from the code that the exchange leaves. -/
theorem screened_cons :
    Screened task code (e :: h) ↔
      (∀ id c quality outcome, e = rendered id c quality outcome →
        (Script.validate c).ok = true ∧ quality = task.quality ∧ id = task.jobId ∧ c = code) ∧
      Screened task (currentCode code [e]) h := by
  constructor
  · intro hs
    refine ⟨fun id c quality outcome he => hs [] id c quality outcome h (by rw [he]; rfl), ?_⟩
    intro before id c quality outcome after split
    have hall := hs (e :: before) id c quality outcome after (by rw [split]; rfl)
    rwa [currentCode_cons] at hall
  · rintro ⟨hfirst, hrest⟩ before id c quality outcome after split
    cases before with
    | nil =>
        obtain ⟨he, -⟩ := List.cons.inj split
        exact hfirst id c quality outcome he
    | cons e' before =>
        obtain ⟨rfl, rest⟩ := List.cons.inj split
        rw [currentCode_cons]
        exact hrest before id c quality outcome after rest

/-- An exchange that neither renders nor repairs can be passed over. -/
theorem screened_cons_other (hrender : ∀ id c quality outcome, e ≠ rendered id c quality outcome)
    (hrepair : e.usableRepair? = none) :
    Screened task code (e :: h) ↔ Screened task code h := by
  rw [screened_cons, currentCode_cons_other hrepair, currentCode_nil]
  exact and_iff_right fun id c quality outcome he => absurd he (hrender id c quality outcome)

/-- Looking a job up renders nothing. -/
@[simp] theorem screened_jobRead {id : String} {reply : JobReply} :
    Screened task code (jobRead id reply :: h) ↔ Screened task code h :=
  screened_cons_other (fun _ _ _ _ => nofun) rfl

/-- Updating a job renders nothing. -/
@[simp] theorem screened_jobUpdated {id : String} {u : JobUpdate} {reply : JobReply} :
    Screened task code (jobUpdated id u reply :: h) ↔ Screened task code h :=
  screened_cons_other (fun _ _ _ _ => nofun) rfl

/-- Storing a video renders nothing. -/
@[simp] theorem screened_videoKept {id path : String} {reply : Except ArtifactFault String} :
    Screened task code (videoKept id path reply :: h) ↔ Screened task code h :=
  screened_cons_other (fun _ _ _ _ => nofun) rfl

/-- Letting a job go renders nothing. -/
@[simp] theorem screened_released {id : String} :
    Screened task code (released id :: h) ↔ Screened task code h :=
  screened_cons_other (fun _ _ _ _ => nofun) rfl

/-- After a repair the adopted code is the one to render. -/
@[simp] theorem screened_repaired {old diagnostic reply : String} :
    Screened task code (repaired old diagnostic reply :: h) ↔
      Screened task (adopted code reply) h := by
  rw [screened_cons, currentCode_repaired, currentCode_nil]
  exact and_iff_right fun id c quality outcome he => by cases he

/-- A call of the renderer has the job, the quality and the valid code of the attempt. -/
@[simp] theorem screened_rendered {id c : String} {quality : Quality} {outcome : RenderOutcome} :
    Screened task code (rendered id c quality outcome :: h) ↔
      ((Script.validate c).ok = true ∧ quality = task.quality ∧ id = task.jobId ∧ c = code) ∧
        Screened task code h := by
  rw [screened_cons, currentCode_cons_other rfl, currentCode_nil]
  refine and_congr_left fun _ => ⟨fun hfirst => hfirst id c quality outcome rfl, ?_⟩
  rintro hfirst id' c' quality' outcome' he
  cases he
  exact hfirst

/-- Two stretches of exchanges are screened one after the other. -/
theorem screened_append {h' : List ServiceExchange} :
    Screened task code (h ++ h') ↔
      Screened task code h ∧ Screened task (currentCode code h) h' := by
  induction h generalizing code with
  | nil => simp
  | cons e h ih =>
      rw [List.cons_append, screened_cons, ih, screened_cons, currentCode_cons (h := h), and_assoc]

/-! ## The parts of the work -/

/-- The end of the work renders nothing. -/
theorem FinishCourse.screened {id path : String} {r : Except PipelineFault JobStatus}
    (hc : FinishCourse id path h r) : Screened task code h := by
  cases hc <;> simp

/-- **The attempts screen what they render**: each one validates its code first,
and a repair only becomes the code of the next attempt. -/
theorem AttemptCourse.screened {retries attempt progress : Nat}
    {r : Except PipelineFault JobStatus}
    (hc : AttemptCourse task retries attempt code progress h r) : Screened task code h := by
  induction hc with
  | lostBefore lost => simp
  | invalidEnd kept wrong last => simp
  | invalidLost kept wrong lost => simp
  | invalidRetry kept wrong keptNext repair more ih => simpa using ih
  | lostRendering kept right lost => simp
  | success kept right keptRender path finished => simpa [right] using finished.screened
  | timeout kept right keptRender last => simp [right]
  | failedEnd kept right keptRender diagnostic last => simp [right]
  | failedLost kept right keptRender diagnostic lost => simp [right]
  | failedRetry kept right keptRender diagnostic keptNext repair more ih =>
      simpa [right] using ih

/-- Work at a task renders screened code only. -/
theorem WorkCourse.screened {maxRetries : Nat} {r : Except PipelineFault JobStatus}
    (hc : WorkCourse maxRetries task h r) : Screened task task.code h := by
  cases hc with
  | unseen fault => simp
  | missing => simp
  | closed terminal => simp
  | begun live attempted => simpa using attempted.screened

/-- A clean-up renders nothing. -/
theorem CleanupCourse.screened {id : String} {cause : PipelineFault}
    (hc : CleanupCourse id cause h) : Screened task code h := by
  cases hc <;> simp

/-- Working a task off screens what it renders, in every course. -/
theorem screened_process {maxRetries : Nat} {r : Except PipelineFault JobStatus}
    (hc : Course (process maxRetries task) h r) : Screened task task.code h := by
  obtain ⟨work, cleanup, rfl, hwork, hend⟩ := course_process hc
  rw [screened_append, screened_released]
  refine ⟨hwork.screened, ?_⟩
  rcases hend with ⟨status, -, rfl⟩ | ⟨cause, -, hcleanup⟩
  · exact screened_nil
  · exact hcleanup.screened

/-! ## Every run -/

/-- **Only validated code is rendered.**  A task is worked off in any surroundings
at all: whatever these reply, each call of the renderer is for the job of the task
and in its quality, and its code passes the validation and is the code of the task or
the latest repair before the call that is not blank. -/
theorem process_renders_validated_code {σ : Type}
    (answer : (q : ServiceQuestion) → σ → q.Reply × σ) (surroundings : σ)
    (maxRetries : Nat) (task : RenderTask) {id code : String} {quality : Quality}
    {outcome : RenderOutcome} {before after : List ServiceExchange}
    (call : (process maxRetries task).transcript answer surroundings =
      before ++ rendered id code quality outcome :: after) :
    (Script.validate code).ok = true ∧ quality = task.quality ∧ id = task.jobId ∧
      code = currentCode task.code before :=
  screened_process (course_transcript answer _ surroundings) _ _ _ _ _ _ call

/-! ## A rehearsal -/

/-- A scene that the validation accepts. -/
def emptyScene : String :=
  "from manim import *\nclass GeneratedScene(Scene):\n    def construct(self):\n        pass\n"

/-- A task for the scene, at first with one line more. -/
def emptySceneTask : RenderTask := ⟨"job_1", emptyScene ++ "\n", .low, true⟩

/-- A studio that has only made the job of the task. -/
def emptySceneStudio : Studio :=
  { (default : Studio) with jobs := .memory [("job_1", .fresh "job_1" default)] }

/-- A crew whose first render fails and whose second one takes too long; the repair
drops the last line. -/
def lucklessCrew : Crew :=
  CrewScript.crew
    { renders := #[.fail "no display", .timeout], repairs := #[some emptyScene] } "spool"
    (fun _ => "job_2") (fun _ => default)

/-- In the rehearsal the repaired scene is rendered after it was validated. -/
theorem rehearsal_renders_repaired_scene :
    ∃ before outcome after,
      (process 1 emptySceneTask).transcript (Studio.reply lucklessCrew) emptySceneStudio =
        before ++ rendered "job_1" emptyScene .low outcome :: after ∧
      (Script.validate emptyScene).ok = true ∧ Quality.low = emptySceneTask.quality ∧
      "job_1" = emptySceneTask.jobId ∧ emptyScene = currentCode (emptyScene ++ "\n") before := by
  have called : ((process 1 emptySceneTask).transcript (Studio.reply lucklessCrew)
      emptySceneStudio).any (renders "job_1" emptyScene .low) = true := by
    decide +kernel
  obtain ⟨e, he, hrenders⟩ := List.any_eq_true.mp called
  obtain ⟨outcome, rfl⟩ := renders_iff.mp hrenders
  obtain ⟨before, after, call⟩ := List.append_of_mem he
  exact ⟨before, outcome, after, call,
    process_renders_validated_code (Studio.reply lucklessCrew) emptySceneStudio 1
      emptySceneTask call⟩

end Pipeline

end SceneRender
