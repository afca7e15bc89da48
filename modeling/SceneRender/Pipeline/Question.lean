import SceneRender.Cache.Fingerprint
import SceneRender.Generation.Provider
import SceneRender.Generation.Temperature
import SceneRender.Pipeline.Task
import SceneRender.Plan

/-!
# What the service asks of its surroundings

The pipeline and the handlers of requests are plans over this vocabulary: job
store, cache, stored videos, the set of jobs that are being worked on, the
renderer, the repair of code, the language model and the dispatch of tasks.  Each
question is one indivisible step; between two of them other plans may run.
-/

namespace SceneRender

/-- A question to the surroundings of the service. -/
inductive ServiceQuestion where
  /-- Make a job. -/
  | createJob
  /-- Look a job up. -/
  | getJob (id : String)
  /-- Update the record of a job. -/
  | updateJob (id : String) (update : JobUpdate)
  /-- Look a result up. -/
  | lookUp (ns : CacheNamespace) (fingerprint : String)
  /-- Remember a result. -/
  | remember (ns : CacheNamespace) (fingerprint value : String)
  /-- Where is the video of a job? -/
  | findVideo (id : String)
  /-- Store a video that lies at a path. -/
  | keepVideo (id path : String)
  /-- Copy the video of one job to another. -/
  | cloneVideo (source target : String)
  /-- Is the job being worked on here? -/
  | owns (id : String)
  /-- From now on the job is being worked on here. -/
  | claim (id : String)
  /-- The job is no longer being worked on here. -/
  | release (id : String)
  /-- Render code. -/
  | render (id code : String) (quality : Quality)
  /-- Repair code. -/
  | repair (code diagnostic : String)
  /-- Ask the language model. -/
  | complete (prompt : String) (temperature : Temperature)
  /-- Hand a task to the workers. -/
  | dispatch (task : RenderTask)
  /-- Read the video at a path. -/
  | readVideo (path : String)

namespace ServiceQuestion

/-- What is replied to a question. -/
def Reply : ServiceQuestion → Type
  | createJob => Except StoreFault Job
  | getJob _ => Except StoreFault (Option Job)
  | updateJob _ _ => Except StoreFault (Option Job)
  | lookUp _ _ => Option String
  | remember _ _ _ => Unit
  | findVideo _ => Except ArtifactFault (Option String)
  | keepVideo _ _ => Except ArtifactFault String
  | cloneVideo _ _ => Except ArtifactFault (Option String)
  | owns _ => Bool
  | claim _ => Unit
  | release _ => Unit
  | render _ _ _ => RenderOutcome
  | repair _ _ => String
  | complete _ _ => Except ModelFault String
  | dispatch _ => Except PipelineFault Unit
  | readVideo _ => Except DiskFault ByteArray

end ServiceQuestion

/-- The vocabulary of the service. -/
def serviceVocabulary : Vocabulary := ⟨ServiceQuestion, ServiceQuestion.Reply⟩

/-- A plan of the service. -/
abbrev ServicePlan := Plan serviceVocabulary

/-- A plan of the pipeline, which may end in a fault. -/
abbrev PipelinePlan := ExceptT PipelineFault ServicePlan

namespace ServicePlan

/-- Makes a job. -/
def createJob : ServicePlan (Except StoreFault Job) :=
  Plan.question (V := serviceVocabulary) .createJob

/-- Looks a job up. -/
def getJob (id : String) : ServicePlan (Except StoreFault (Option Job)) :=
  Plan.question (V := serviceVocabulary) (.getJob id)

/-- Updates the record of a job. -/
def updateJob (id : String) (update : JobUpdate) :
    ServicePlan (Except StoreFault (Option Job)) :=
  Plan.question (V := serviceVocabulary) (.updateJob id update)

/-- Looks a result up. -/
def lookUp (ns : CacheNamespace) (fingerprint : String) : ServicePlan (Option String) :=
  Plan.question (V := serviceVocabulary) (.lookUp ns fingerprint)

/-- Remembers a result. -/
def remember (ns : CacheNamespace) (fingerprint value : String) : ServicePlan Unit :=
  Plan.question (V := serviceVocabulary) (.remember ns fingerprint value)

/-- Finds the video of a job. -/
def findVideo (id : String) : ServicePlan (Except ArtifactFault (Option String)) :=
  Plan.question (V := serviceVocabulary) (.findVideo id)

/-- Stores a video. -/
def keepVideo (id path : String) : ServicePlan (Except ArtifactFault String) :=
  Plan.question (V := serviceVocabulary) (.keepVideo id path)

/-- Copies the video of one job to another. -/
def cloneVideo (source target : String) :
    ServicePlan (Except ArtifactFault (Option String)) :=
  Plan.question (V := serviceVocabulary) (.cloneVideo source target)

/-- Is the job being worked on here? -/
def owns (id : String) : ServicePlan Bool :=
  Plan.question (V := serviceVocabulary) (.owns id)

/-- Takes a job on. -/
def claim (id : String) : ServicePlan Unit :=
  Plan.question (V := serviceVocabulary) (.claim id)

/-- Lets go of a job. -/
def release (id : String) : ServicePlan Unit :=
  Plan.question (V := serviceVocabulary) (.release id)

/-- Renders code. -/
def render (id code : String) (quality : Quality) : ServicePlan RenderOutcome :=
  Plan.question (V := serviceVocabulary) (.render id code quality)

/-- Repairs code. -/
def repair (code diagnostic : String) : ServicePlan String :=
  Plan.question (V := serviceVocabulary) (.repair code diagnostic)

/-- Asks the language model. -/
def complete (prompt : String) (temperature : Temperature) :
    ServicePlan (Except ModelFault String) :=
  Plan.question (V := serviceVocabulary) (.complete prompt temperature)

/-- Hands a task to the workers. -/
def dispatch (task : RenderTask) : ServicePlan (Except PipelineFault Unit) :=
  Plan.question (V := serviceVocabulary) (.dispatch task)

/-- Reads the video at a path. -/
def readVideo (path : String) : ServicePlan (Except DiskFault ByteArray) :=
  Plan.question (V := serviceVocabulary) (.readVideo path)

end ServicePlan

namespace PipelinePlan

/-- Goes on with a reply, or ends in the fault that it reports. -/
def orFault {ε α : Type} (wrap : ε → PipelineFault) (p : ServicePlan (Except ε α)) :
    PipelinePlan α :=
  ExceptT.mk do
    match ← p with
    | .ok a => return .ok a
    | .error e => return .error (wrap e)

/-- Makes a job. -/
def createJob : PipelinePlan Job := orFault .store ServicePlan.createJob

/-- Looks a job up. -/
def getJob (id : String) : PipelinePlan (Option Job) := orFault .store (ServicePlan.getJob id)

/-- Updates the record of a job that has to exist. -/
def updateJob (id : String) (update : JobUpdate) : PipelinePlan Job := do
  match ← orFault .store (ServicePlan.updateJob id update) with
  | some job => return job
  | none => throw (.jobNotFound id)

end PipelinePlan

end SceneRender
