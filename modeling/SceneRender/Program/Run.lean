import SceneRender.Http.Origin
import SceneRender.Job.Record
import SceneRender.Pipeline.Process
import SceneRender.Program.Arguments
import SceneRender.Service.Work
import SceneRender.Settings.Load

/-!
# The program

From a command line to an exit status: the settings are loaded, logging is made
ready, and the command is carried out on the disk, asking the machine.  What the
program prints is its output; a fault that ends it is reported apart.
-/

namespace SceneRender

/-! ## Faults -/

/-- Why the program ends without an answer. -/
inductive ProgramFault where
  | settings (fault : SettingsFault)
  | logging (fault : LogFault)
  | unreadable (path : String) (fault : ReadFault)
  | quality (name : String)
  | setup (fault : SetupFault)
  | pipeline (fault : PipelineFault)
  | store (fault : StoreFault)
  | disappeared (id : String)
  | inFlight (id : String)
  | origin (name : String)
  | address (name reason : String)
  | tooLarge

/-- What is reported about a fault of the pipeline. -/
def PipelineFault.report (fault : PipelineFault) : FaultReport :=
  match fault with
  | store inner => ⟨fault.message, inner.summary :: inner.causes⟩
  | artifact inner => inner.report
  | jobNotFound _ | queueClosed => ⟨fault.message, []⟩

/-- What is reported about a fault. -/
def ProgramFault.report : ProgramFault → FaultReport
  | settings fault => ⟨fault.message, fault.causes⟩
  | logging fault => ⟨fault.message, fault.causes⟩
  | unreadable path fault => ⟨"Failed to read " ++ path, [fault.message]⟩
  | quality name => ⟨Quality.unknownMessage name, []⟩
  | setup fault => fault.report
  | pipeline fault => fault.report
  | store fault => ⟨fault.summary, fault.causes⟩
  | disappeared id => ⟨"Job " ++ id ++ " disappeared", []⟩
  | inFlight id => ⟨"Job " ++ id ++ " is already rendering", []⟩
  | origin name => ⟨OriginPolicy.invalidMessage name, [OriginPolicy.invalidCause]⟩
  | address name reason => ⟨"Failed to bind to " ++ name, [reason]⟩
  | tooLarge => ⟨"out-of-range value for u64 type", []⟩

/-! ## Ends -/

/-- How the program ends. -/
structure Exit where
  status : Nat
  /-- What it printed. -/
  output : String
  /-- The fault that ended it. -/
  fault : Option ProgramFault := none

namespace Exit

/-- The end of a command line that cannot be understood. -/
def misused : Exit := ⟨2, "", none⟩

/-- The end by a fault. -/
def failed (output : String) (fault : ProgramFault) : Exit := ⟨1, output, some fault⟩

/-- The end with an answer, which can be good or bad news. -/
def answered (isGood : Bool) (output : String) : Exit := ⟨if isGood then 0 else 1, output, none⟩

/-- What is written about the fault. -/
def complaint? (e : Exit) : Option String := e.fault.map fun f => "Error: " ++ f.report.full ++ "\n"

end Exit

namespace Program

/-- What the program works with: the disk, the machine, and faults that end it. -/
abbrev Work := ExceptT ProgramFault (StateT Disk MachinePlan)

/-- Goes on with a result, or ends by its fault. -/
def orFault {α ε : Type} (fault : ε → ProgramFault) : Except ε α → Work α
  | .ok a => return a
  | .error e => throw (fault e)

/-- Asks the machine. -/
def machine {α : Type} (plan : MachinePlan α) : Work α := ExceptT.lift (StateT.lift plan)

/-! ## Validating -/

/-- A verdict as JSON. -/
def verdictJson (verdict : Script.Verdict) : Json.Value :=
  .record [("ok", .flag verdict.ok), ("errors", Json.Value.texts verdict.errors)]

/-- A verdict in words. -/
def verdictText (file : String) (verdict : Script.Verdict) : String :=
  if verdict.ok then file ++ ": ok\n"
  else
    file ++ ": " ++ toString verdict.errors.length ++ " violation(s)\n" ++
      String.join (verdict.errors.map fun e => "  - " ++ e ++ "\n")

/-- Validates a file. -/
def validate (file : String) (asJson : Bool) : Work Exit := do
  let code ← orFault (.unreadable file) ((← get).readText file)
  let verdict := Script.validate code
  return .answered verdict.ok
    (if asJson then (verdictJson verdict).pretty ++ "\n" else verdictText file verdict)

/-! ## Showing the settings -/

/-- The lines above the settings. -/
def settingsHeader (source : Option String) : String :=
  "# renderforge configuration\n# file: " ++ source.getD "built-in defaults" ++
    "\n# environment overrides and .env applied\n\n"

/-- Shows the settings. -/
def showSettings (s : Settings) (config : Option String) : Work Exit := do
  let header := settingsHeader (Settings.source? config (← get))
  match s.redacted.toToml? with
  | some text => return .answered true (header ++ text)
  | none => return .failed header .tooLarge

/-! ## Working with the service -/

/-- Sets the service up. -/
def setUp (s : Settings) (temporary : String) : Work (Service × Studio) := do
  let (result, d) := (Service.setUp s temporary).run (← get)
  set d
  orFault .setup result

/-- Runs a plan of the service. -/
def runService {α : Type} (service : Service) (studio : Studio) (plan : ServicePlan α) :
    Work (α × Studio) := do
  let (a, studio) ← machine (service.run plan studio)
  set studio.disk
  return (a, studio)

/-- The quality that is asked for, or the usual one. -/
def chosenQuality (s : Settings) : Option String → Work Quality
  | none => return s.render.defaultQuality
  | some name =>
    match Quality.ofName? name with
    | some quality => return quality
    | none => throw (.quality name)

/-- Renders a file as a job of its own, and prints the record of the job. -/
def render (s : Settings) (temporary file : String) (quality : Option String)
    (allowRetry : Bool) : Work Exit := do
  let code ← orFault (.unreadable file) ((← get).readText file)
  let quality ← chosenQuality s quality
  let (service, studio) ← setUp s temporary
  let (submitted, studio) ← runService service studio (Pipeline.submit code quality allowRetry).run
  let job ← match ← orFault .pipeline submitted with
    | .cached job => pure job
    | .inFlight job => throw (.inFlight job.id)
    | .enqueued job task => do
      let (processed, studio) ← runService service studio
        (Pipeline.process service.maxRetries task)
      let _ ← orFault .pipeline processed
      let (found, _) ← runService service studio (ServicePlan.getJob job.id)
      match ← orFault .store found with
      | some job => pure job
      | none => throw (.disappeared job.id)
  return .answered (job.status == .done) (job.toJson.pretty ++ "\n")

/-- Starts the server, up to the point where it listens. -/
def serve (s : Settings) (temporary : String) : Work Exit := do
  let _ ← setUp s temporary
  let _ ← orFault .origin (OriginPolicy.ofList s.server.corsOrigins)
  let address := s.server.host ++ ":" ++ toString s.server.port
  orFault (.address address) (← machine (MachinePlan.listen s.server.host s.server.port))
  return .answered true ""

/-! ## Running -/

/-- The folder for temporary files. -/
def temporaryFolder (environment : Environment) : String :=
  (environment.lookup "TMPDIR").getD "/tmp"

/-- Carries out a command. -/
def carryOut (s : Settings) (temporary : String) (invocation : CommandLine.Invocation) :
    Work Exit :=
  match invocation.command with
  | .serve => serve s temporary
  | .validate file asJson => validate file asJson
  | .render file quality allowRetry => render s temporary file quality allowRetry
  | .config => showSettings s invocation.config

/-- Loads the settings, makes logging ready, and carries out a command. -/
def prepareAndCarryOut (environment : Environment) (invocation : CommandLine.Invocation) :
    Work Exit := do
  let environment := EnvironmentFile.extend environment (← get)
  let s ← orFault .settings (Settings.load invocation.config environment (← get))
  let (ready, d) := s.logging.prepare environment (← get)
  set d
  orFault .logging ready
  carryOut s (temporaryFolder environment) invocation

/-- Runs the program with the words of a command line. -/
def run (words : List String) (environment : Environment) (d : Disk) :
    MachinePlan (Exit × Disk) :=
  match CommandLine.read words with
  | .error (.shown text) => return (.answered true text, d)
  | .error .misused => return (.misused, d)
  | .ok invocation => do
    let (result, d) ← (prepareAndCarryOut environment invocation).run.run d
    match result with
    | .ok e => return (e, d)
    | .error fault => return (.failed "" fault, d)

end Program

end SceneRender
