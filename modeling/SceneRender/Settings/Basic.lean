import SceneRender.Generation.Provider
import SceneRender.Json.Value
import SceneRender.Render.Isolation
import SceneRender.Schema.TomlValue
import SceneRender.Toml.Printer

/-!
# Settings

The settings of the program in five sections, their defaults, the form in which
they are written in a file, and the checks that every effective setting passes.
-/

namespace SceneRender

open SceneRender.Schema

/-! ## The format of log lines -/

/-- A format of log lines, named in any case. -/
inductive LogFormat where
  | text
  | json
  deriving DecidableEq, Repr, Inhabited

namespace LogFormat

/-- All formats. -/
def all : List LogFormat := [text, json]

/-- The name of a format. -/
def name : LogFormat → String
  | text => "text"
  | json => "json"

/-- The format of a written name. -/
def ofText? (text : String) : Option LogFormat := all.find? (·.name == text.map Char.toLower)

/-- The wording for a written name that no format has. -/
def unknownMessage (text : String) : String :=
  "Invalid log format '" ++ text ++ "'. Valid values: " ++ ", ".intercalate (all.map LogFormat.name)

end LogFormat

/-! ## The sections -/

/-- Settings of the HTTP server. -/
structure ServerSettings where
  host : String
  port : Nat
  corsOrigins : List String
  /-- Requests of one client in a minute; zero lifts the limit. -/
  rateLimitPerMinute : Nat
  deriving DecidableEq, Repr

/-- Settings of the language model. -/
structure ModelSettings where
  provider : Provider
  requestTimeoutSeconds : Nat
  openaiApiKey : Option String
  openaiBaseUrl : String
  openaiModel : String
  ollamaBaseUrl : String
  ollamaModel : String
  deriving DecidableEq, Repr

/-- Settings of rendering. -/
structure RenderSettings where
  mode : RenderMode
  command : Option String
  timeoutSeconds : Nat
  maxRetries : Nat
  defaultQuality : Quality
  storageRoot : String
  spoolDir : String
  scratchDir : Option String
  databasePath : String
  useQueue : Bool
  workers : Nat
  queueCapacity : Nat
  deriving DecidableEq, Repr

/-- Settings of logging. -/
structure LogSettings where
  level : String
  format : LogFormat
  dir : Option String
  deriving DecidableEq, Repr

/-- All settings. -/
structure Settings where
  server : ServerSettings
  llm : ModelSettings
  render : RenderSettings
  sandbox : Isolation
  logging : LogSettings
  deriving DecidableEq, Repr

/-- The server unless it is set up otherwise. -/
def ServerSettings.default : ServerSettings := ⟨"0.0.0.0", 8000, ["http://localhost:3000"], 60⟩

/-- The language model unless it is set up otherwise. -/
def ModelSettings.default : ModelSettings where
  provider := .ollama
  requestTimeoutSeconds := 120
  openaiApiKey := none
  openaiBaseUrl := "https://api.openai.com/v1"
  openaiModel := "gpt-5-mini"
  ollamaBaseUrl := "http://ollama:11434"
  ollamaModel := "deepseek-coder:6.7b"

/-- Rendering unless it is set up otherwise. -/
def RenderSettings.default : RenderSettings where
  mode := .docker
  command := none
  timeoutSeconds := 120
  maxRetries := 2
  defaultQuality := .high
  storageRoot := "storage/videos"
  spoolDir := "storage/spool"
  scratchDir := none
  databasePath := "storage/renderforge.db"
  useQueue := false
  workers := 2
  queueCapacity := 64

/-- Logging unless it is set up otherwise. -/
def LogSettings.default : LogSettings := ⟨"info", .text, none⟩

/-- The settings when nothing is set. -/
def Settings.default : Settings :=
  ⟨.default, .default, .default, .default, .default⟩

instance : Inhabited Settings := ⟨Settings.default⟩

/-- The model that answers; generated code is cached by its name too. -/
def ModelSettings.activeModel (m : ModelSettings) : String :=
  match m.provider with
  | .ollama => m.ollamaModel
  | .openai => m.openaiModel
  | .template => "template"

/-- The slot of a quality. -/
def qualitySlot {σ : Type} (fill : Quality → σ → σ) : Slot σ :=
  .choice (Quality.all.map fun q => (q.name, fill q))

/-! ## The form of the file -/

/-- The form of the server's settings. -/
def ServerSettings.form : Form ServerSettings where
  name := "ServerConfig"
  fields := [
    ⟨"host", false, .string fun s c => { c with host := s }⟩,
    ⟨"port", false, .u16 fun n c => { c with port := n }⟩,
    ⟨"cors_origins", false, .texts fun ss c => { c with corsOrigins := ss }⟩,
    ⟨"rate_limit_per_min", false, .u32 fun n c => { c with rateLimitPerMinute := n }⟩]

/-- The form of the language model's settings. -/
def ModelSettings.form : Form ModelSettings where
  name := "LlmConfig"
  fields := [
    ⟨"provider", false,
      .choice (Provider.all.map fun p => (p.name, fun c => { c with provider := p }))⟩,
    ⟨"request_timeout_secs", false, .u64 fun n c => { c with requestTimeoutSeconds := n }⟩,
    ⟨"openai_api_key", false, .string? fun s c => { c with openaiApiKey := some s }⟩,
    ⟨"openai_base_url", false, .string fun s c => { c with openaiBaseUrl := s }⟩,
    ⟨"openai_model", false, .string fun s c => { c with openaiModel := s }⟩,
    ⟨"ollama_base_url", false, .string fun s c => { c with ollamaBaseUrl := s }⟩,
    ⟨"ollama_model", false, .string fun s c => { c with ollamaModel := s }⟩]

/-- The form of the settings of rendering. -/
def RenderSettings.form : Form RenderSettings where
  name := "RenderConfig"
  fields := [
    ⟨"mode", false,
      .choice (RenderMode.all.map fun m => (m.name, fun c => { c with mode := m }))⟩,
    ⟨"command", false, .string? fun s c => { c with command := some s }⟩,
    ⟨"timeout_secs", false, .u64 fun n c => { c with timeoutSeconds := n }⟩,
    ⟨"max_retries", false, .u32 fun n c => { c with maxRetries := n }⟩,
    ⟨"default_quality", false, qualitySlot fun q c => { c with defaultQuality := q }⟩,
    ⟨"storage_root", false, .path fun s c => { c with storageRoot := s }⟩,
    ⟨"spool_dir", false, .path fun s c => { c with spoolDir := s }⟩,
    ⟨"scratch_dir", false, .path? fun s c => { c with scratchDir := some s }⟩,
    ⟨"database_path", false, .path fun s c => { c with databasePath := s }⟩,
    ⟨"use_queue", false, .flag fun b c => { c with useQueue := b }⟩,
    ⟨"workers", false, .count fun n c => { c with workers := n }⟩,
    ⟨"queue_capacity", false, .count fun n c => { c with queueCapacity := n }⟩]

/-- The form of the settings of logging. -/
def LogSettings.form : Form LogSettings where
  name := "LoggingConfig"
  fields := [
    ⟨"level", false, .string fun s c => { c with level := s }⟩,
    ⟨"format", false,
      .choice (LogFormat.all.map fun f => (f.name, fun c => { c with format := f }))⟩,
    ⟨"dir", false, .path? fun s c => { c with dir := some s }⟩]

/-- A form of a part as a form of the whole. -/
def Schema.Form.within {σ τ : Type} (form : Form σ) (change : (σ → σ) → τ → τ) : Form τ where
  name := form.name
  fields := form.fields.map fun f => ⟨f.name, f.required, match f.slot with
    | .text expected nullable fill => .text expected nullable fun s => change (fill s)
    | .flag fill => .flag fun b => change (fill b)
    | .natural kind largest fill => .natural kind largest fun n => change (fill n)
    | .choice options => .choice (options.map fun o => (o.1, change o.2))
    | .texts fill => .texts fun ss => change (fill ss)⟩

namespace Settings

/-- The sections of the file. -/
def sections : List (Section Settings) := [
  ⟨"server", ServerSettings.form.within fun f s => { s with server := f s.server }⟩,
  ⟨"llm", ModelSettings.form.within fun f s => { s with llm := f s.llm }⟩,
  ⟨"render", RenderSettings.form.within fun f s => { s with render := f s.render }⟩,
  ⟨"sandbox", Isolation.form.within fun f s => { s with sandbox := f s.sandbox }⟩,
  ⟨"logging", LogSettings.form.within fun f s => { s with logging := f s.logging }⟩]

/-- Reads the text of a settings file. -/
def ofToml (source : String) : Except String Settings := readSections sections default source

/-! ## Writing -/

/-- What stands for a secret. -/
def mask : String := "***"

/-- The settings with their secrets masked. -/
def redacted (s : Settings) : Settings :=
  { s with llm := { s.llm with openaiApiKey := s.llm.openaiApiKey.map fun _ => mask } }

/-- A field that is written only if it is set. -/
def optional (name : String) : Option String → List (String × Toml.Written)
  | some s => [(name, .text s)]
  | none => []

end Settings

/-- The fields of the server's settings, in the order in which they are written. -/
def ServerSettings.fields (c : ServerSettings) : List (String × Toml.Written) := [
  ("host", .text c.host),
  ("port", .natural c.port),
  ("cors_origins", .texts c.corsOrigins),
  ("rate_limit_per_min", .natural c.rateLimitPerMinute)]

/-- The fields of the language model's settings, in the order in which they are written. -/
def ModelSettings.fields (c : ModelSettings) : List (String × Toml.Written) :=
  [("provider", .text c.provider.name),
    ("request_timeout_secs", .natural c.requestTimeoutSeconds)] ++
  Settings.optional "openai_api_key" c.openaiApiKey ++
  [("openai_base_url", .text c.openaiBaseUrl),
    ("openai_model", .text c.openaiModel),
    ("ollama_base_url", .text c.ollamaBaseUrl),
    ("ollama_model", .text c.ollamaModel)]

/-- The fields of the settings of rendering, in the order in which they are written. -/
def RenderSettings.fields (c : RenderSettings) : List (String × Toml.Written) :=
  [("mode", .text c.mode.name)] ++
  Settings.optional "command" c.command ++
  [("timeout_secs", .natural c.timeoutSeconds),
    ("max_retries", .natural c.maxRetries),
    ("default_quality", .text c.defaultQuality.name),
    ("storage_root", .text c.storageRoot),
    ("spool_dir", .text c.spoolDir)] ++
  Settings.optional "scratch_dir" c.scratchDir ++
  [("database_path", .text c.databasePath),
    ("use_queue", .flag c.useQueue),
    ("workers", .natural c.workers),
    ("queue_capacity", .natural c.queueCapacity)]

/-- The fields of the limits of a container, in the order in which they are written. -/
def Isolation.fields (i : Isolation) : List (String × Toml.Written) :=
  [("image", .text i.image),
    ("cpus", .text i.cpus),
    ("memory", .text i.memory),
    ("pids_limit", .natural i.pidsLimit),
    ("tmpfs_size", .text i.tmpfsSize),
    ("read_only", .flag i.readOnly),
    ("network_disabled", .flag i.networkDisabled),
    ("no_new_privileges", .flag i.noNewPrivileges)] ++
  Settings.optional "seccomp_profile" i.seccompProfile

/-- The fields of the settings of logging, in the order in which they are written. -/
def LogSettings.fields (c : LogSettings) : List (String × Toml.Written) :=
  [("level", .text c.level), ("format", .text c.format.name)] ++ Settings.optional "dir" c.dir

namespace Settings

/-- The sections with their fields, in the order in which they are written. -/
def tables (s : Settings) : List (String × List (String × Toml.Written)) := [
  ("server", s.server.fields),
  ("llm", s.llm.fields),
  ("render", s.render.fields),
  ("sandbox", s.sandbox.fields),
  ("logging", s.logging.fields)]

/-- The text of a settings file that says the same. -/
def toToml (s : Settings) : String := Toml.writeTables s.tables

/-- Can the value be written?  Numbers of a settings file have 64 bits with a sign. -/
def isWritable : Toml.Written → Bool
  | .natural n => n < Nat.pow 2 63
  | .text _ | .flag _ | .texts _ => true

/-- The text of a settings file that says the same, if every value can be written. -/
def toToml? (s : Settings) : Option String :=
  if s.tables.all fun t => t.2.all fun f => isWritable f.2 then some s.toToml else none

/-- A written value as a JSON value. -/
def writtenJson : Toml.Written → Json.Value
  | .text s => .text s
  | .natural n => .natural n
  | .flag b => .flag b
  | .texts ss => Json.Value.texts ss

/-- The settings as a JSON value. -/
def toJson (s : Settings) : Json.Value :=
  .record (s.tables.map fun t => (t.1, .record (t.2.map fun f => (f.1, writtenJson f.2))))

end Settings

/-! ## Checks -/

/-- A setting that is refused. -/
structure InvalidSetting where
  key : String
  value : String
  reason : String
  deriving DecidableEq, Repr

/-- The wording of a refusal. -/
def InvalidSetting.message (e : InvalidSetting) : String :=
  "Invalid value '" ++ e.value ++ "' for " ++ e.key ++ ": " ++ e.reason

namespace Settings

/-- The most retries of a job; each may cost one repair. -/
def maxRetriesBound : Nat := 10

/-- A count that has to be positive. -/
def positive (key : String) (n : Nat) : List InvalidSetting :=
  if n == 0 then [⟨key, "0", "must be at least 1"⟩] else []

/-- Everything about the settings that no part of the program can work with. -/
def invalid (s : Settings) : List InvalidSetting :=
  positive "render.workers" s.render.workers ++
  positive "render.timeout_secs" s.render.timeoutSeconds ++
  positive "render.queue_capacity" s.render.queueCapacity ++
  (if maxRetriesBound < s.render.maxRetries then
    [⟨"render.max_retries", toString s.render.maxRetries,
      "must be at most " ++ toString maxRetriesBound⟩]
  else [])

/-- The first setting that is refused. -/
def check (s : Settings) : Option InvalidSetting := s.invalid.head?

end Settings

end SceneRender
