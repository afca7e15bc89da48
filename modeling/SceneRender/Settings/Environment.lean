import SceneRender.Settings.Basic

/-!
# Settings from the environment

Variables of the environment override settings, one variable a setting, in a
fixed order.  A blank variable counts as absent.  The first variable that cannot
be read ends the round; what was overridden before stays.
-/

namespace SceneRender

open SceneRender.Text

namespace Settings

/-- Why a text is no natural number within bounds. -/
inductive NumberFault where
  | empty
  | invalidDigit
  | tooLarge
  deriving DecidableEq, Repr

/-- The wording of a fault. -/
def NumberFault.message : NumberFault → String
  | empty => "cannot parse integer from empty string"
  | invalidDigit => "invalid digit found in string"
  | tooLarge => "number too large to fit in target type"

/-- Reads digits; the first that is none, or the first that makes the number too
large, decides. -/
def readDigits (largest : Nat) (n : Nat) : List Char → Except NumberFault Nat
  | [] => .ok n
  | c :: rest =>
    if !c.isDigit then .error .invalidDigit
    else
      let next := n * 10 + (c.toNat - '0'.toNat)
      if largest < next then .error .tooLarge else readDigits largest next rest

/-- Reads a natural number of at most `largest`; a plus sign may stand before it. -/
def readNatural (largest : Nat) (text : String) : Except NumberFault Nat :=
  match text.toList with
  | [] => .error .empty
  | ['+'] => .error .invalidDigit
  | '+' :: digits => readDigits largest 0 digits
  | digits => readDigits largest 0 digits

/-- The flag that a text spells. -/
def readFlag? (text : String) : Option Bool :=
  let word := (trim text).map Char.toLower
  if ["1", "true", "yes", "on"].contains word then some true
  else if ["0", "false", "no", "off"].contains word then some false
  else none

/-- What the value of a variable does to the settings. -/
inductive Override where
  | text (fill : String → Settings → Settings)
  | natural (largest : Nat) (fill : Nat → Settings → Settings)
  | flag (fill : Bool → Settings → Settings)
  | named (read : String → Except String (Settings → Settings))

/-- A name that a table knows, or the wording that it is unknown. -/
def lookup {α : Type} (ofText? : String → Option α) (unknown : String → String)
    (fill : α → Settings → Settings) : Override :=
  .named fun text =>
    match ofText? text with
    | some a => .ok (fill a)
    | none => .error (unknown text)

/-- Splits a list at its commas; blanks around an item and empty items do not
count. -/
def splitOrigins (text : String) : List String :=
  ((text.splitOn ",").map trim).filter (· != "")

/-- The largest number of some bits. -/
def largest (bits : Nat) : Nat := Nat.pow 2 bits - 1

/-- The variables with what they override, in the order in which they are read. -/
def overrides : List (String × Override) := [
  ("HOST", .text fun v s => { s with server := { s.server with host := v } }),
  ("PORT", .natural (largest 16) fun n s => { s with server := { s.server with port := n } }),
  ("CORS_ORIGINS", .text fun v s =>
    { s with server := { s.server with corsOrigins := splitOrigins v } }),
  ("RATE_LIMIT_PER_MIN", .natural (largest 32) fun n s =>
    { s with server := { s.server with rateLimitPerMinute := n } }),
  ("LLM_PROVIDER", lookup Provider.ofText? Provider.unknownMessage fun p s =>
    { s with llm := { s.llm with provider := p } }),
  ("LLM_REQUEST_TIMEOUT_SEC", .natural (largest 64) fun n s =>
    { s with llm := { s.llm with requestTimeoutSeconds := n } }),
  ("OPENAI_API_KEY", .text fun v s => { s with llm := { s.llm with openaiApiKey := some v } }),
  ("OPENAI_MODEL", .text fun v s => { s with llm := { s.llm with openaiModel := v } }),
  ("OLLAMA_BASE_URL", .text fun v s => { s with llm := { s.llm with ollamaBaseUrl := v } }),
  ("OLLAMA_MODEL", .text fun v s => { s with llm := { s.llm with ollamaModel := v } }),
  ("RENDER_MODE", lookup RenderMode.ofName? RenderMode.unknownMessage fun m s =>
    { s with render := { s.render with mode := m } }),
  ("RENDER_TIMEOUT_SEC", .natural (largest 64) fun n s =>
    { s with render := { s.render with timeoutSeconds := n } }),
  ("MAX_RENDER_RETRIES", .natural (largest 32) fun n s =>
    { s with render := { s.render with maxRetries := n } }),
  ("DEFAULT_RENDER_QUALITY", lookup Quality.ofName? Quality.unknownMessage fun q s =>
    { s with render := { s.render with defaultQuality := q } }),
  ("VIDEO_STORAGE_ROOT", .text fun v s => { s with render := { s.render with storageRoot := v } }),
  ("DATABASE_PATH", .text fun v s => { s with render := { s.render with databasePath := v } }),
  ("USE_QUEUE", .flag fun b s => { s with render := { s.render with useQueue := b } }),
  ("RENDER_WORKERS", .natural (largest 64) fun n s =>
    { s with render := { s.render with workers := n } }),
  ("RENDERER_IMAGE", .text fun v s => { s with sandbox := { s.sandbox with image := v } }),
  ("SANDBOX_CPU", .text fun v s => { s with sandbox := { s.sandbox with cpus := v } }),
  ("SANDBOX_MEMORY", .text fun v s => { s with sandbox := { s.sandbox with memory := v } }),
  ("SANDBOX_PIDS_LIMIT", .natural (largest 32) fun n s =>
    { s with sandbox := { s.sandbox with pidsLimit := n } }),
  ("SANDBOX_READ_ONLY", .flag fun b s => { s with sandbox := { s.sandbox with readOnly := b } }),
  ("SANDBOX_NETWORK_DISABLED", .flag fun b s =>
    { s with sandbox := { s.sandbox with networkDisabled := b } }),
  ("SANDBOX_NO_NEW_PRIVILEGES", .flag fun b s =>
    { s with sandbox := { s.sandbox with noNewPrivileges := b } }),
  ("SANDBOX_SECCOMP_PROFILE", .text fun v s =>
    { s with sandbox := { s.sandbox with seccompProfile := some v } }),
  ("LOG_LEVEL", .text fun v s => { s with logging := { s.logging with level := v } }),
  ("LOG_FORMAT", lookup LogFormat.ofText? LogFormat.unknownMessage fun f s =>
    { s with logging := { s.logging with format := f } }),
  ("LOG_DIR", .text fun v s => { s with logging := { s.logging with dir := some v } })]

/-- What the value of a variable does, or why it is refused. -/
def Override.read (o : Override) (value : String) : Except String (Settings → Settings) :=
  match o with
  | .text fill => .ok (fill value)
  | .natural largest fill =>
    match readNatural largest (trim value) with
    | .ok n => .ok (fill n)
    | .error e => .error e.message
  | .flag fill =>
    match readFlag? value with
    | some b => .ok (fill b)
    | none => .error "expected a boolean"
  | .named read => read (trim value)

/-- The value of a variable, unless it is blank. -/
def presentVariable? (environment : String → Option String) (name : String) : Option String :=
  (environment name).filter fun v => !isBlankText v

/-- Applies overrides one after the other: the settings, and the refusal that ended
the round. -/
def applyOverrides (environment : String → Option String) :
    List (String × Override) → Settings → Settings × Option InvalidSetting
  | [], s => (s, none)
  | (name, o) :: rest, s =>
    match presentVariable? environment name with
    | none => applyOverrides environment rest s
    | some value =>
      match o.read value with
      | .ok change => applyOverrides environment rest (change s)
      | .error reason => (s, some ⟨name, value, reason⟩)

/-- The settings after the environment's overrides. -/
def applyEnvironment (s : Settings) (environment : String → Option String) :
    Settings × Option InvalidSetting :=
  applyOverrides environment overrides s

end Settings

end SceneRender
