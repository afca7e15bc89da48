import SceneRender.Settings.Environment
import SceneRender.Settings.EnvironmentFile
import SceneRender.Settings.LogFilter

/-!
# Loading settings

The settings that count: those of the settings file, or of the usual one if it is
there, or else the defaults; then what the environment overrides, with the
variables of the environment file; and then the checks.
-/

namespace SceneRender

/-- Why a file is not read as text. -/
inductive ReadFault where
  | disk (fault : DiskFault)
  | notText
  deriving DecidableEq, Repr

/-- The wording of a reason. -/
def ReadFault.message : ReadFault → String
  | disk fault => fault.message
  | notText => "stream did not contain valid UTF-8"

/-- Reads a file as text. -/
def Disk.readText (d : Disk) (path : String) : Except ReadFault String :=
  match d.read path with
  | .error fault => .error (.disk fault)
  | .ok bytes =>
    match String.fromUTF8? bytes with
    | some text => .ok text
    | none => .error .notText

/-- Why there are no settings. -/
inductive SettingsFault where
  | unreadable (path : String) (fault : ReadFault)
  /-- The file is no settings file, as a report tells. -/
  | malformed (path report : String)
  | invalid (setting : InvalidSetting)
  deriving DecidableEq, Repr

namespace SettingsFault

/-- The reasons of a fault. -/
def causes : SettingsFault → List String
  | unreadable _ fault => [fault.message]
  | malformed _ report => [report]
  | invalid _ => []

/-- The wording of a fault. -/
def message : SettingsFault → String
  | unreadable path fault => "Failed to read config file at " ++ path ++ ": " ++ fault.message
  | malformed path report => "Failed to parse config file at " ++ path ++ ": " ++ report
  | invalid setting => setting.message

end SettingsFault

namespace Settings

/-- Reads a settings file. -/
def ofFile (path : String) (d : Disk) : Except SettingsFault Settings :=
  match d.readText path with
  | .error fault => .error (.unreadable path fault)
  | .ok text =>
    match ofToml text with
    | .ok s => .ok s
    | .error report => .error (.malformed path report)

/-- Where settings are looked for when no file is named. -/
def usualPath : String := ".renderforge/renderforge.toml"

/-- The file that settings are read from. -/
def source? (path : Option String) (d : Disk) : Option String :=
  path.or (if d.isThere usualPath then some usualPath else none)

/-- A variable that makes the settings invalid. -/
def orInvalid : Option InvalidSetting → Except SettingsFault Unit
  | none => .ok ()
  | some setting => .error (.invalid setting)

/-- The settings that count. -/
def load (path : Option String) (environment : Environment) (d : Disk) :
    Except SettingsFault Settings := do
  let start ← match source? path d with
    | some path => ofFile path d
    | none => .ok .default
  let (s, refused) := start.applyEnvironment fun name => environment.lookup name
  orInvalid refused
  orInvalid s.check
  return s

end Settings

/-! ## Logging -/

/-- Why nothing can be logged. -/
inductive LogFault where
  | filter (level : String) (fault : LogFilter.Fault)
  | folder (path : String) (fault : DiskFault)
  deriving DecidableEq, Repr

namespace LogFault

/-- The wording of a fault. -/
def message : LogFault → String
  | filter level _ => LogFilter.invalidMessage level
  | folder path _ => "Failed to create log directory " ++ path

/-- The reasons of a fault. -/
def causes : LogFault → List String
  | filter _ fault => fault.causes
  | folder _ fault => [fault.message]

end LogFault

/-- The variable whose filter counts before the one of the settings. -/
def LogSettings.filterVariable : String := "RUST_LOG"

/-- Makes logging ready: a filter is needed, and the folder of the log files. -/
def LogSettings.prepare (s : LogSettings) (environment : Environment) (d : Disk) :
    Except LogFault Unit × Disk :=
  let isGiven := (environment.lookup filterVariable).any LogFilter.isFilter
  match if isGiven then none else LogFilter.fault? s.level with
  | some fault => (.error (.filter s.level fault), d)
  | none =>
    match s.dir with
    | none => (.ok (), d)
    | some dir =>
      match d.makeFolders dir with
      | (.ok (), d) => (.ok (), d)
      | (.error fault, d) => (.error (.folder dir fault), d)

end SceneRender
