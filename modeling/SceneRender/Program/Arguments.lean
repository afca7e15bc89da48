/-!
# The command line

What the words on the command line ask for.  The words are read from left to
right.  Options may stand before and after the command they belong to, and a word
behind two dashes is never an option.  An option is used once at most; of the
settings file given before and behind the command the latter counts.  The first
word that cannot be understood ends the reading, and so does a question for help.
-/

namespace SceneRender

/-- What the program is to do. -/
inductive Command where
  | serve
  | validate (file : String) (asJson : Bool)
  | render (file : String) (quality : Option String) (allowRetry : Bool)
  | config
  deriving DecidableEq, Repr

namespace CommandLine

/-! ## The vocabulary -/

/-- An option. -/
structure Switch where
  long : String
  short : Option Char := none
  /-- What stands for the value of an option that has one. -/
  value : Option String := none
  /-- Must the value be there and not be empty? -/
  isPath : Bool := false
  help : String
  deriving DecidableEq, Repr

/-- A command with its options. -/
structure Verb where
  name : String
  about : String
  takesFile : Bool := false
  switches : List Switch := []
  deriving DecidableEq, Repr

/-- The name of the program. -/
def programName : String := "renderforge"

/-- The version of the program. -/
def version : String := "0.1.0"

/-- What the program is for. -/
def about : String := "Validate, render and repair generated Manim scenes"

/-- The option that names a settings file; every command has it. -/
def configSwitch : Switch where
  long := "config"
  value := some "CONFIG"
  isPath := true
  help := "Path to a TOML config file. Defaults to .renderforge/renderforge.toml when present"

/-- The option for the indented form of a verdict. -/
def jsonSwitch : Switch where
  long := "json"
  help := "Print the result as JSON"

/-- The option for the quality. -/
def qualitySwitch : Switch where
  long := "quality"
  short := some 'q'
  value := some "QUALITY"
  help := "Quality profile (1080p30, 720p30, 480p15). Defaults to render.default_quality"

/-- The option that forbids repairs. -/
def noRetrySwitch : Switch where
  long := "no-retry"
  help := "Fail on the first validation or render error instead of repairing"

/-- The question for help. -/
def helpSwitch : Switch where
  long := "help"
  short := some 'h'
  help := "Print help"

/-- The question for the version. -/
def versionSwitch : Switch where
  long := "version"
  short := some 'V'
  help := "Print version"

/-- The command that serves requests. -/
def serveVerb : Verb where
  name := "serve"
  about := "Start the HTTP API and render workers"

/-- The command that validates a file. -/
def validateVerb : Verb where
  name := "validate"
  about := "Check a scene file against the safety and structure rules"
  takesFile := true
  switches := [jsonSwitch]

/-- The command that renders a file. -/
def renderVerb : Verb where
  name := "render"
  about := "Render a scene file through the full pipeline and print the final job"
  takesFile := true
  switches := [qualitySwitch, noRetrySwitch]

/-- The command that shows the settings. -/
def configVerb : Verb where
  name := "config"
  about := "Show the effective configuration (secrets redacted)"

/-- All commands. -/
def verbs : List Verb := [serveVerb, validateVerb, renderVerb, configVerb]

/-- What the command for help is for. -/
def helpAbout : String := "Print this message or the help of the given subcommand(s)"

/-! ## Help -/

/-- The names of an option as help shows them. -/
def Switch.label (s : Switch) : String :=
  (match s.short with
    | some c => "-" ++ String.singleton c ++ ", "
    | none => "    ") ++
  "--" ++ s.long ++
  (match s.value with
    | some v => " <" ++ v ++ ">"
    | none => "")

/-- Two columns under a title. -/
def columns (title : String) (rows : List (String × String)) : String :=
  let width := rows.foldl (fun w row => max w row.1.length) 0
  title ++ ":\n" ++ String.join (rows.map fun row =>
    "  " ++ row.1.pushn ' ' (width + 2 - row.1.length) ++ row.2 ++ "\n")

/-- The options under their title. -/
def optionColumns (switches : List Switch) : String :=
  columns "Options" (switches.map fun s => (s.label, s.help))

/-- The sections of a help text. -/
def helpText (about usage : String) (sections : List String) : String :=
  "\n".intercalate ((about ++ "\n") ::
    ("Usage: " ++ programName ++ " " ++ usage ++ "\n") :: sections)

/-- The help about the program. -/
def programHelp : String :=
  helpText about "[OPTIONS] <COMMAND>" [
    columns "Commands" (verbs.map (fun v => (v.name, v.about)) ++ [("help", helpAbout)]),
    optionColumns [configSwitch, helpSwitch, versionSwitch]]

/-- The help about a command. -/
def Verb.helpText (v : Verb) : String :=
  CommandLine.helpText v.about
    (v.name ++ " [OPTIONS]" ++ if v.takesFile then " <FILE>" else "")
    ((if v.takesFile then [columns "Arguments" [("<FILE>", "")]] else []) ++
      [optionColumns (configSwitch :: v.switches ++ [helpSwitch])])

/-- The help about the command for help. -/
def helpHelp : String :=
  helpText helpAbout "help [COMMAND]..." [
    columns "Arguments" [("[COMMAND]...", "Print help for the subcommand(s)")]]

/-- The version as it is shown. -/
def versionText : String := programName ++ " " ++ version ++ "\n"

/-! ## Reading options -/

/-- How the reading of a command line can end early. -/
inductive Stop where
  /-- The command line asks for a text. -/
  | shown (text : String)
  /-- The command line cannot be understood. -/
  | misused
  deriving DecidableEq, Repr

/-- Options with their values; an option without a value has an empty one. -/
abbrev Taken := List (Switch × String)

/-- The value of an option that was taken. -/
def Taken.value? (taken : Taken) (s : Switch) : Option String :=
  (taken.find? fun t => t.1.long == s.long).map (·.2)

/-- Was an option taken? -/
def Taken.has (taken : Taken) (s : Switch) : Bool := (taken.value? s).isSome

/-- Takes an option, unless it was taken before or its value must not be empty. -/
def Taken.push (taken : Taken) (s : Switch) (value : String) : Except Stop Taken :=
  if taken.has s || (s.isPath && value.isEmpty) then .error .misused
  else .ok ((s, value) :: taken)

/-- Does the word look like an option? -/
def isOption (word : String) : Bool := word.startsWith "-" && word != "-"

/-- What a place on the command line understands. -/
structure Level where
  switches : List Switch
  help : String
  version : Option String

/-- The text that an option asks for. -/
def Level.shown? (level : Level) (s : Switch) : Option String :=
  if s.long == helpSwitch.long then some level.help
  else if s.long == versionSwitch.long then level.version else none

/-- The options that a level understands. -/
def Level.all (level : Level) : List Switch :=
  level.switches ++ [helpSwitch] ++ if level.version.isSome then [versionSwitch] else []

/-- Takes an option that has no value. -/
def Level.takeFlag (level : Level) (taken : Taken) (s : Switch) : Except Stop Taken :=
  match level.shown? s with
  | some text => .error (.shown text)
  | none => taken.push s ""

/-- Takes an option whose value is the next word.  A word that looks like an option
is no value. -/
def takeNext (taken : Taken) (s : Switch) : List String → Except Stop (Taken × List String)
  | [] => .error .misused
  | word :: rest =>
    if isOption word then .error .misused
    else do return (← taken.push s word, rest)

/-- Reads an option by its long name. -/
def Level.takeLong (level : Level) (taken : Taken) (body : String) (rest : List String) :
    Except Stop (Taken × List String) :=
  let (name, attached) : String × Option String := match body.splitOn "=" with
    | name :: more@(_ :: _) => (name, some ("=".intercalate more))
    | _ => (body, none)
  match level.all.find? (·.long == name) with
  | none => .error .misused
  | some s =>
    match s.value, attached with
    | some _, some value => do return (← taken.push s value, rest)
    | some _, none => takeNext taken s rest
    | none, some _ => .error .misused
    | none, none => do return (← level.takeFlag taken s, rest)

/-- Reads options by their letters.  A letter with a value takes the letters behind
it, or the next word when there are none. -/
def Level.takeLetters (level : Level) (taken : Taken) (rest : List String) :
    List Char → Except Stop (Taken × List String)
  | [] => .ok (taken, rest)
  | c :: letters =>
    match level.all.find? (·.short == some c) with
    | none => .error .misused
    | some s =>
      if s.value.isSome then
        match letters with
        | [] => takeNext taken s rest
        | '=' :: value => do return (← taken.push s (String.ofList value), rest)
        | value => do return (← taken.push s (String.ofList value), rest)
      else do level.takeLetters (← level.takeFlag taken s) rest letters

/-- Reads the options in a word that looks like one. -/
def Level.takeOption (level : Level) (taken : Taken) (word : String) (rest : List String) :
    Except Stop (Taken × List String) :=
  match word.toList with
  | '-' :: '-' :: body => level.takeLong taken (String.ofList body) rest
  | '-' :: letters => level.takeLetters taken rest letters
  | _ => .error .misused

/-! ## Reading commands -/

/-- The settings file and the command. -/
structure Invocation where
  config : Option String
  command : Command
  deriving DecidableEq, Repr

/-- The level of a command. -/
def Verb.level (v : Verb) : Level := ⟨configSwitch :: v.switches, v.helpText, none⟩

/-- Takes a word as the file of a command. -/
def Verb.takeFile (v : Verb) (file : Option String) (word : String) : Except Stop String :=
  if v.takesFile && file.isNone && !word.isEmpty then .ok word else .error .misused

/-- Reads the words behind a command.  Each step reads one word at least, so that
as many steps as there are words are enough. -/
def Verb.read (v : Verb) : Nat → Bool → Taken → Option String → List String →
    Except Stop (Taken × Option String)
  | _, _, taken, file, [] => .ok (taken, file)
  | 0, _, _, _, _ :: _ => .error .misused
  | steps + 1, isLiteral, taken, file, word :: rest =>
    if isLiteral || !isOption word then do
      v.read steps isLiteral taken (some (← v.takeFile file word)) rest
    else if word == "--" then v.read steps true taken file rest
    else do
      let (taken, rest) ← v.level.takeOption taken word rest
      v.read steps isLiteral taken file rest

/-- The command of a verb with its options and its file. -/
def commandOf (v : Verb) (taken : Taken) : Option String → Except Stop Command
  | none =>
    if v.takesFile then .error .misused
    else if v.name == serveVerb.name then .ok .serve else .ok .config
  | some file =>
    if v.name == validateVerb.name then .ok (.validate file (taken.has jsonSwitch))
    else .ok (.render file (taken.value? qualitySwitch) (!taken.has noRetrySwitch))

/-- Reads the words behind the command for help. -/
def readHelp : List String → Stop
  | [] => .shown programHelp
  | [word] =>
    if word == helpSwitch.long then .shown helpHelp
    else match verbs.find? (·.name == word) with
      | some v => .shown v.helpText
      | none => .misused
  | _ => .misused

/-- The level of the program. -/
def programLevel : Level := ⟨[configSwitch], programHelp, some versionText⟩

/-- Reads words up to the command, and the command.  Each step reads one word at
least. -/
def readProgram : Nat → Taken → List String → Except Stop Invocation
  | _, _, [] => .error .misused
  | 0, _, _ :: _ => .error .misused
  | steps + 1, taken, word :: rest =>
    if word == "--" then .error .misused
    else if isOption word then do
      let (taken, rest) ← programLevel.takeOption taken word rest
      readProgram steps taken rest
    else if word == helpSwitch.long then .error (readHelp rest)
    else match verbs.find? (·.name == word) with
      | none => .error .misused
      | some v => do
        let (behind, file) ← v.read rest.length false [] none rest
        let command ← commandOf v behind file
        return ⟨(behind.value? configSwitch).or (taken.value? configSwitch), command⟩

/-- What a command line asks for. -/
def read (words : List String) : Except Stop Invocation :=
  readProgram words.length [] words

end CommandLine

end SceneRender
