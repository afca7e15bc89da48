import SceneRender.Settings.FieldPattern

/-!
# Log filters

A log filter is a list of directives with commas between them.  A directive is a
level, or the target that it is about, perhaps with a span in square brackets and
the span's fields in braces, and perhaps with a level after an equals sign.  The
value of a field is a number or a regular expression.

Blanks around a directive do not count when its parts are told apart.  The parts
are then cut from the directive with its blanks, at the same offsets in bytes; so
a level before blanks is none.
-/

namespace SceneRender.LogFilter

open SceneRender.Text

/-- The names of the levels. -/
def levelNames : List String := ["error", "warn", "info", "debug", "trace", "off"]

/-- Is the text a level?  Levels are named in any case, or numbered up to five. -/
def isLevel (cs : List Char) : Bool :=
  let digits := match cs with
    | '+' :: rest => rest
    | _ => cs
  let numbered := !digits.isEmpty && digits.all Char.isDigit &&
    digits.foldl (fun n c => n * 10 + (c.toNat - '0'.toNat)) 0 ≤ 5
  numbered || levelNames.contains ((String.ofList cs).map Char.toLower)

/-- May a directive begin with the character? -/
def mayBegin (c : Char) : Bool :=
  c == '-' || c == ':' || c == '_' || isAlphanumeric c

/-- What part of a directive is being read, and the offset it starts at. -/
inductive State where
  | start
  | levelOrTarget
  | span (begins : Nat)
  | field (begins : Nat)
  | afterFields
  | afterSpan
  | level (begins : Nat)
  | refused
  deriving DecidableEq, Repr

/-- The characters from an offset in bytes on, if a character begins there. -/
def fromByte? : Nat → List Char → Option (List Char)
  | 0, cs => some cs
  | _, [] => none
  | n + 1, c :: rest => if c.utf8Size ≤ n + 1 then fromByte? (n + 1 - c.utf8Size) rest else none
  termination_by _ cs => cs.length

/-- The number of bytes of a text. -/
def byteCount (cs : List Char) : Nat := cs.foldl (fun n c => n + c.utf8Size) 0

/-- The characters between two offsets in bytes, if both lie between characters. -/
def cut? (whole : List Char) (start stop : Nat) : Option (List Char) := do
  let front ← fromByte? start whole
  let back ← fromByte? stop whole
  return front.take (front.length - back.length)

/-- May the text stand between the braces?  It is the name of a field, perhaps with a
value after an equals sign; what follows another equals sign does not count. -/
def isField (cs : List Char) : Bool :=
  !cs.isEmpty &&
    match cs.dropWhile (· != '=') with
    | [] => true
    | _ :: rest => FieldPattern.isValue (rest.takeWhile (· != '='))

/-- Takes the character at an offset of a directive, given the directive with its
blanks. -/
def State.next (whole : List Char) (s : State) (offset : Nat) (c : Char) : State :=
  -- goes on if the part up to here can be cut out and passes a test
  let cut (start : Nat) (test : List Char → Bool) (after : State) : State :=
    if (cut? whole start offset).any test then after else .refused
  match s with
  | start =>
    if c == '[' then .span (offset + 1) else if mayBegin c then .levelOrTarget else .refused
  | levelOrTarget =>
    if c == '=' then cut 0 (fun _ => true) (.level (offset + 1))
    else if c == '[' then cut 0 (fun _ => true) (.span (offset + 1))
    else .levelOrTarget
  | span begins =>
    if c == ']' then cut begins (fun _ => true) .afterSpan
    else if c == '\x7b' then cut begins (fun _ => true) (.field (offset + 1))
    else s
  | field begins => if c == '\x7d' then cut begins isField .afterFields else s
  | afterFields => if c == ']' then .afterSpan else .refused
  | afterSpan => if c == '=' then .level (offset + 1) else .refused
  | level _ | refused => s

/-- The state after the characters from an offset on. -/
def State.run (whole : List Char) : State → Nat → List Char → State
  | s, _, [] => s
  | s, offset, c :: rest => State.run whole (s.next whole offset c) (offset + c.utf8Size) rest

/-- Why a text is no filter. -/
inductive Fault where
  /-- A level is meant, but it is none. -/
  | level
  | malformed
  deriving DecidableEq, Repr

/-- What is wrong when a directive ends here. -/
def State.faultAtEnd? (whole : List Char) : State → Option Fault
  | levelOrTarget | afterSpan => none
  | level begins =>
    match fromByte? begins whole with
    | none => some .malformed
    | some cs => if cs.isEmpty || isLevel cs then none else some .level
  | start | span _ | field _ | afterFields | refused => some .malformed

/-- What is wrong with a directive. -/
def directiveFault? (cs : List Char) : Option Fault :=
  (State.run cs .start 0 (trimChars cs)).faultAtEnd? cs

/-- What is wrong with a filter.  Empty directives do not count. -/
def fault? (text : String) : Option Fault :=
  ((text.splitOn ",").filter (· != "")).findSome? fun d => directiveFault? d.toList

/-- Is the text a filter? -/
def isFilter (text : String) : Bool := (fault? text).isNone

/-- The wording for a text that is no filter. -/
def invalidMessage (text : String) : String := "Invalid log level directive '" ++ text ++ "'"

/-- The wording for a level that is none. -/
def levelMessage : String :=
  "error parsing level filter: expected one of \"off\", \"error\", \"warn\", \"info\", " ++
    "\"debug\", \"trace\", or a number 0-5"

/-- The reasons of a fault, the nearest first. -/
def Fault.causes : Fault → List String
  | level => [levelMessage, levelMessage]
  | malformed => ["invalid filter directive"]

end SceneRender.LogFilter
