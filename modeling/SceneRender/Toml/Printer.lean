/-!
# Writing TOML

Strings are written in the plainest form that can hold them: between double
quotes if nothing has to be escaped, between single quotes if a backslash or a
double quote is the only trouble, over several lines for a text with line breaks,
and with escapes otherwise.  A list of more than one item takes a line for each.
-/

namespace SceneRender.Toml

/-- What matters about a text for the choice of its form. -/
structure TextTraits where
  hasControl : Bool
  hasBackslash : Bool
  hasNewline : Bool
  singleQuotes : Nat
  doubleQuotes : Nat

/-- The longest run of a character; `run` is the length of the run just before. -/
def longestRun (c : Char) (run : Nat) : List Char → Nat
  | [] => run
  | d :: rest => if d == c then longestRun c (run + 1) rest else max run (longestRun c 0 rest)

/-- Is the character a control character that a string cannot hold as it is? -/
def isHardControl (c : Char) : Bool :=
  (c.toNat < 32 && c != '\t' && c != '\n') || c.toNat == 127

/-- The traits of a text. -/
def traits (cs : List Char) : TextTraits where
  hasControl := cs.any isHardControl
  hasBackslash := cs.contains '\\'
  hasNewline := cs.contains '\n'
  singleQuotes := longestRun '\'' 0 cs
  doubleQuotes := longestRun '"' 0 cs

/-- A number as at least four upper case hexadecimal digits. -/
def hex4 (n : Nat) : List Char :=
  let digits := (Nat.toDigits 16 n).map Char.toUpper
  List.replicate (4 - digits.length) '0' ++ digits

/-- The characters of a text with escapes.  In a long string a line break stands as
it is, and so do two double quotes in a row; `quotes` is the number of quotes just
before. -/
def escaped (long : Bool) (quotes : Nat) : List Char → List Char
  | [] => []
  | c :: rest =>
    if c == '"' then
      if quotes < (if long then 2 else 0) then c :: escaped long (quotes + 1) rest
      else '\\' :: c :: escaped long 0 rest
    else
      let shown : List Char :=
        if c == '\\' then ['\\', '\\']
        else if c == '\t' then ['\\', 't']
        else if c == '\n' then if long then ['\n'] else ['\\', 'n']
        else if c == '\r' then ['\\', 'r']
        else if c.toNat == 8 then ['\\', 'b']
        else if c.toNat == 12 then ['\\', 'f']
        else if isHardControl c then ['\\', 'u'] ++ hex4 c.toNat
        else [c]
      shown ++ escaped long 0 rest

/-- A text between quotes, in the plainest form. -/
def writeText (s : String) : String :=
  let cs := s.toList
  let t := traits cs
  let longStart : List Char := if t.hasNewline then ['\n'] else []
  let basic : List Char := '"' :: escaped false 0 cs ++ ['"']
  let long : List Char := "\"\"\"".toList ++ longStart ++ escaped true 0 cs ++ "\"\"\"".toList
  let chosen : List Char :=
    if !t.hasControl && !t.hasBackslash && t.doubleQuotes == 0 && !t.hasNewline then basic
    else if !t.hasControl && t.singleQuotes == 0 && !t.hasNewline then '\'' :: cs ++ ['\'']
    else if !t.hasControl && !t.hasBackslash && t.doubleQuotes ≤ 2 then long
    else if !t.hasControl && t.singleQuotes ≤ 2 then
      "'''".toList ++ longStart ++ cs ++ "'''".toList
    else if t.hasNewline then long
    else basic
  String.ofList chosen

/-- A value that can be written. -/
inductive Written where
  | text (s : String)
  | natural (n : Nat)
  | flag (b : Bool)
  | texts (ss : List String)

/-- A list of texts. -/
def writeTexts (ss : List String) : String :=
  match ss with
  | [] => "[]"
  | [s] => "[" ++ writeText s ++ "]"
  | more => "[\n" ++ String.join (more.map fun s => "    " ++ writeText s ++ ",\n") ++ "]"

/-- A value as it is written. -/
def Written.print : Written → String
  | text s => writeText s
  | natural n => toString n
  | flag b => toString b
  | texts ss => writeTexts ss

/-- A table with its fields. -/
def writeTable (name : String) (fields : List (String × Written)) : String :=
  "[" ++ name ++ "]\n" ++ String.join (fields.map fun f => f.1 ++ " = " ++ f.2.print ++ "\n")

/-- A document of tables, with a blank line between each two. -/
def writeTables (tables : List (String × List (String × Written))) : String :=
  "\n".intercalate (tables.map fun t => writeTable t.1 t.2)

end SceneRender.Toml
