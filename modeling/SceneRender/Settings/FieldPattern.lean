import SceneRender.Text.Alphanumeric
import SceneRender.Text.Blank

/-!
# Patterns for the fields of a span

A regular expression as it may stand behind the equals sign of a field.  Only one
question is asked: is it one?  The field it belongs to stands between braces, so
a closing brace cannot occur in it, and whatever an opening brace would begin
outside of a class never ends.

Groups, classes and repetitions are read with the flags that are in force: `x`
lets blanks and comments count for nothing, `-u` turns Unicode off, and then
nothing may match a part of a character.  A boundary between words is refused
while Unicode is on, because it cannot be decided one byte at a time.
-/

namespace SceneRender.FieldPattern

open SceneRender.Text

/-- The flags that decide how a pattern is read. -/
structure Mode where
  isSpaced : Bool := false
  isUnicode : Bool := true

/-- The rest after blanks, and after comments up to the end of their line. -/
def pastBlanks (inComment : Bool) : List Char → List Char
  | [] => []
  | c :: rest =>
    if inComment then pastBlanks (c != '\n') rest
    else if c == '#' then pastBlanks true rest
    else if isBlank c then pastBlanks false rest
    else c :: rest

/-- The rest after what counts for nothing. -/
def Mode.skip (m : Mode) (cs : List Char) : List Char :=
  if m.isSpaced then pastBlanks false cs else cs

/-! ## Characters and classes -/

/-- What one character or one escape stands for. -/
inductive Piece where
  | literal (c : Char)
  /-- A class of characters; `beyond` says that it holds characters beyond ASCII. -/
  | kind (beyond : Bool)
  /-- The beginning or the end of the text. -/
  | anchor
  | wordBoundary
  deriving DecidableEq, Repr

/-- The value of a hexadecimal digit. -/
def hexDigit? (c : Char) : Option Nat :=
  if c.isDigit then some (c.toNat - '0'.toNat)
  else if 'a' ≤ c && c ≤ 'f' then some (c.toNat - 'a'.toNat + 10)
  else if 'A' ≤ c && c ≤ 'F' then some (c.toNat - 'A'.toNat + 10)
  else none

/-- Reads so many hexadecimal digits. -/
def hexNumber? (m : Mode) : Nat → Nat → List Char → Option (Nat × List Char)
  | 0, n, cs => some (n, cs)
  | count + 1, n, cs =>
    match m.skip cs with
    | [] => none
    | c :: rest => (hexDigit? c).bind fun d => hexNumber? m count (n * 16 + d) rest

/-- Reads the character that so many hexadecimal digits name. -/
def hexCharacter? (m : Mode) (count : Nat) (cs : List Char) : Option (Piece × List Char) := do
  let (n, rest) ← hexNumber? m count 0 cs
  if n < 0xD800 || (0xDFFF < n && n < 0x110000) then some (.literal (Char.ofNat n), rest)
  else none

/-- Reads the one letter that names a general category. -/
def category? (m : Mode) (cs : List Char) : Option (Piece × List Char) :=
  match m.skip cs with
  | [] => none
  | c :: rest =>
    if m.isUnicode && "clmnpsz".toList.contains c.toLower then some (.kind false, rest) else none

/-- Reads an escape after its backslash. -/
def escape? (m : Mode) : List Char → Option (Piece × List Char)
  | [] => none
  | c :: rest =>
    if c == 'x' then hexCharacter? m 2 rest
    else if c == 'u' then hexCharacter? m 4 rest
    else if c == 'U' then hexCharacter? m 8 rest
    else if c == 'p' || c == 'P' then category? m rest
    else if c == 'd' || c == 's' || c == 'w' then some (.kind false, rest)
    else if c == 'D' || c == 'S' || c == 'W' then some (.kind true, rest)
    else if c == 'A' || c == 'z' then some (.anchor, rest)
    else if c == 'b' || c == 'B' || c == '<' || c == '>' then some (.wordBoundary, rest)
    else if "aftnrv".toList.contains c || (c.toNat < 128 && !c.isAlphanum) then
      some (.literal c, rest)
    else none

/-- May the piece stand in a class, and does it hold characters beyond ASCII? -/
def Piece.inClass? (m : Mode) : Piece → Option Bool
  | .literal c => if m.isUnicode || c.toNat < 128 then some false else none
  | .kind beyond => some beyond
  | .anchor | .wordBoundary => none

/-- May the piece stand outside of a class? -/
def Piece.isAtom (m : Mode) : Piece → Bool
  | .literal c => m.isUnicode || c.toNat < 128
  | .kind beyond => m.isUnicode || !beyond
  | .anchor => true
  | .wordBoundary => !m.isUnicode

/-- Reads a character of a class, or an escape. -/
def classPiece? (m : Mode) : List Char → Option (Piece × List Char)
  | [] => none
  | '\\' :: rest => escape? m rest
  | c :: rest => some (.literal c, rest)

/-- Reads a part of a class that is a piece, or a range between two characters. -/
def classRange? (m : Mode) (cs : List Char) : Option (Bool × List Char) := do
  let (low, rest) ← classPiece? m cs
  let beyond ← low.inClass? m
  match m.skip rest with
  | [] => none
  | '-' :: after =>
    match m.skip after with
    | [] => none
    | next@(c :: _) =>
      if c == ']' || c == '-' then some (beyond, '-' :: after)
      else
        let (high, rest) ← classPiece? m next
        let _ ← high.inClass? m
        match low, high with
        | .literal a, .literal b => if a ≤ b then some (false, rest) else none
        | _, _ => none
  | rest => some (beyond, rest)

/-- The names of the classes of ASCII characters. -/
def asciiClasses : List String :=
  ["alnum", "alpha", "ascii", "blank", "cntrl", "digit", "graph", "lower", "print", "punct",
    "space", "upper", "word", "xdigit"]

/-- Reads the name of a class of ASCII characters after its opening bracket. -/
def asciiClass? : List Char → Option (Bool × List Char)
  | ':' :: rest =>
    let negated := rest.head? == some '^'
    let named := if negated then rest.drop 1 else rest
    let name := named.takeWhile (· != ':')
    match named.drop name.length with
    | ':' :: ']' :: rest =>
      if asciiClasses.contains (String.ofList name) then some (negated, rest) else none
    | _ => none
  | _ => none

/-- Passes over hyphens at the beginning of a class. -/
def pastHyphens (m : Mode) : Nat → List Char → List Char
  | 0, cs => cs
  | fuel + 1, cs =>
    match cs with
    | '-' :: rest => pastHyphens m fuel (m.skip rest)
    | cs => cs

/-- The beginning of a class after its opening bracket: is it negated, and what is
left?  Hyphens and a closing bracket that come first stand for themselves. -/
def classStart (m : Mode) (cs : List Char) : Bool × List Char :=
  let cs := m.skip cs
  let negated := cs.head? == some '^'
  let cs := if negated then m.skip (cs.drop 1) else cs
  let after := pastHyphens m cs.length cs
  if after.length == cs.length && cs.head? == some ']' then (negated, cs.drop 1)
  else (negated, after)

/-- Reads the rest of a class: does it hold characters beyond ASCII?  `join` makes
the class from the part that is being read, of which `beyond` is known so far. -/
def classRest? (m : Mode) :
    Nat → (Bool → Bool) → Bool → List Char → Option (Bool × List Char)
  | 0, _, _, _ => none
  | fuel + 1, join, beyond, cs =>
    match m.skip cs with
    | [] => none
    | ']' :: rest => some (join beyond, rest)
    | '[' :: rest =>
      match asciiClass? rest with
      | some (b, rest) => classRest? m fuel join (beyond || b) rest
      | none =>
        let (negated, inner) := classStart m rest
        match classRest? m fuel id false inner with
        | some (b, rest) => classRest? m fuel join (beyond || b != negated) rest
        | none => none
    | '&' :: '&' :: rest => classRest? m fuel (fun b => join beyond && b) false rest
    | '-' :: '-' :: rest => classRest? m fuel (fun b => join beyond && !b) false rest
    | '~' :: '~' :: rest => classRest? m fuel (fun b => join beyond != b) false rest
    | cs =>
      match classRange? m cs with
      | some (b, rest) => classRest? m fuel join (beyond || b) rest
      | none => none

/-- Reads a class after its opening bracket. -/
def classBody? (m : Mode) (cs : List Char) : Option (List Char) := do
  let (negated, inner) := classStart m cs
  let (beyond, rest) ← classRest? m (cs.length + 1) id false inner
  if m.isUnicode || beyond == negated then some rest else none

/-! ## Groups -/

/-- May a name of a group hold the character, be it as its first or as a later one? -/
def isNameChar (first : Bool) (c : Char) : Bool :=
  c == '_' || (isAlphanumeric c && !(first && c.isDigit)) ||
    (!first && (c == '.' || c == '[' || c == ']'))

/-- Reads the name of a group up to the bracket behind it. -/
def groupName? (cs : List Char) : Option (List Char × List Char) :=
  let name := cs.takeWhile (· != '>')
  match name, cs.drop name.length with
  | c :: more, _ :: rest =>
    if isNameChar true c && more.all (isNameChar false) then some (name, rest) else none
  | _, _ => none

/-- Reads flags up to the mark behind them: the mode they lead to, whether there are
any, and what is left with that mark. -/
def flags? (before : List Char) (negated afterMinus : Bool) (m : Mode) :
    List Char → Option (Mode × Bool × List Char)
  | [] => none
  | c :: rest =>
    if c == ':' || c == ')' then
      if afterMinus then none else some (m, !before.isEmpty, c :: rest)
    else if before.contains c then none
    else if c == '-' then flags? (c :: before) true true m rest
    else if c == 'x' then flags? (c :: before) negated false { m with isSpaced := !negated } rest
    else if c == 'u' then flags? (c :: before) negated false { m with isUnicode := !negated } rest
    else if "imsUR".toList.contains c then flags? (c :: before) negated false m rest
    else none

/-- The beginning of a group after its opening parenthesis. -/
inductive GroupStart where
  /-- A group with a mode of its own, perhaps with a name. -/
  | group (name : Option (List Char)) (m : Mode) (rest : List Char)
  /-- Flags for all that follows. -/
  | flags (m : Mode) (rest : List Char)

/-- Reads the beginning of a group. -/
def groupStart? (m : Mode) (cs : List Char) : Option GroupStart :=
  match m.skip cs with
  | '?' :: 'P' :: '<' :: rest => (groupName? rest).map fun (name, rest) => .group name m rest
  | '?' :: '=' :: _ | '?' :: '!' :: _ | '?' :: '<' :: '=' :: _ | '?' :: '<' :: '!' :: _ => none
  | '?' :: '<' :: rest => (groupName? rest).map fun (name, rest) => .group name m rest
  | '?' :: rest =>
    match flags? [] false false m rest with
    | some (m, _, ':' :: rest) => some (.group none m rest)
    | some (m, true, ')' :: rest) => some (.flags m rest)
    | _ => none
  | rest => some (.group none m rest)

/-- Reads the branches of a group up to its closing parenthesis or the end, with the
names of the groups so far.  `atom` says that something stands there that can be
repeated. -/
def branches? (m : Mode) :
    Nat → List (List Char) → Bool → List Char → Option (List (List Char) × List Char)
  | 0, _, _, _ => none
  | fuel + 1, names, atom, cs =>
    match m.skip cs with
    | [] => some (names, [])
    | ')' :: rest => some (names, ')' :: rest)
    | '|' :: rest => branches? m fuel names false rest
    | '{' :: _ => none
    | '[' :: rest =>
      match classBody? m rest with
      | some rest => branches? m fuel names true rest
      | none => none
    | '(' :: rest =>
      match groupStart? m rest with
      | none => none
      | some (.flags m rest) => branches? m fuel names false rest
      | some (.group name inner rest) =>
        if name.any names.contains then none
        else
          match branches? inner fuel (name.toList ++ names) false rest with
          | some (names, ')' :: rest) => branches? m fuel names true rest
          | _ => none
    | c :: rest =>
      if c == '?' || c == '*' || c == '+' then
        if atom then
          branches? m fuel names true (if rest.head? == some '?' then rest.drop 1 else rest)
        else none
      else if c == '.' then if m.isUnicode then branches? m fuel names true rest else none
      else if c == '^' || c == '$' then branches? m fuel names true rest
      else
        match if c == '\\' then escape? m rest else some (.literal c, rest) with
        | some (piece, rest) => if piece.isAtom m then branches? m fuel names true rest else none
        | none => none

/-- Is the text a regular expression? -/
def isRegular (cs : List Char) : Bool :=
  match branches? {} (cs.length + 1) [] false cs with
  | some (_, []) => true
  | _ => false

/-! ## Values -/

/-- Is the list digits, perhaps with a point among, before or behind them, and perhaps
an exponent? -/
def isUnsignedNumber (cs : List Char) : Bool :=
  let whole := cs.takeWhile Char.isDigit
  let rest := cs.drop whole.length
  let (places, rest) := match rest with
    | '.' :: rest => (rest.takeWhile Char.isDigit, rest.dropWhile Char.isDigit)
    | rest => ([], rest)
  let exponent := match rest with
    | [] => true
    | c :: rest =>
      let digits := match rest with
        | '+' :: digits | '-' :: digits => digits
        | digits => digits
      (c == 'e' || c == 'E') && !digits.isEmpty && digits.all Char.isDigit
  !(whole.isEmpty && places.isEmpty) && exponent

/-- Is the list a number with a plus sign, which no regular expression begins with? -/
def isSignedNumber : List Char → Bool
  | '+' :: rest =>
    isUnsignedNumber rest ||
      ["inf", "infinity", "nan"].contains (String.ofList (rest.map Char.toLower))
  | _ => false

/-- May the text stand as the value of a field? -/
def isValue (cs : List Char) : Bool := isSignedNumber cs || isRegular cs

end SceneRender.FieldPattern
