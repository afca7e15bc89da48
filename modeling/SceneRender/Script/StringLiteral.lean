import SceneRender.Script.Fault
import SceneRender.Script.Tree
import SceneRender.Script.CharacterName
import SceneRender.Text.Blank

/-!
# String literals

The value of adjacent string literals.  Escapes are decoded, and the
replacement fields of a formatted string are cut out and handed, between
parentheses, to a reader of expressions that the grammar supplies.  Offsets
count the bytes of the literal's body, in which every line end is one byte.
-/

namespace SceneRender.Script

open SceneRender.Text

/-- Reads the expression of a replacement field, given its text and the offset at
which that text starts. -/
abbrev FieldReader := List Char → Nat → Except ScriptError Expr

/-- A place in the body of a literal: the characters ahead and the offset. -/
structure Place where
  rest : List Char
  pos : Nat

/-- The character ahead, with the place after it. -/
def Place.next? (p : Place) : Option (Char × Place) :=
  match p.rest with
  | [] => none
  | c :: rest => some (c, ⟨rest, p.pos + c.utf8Size⟩)

/-! ## Escapes -/

/-- The value of a hexadecimal digit. -/
def hexDigit? (c : Char) : Option Nat :=
  if c.isDigit then some (c.toNat - '0'.toNat)
  else
    let l := c.toLower
    if 'a' ≤ l && l ≤ 'f' then some (l.toNat - 'a'.toNat + 10) else none

/-- Reads exactly `n` hexadecimal digits. -/
def takeHex : Nat → Nat → Place → Option (Nat × Place)
  | 0, value, p => some (value, p)
  | n + 1, value, p =>
    match p.next? with
    | some (c, p') => (hexDigit? c).bind fun d => takeHex n (16 * value + d) p'
    | none => none

/-- The character of a numeric escape of `n` digits.  A surrogate stands for the
replacement character; a number beyond the last code point is a fault. -/
def numericEscape (n : Nat) (p : Place) : Except ScriptError (Char × Place) :=
  match takeHex n 0 p with
  | some (value, p') =>
    if 0xD800 ≤ value && value ≤ 0xDFFF then .ok ('\ufffd', p')
    else if value ≤ 0x10FFFF then .ok (Char.ofNat value, p')
    else .error ⟨.badEscape, p.pos⟩
  | none => .error ⟨.badEscape, p.pos⟩

/-- Reads up to `n` more octal digits. -/
def takeOctal : Nat → Nat → Place → Nat × Place
  | 0, value, p => (value, p)
  | n + 1, value, p =>
    match p.next? with
    | some (c, p') =>
      if '0' ≤ c && c ≤ '7' then takeOctal n (8 * value + (c.toNat - '0'.toNat)) p' else (value, p)
    | none => (value, p)

/-- The longest name a character has, in bytes. -/
def longestCharacterName : Nat := 88

/-- The character that an escape names between braces. -/
def namedEscape (p : Place) : Except ScriptError (Char × Place) :=
  match p.rest with
  | '{' :: rest =>
    let name := rest.takeWhile (· != '}')
    let start := p.pos + 1
    let size := (String.ofList name).utf8ByteSize
    match rest.dropWhile (· != '}') with
    | [] => .error ⟨.stringOpenAtEnd, start + size⟩
    | _ :: rest' =>
      let after : Place := ⟨rest', start + size + 1⟩
      if size > longestCharacterName then .error ⟨.badEscape, after.pos⟩
      else
        match characterNamed? (String.ofList name) with
        | some c => .ok (c, after)
        | none => .error ⟨.badEscape, start⟩
  | _ => .error ⟨.stringOpenAtEnd, p.pos⟩

/-- Decodes the escape after a backslash.  An unknown escape stands for itself,
backslash included; an escaped line end stands for nothing. -/
def decodeEscape (kind : StringKind) (p : Place) : Except ScriptError (List Char × Place) :=
  match p.next? with
  | none => .error ⟨.stringOpenAtEnd, p.pos⟩
  | some (c, p') =>
    let one (c : Char) : Except ScriptError (List Char × Place) := .ok ([c], p')
    let many (r : Except ScriptError (Char × Place)) : Except ScriptError (List Char × Place) :=
      r.map fun (c, p) => ([c], p)
    let other : Except ScriptError (List Char × Place) :=
      if kind.isBytes && c.toNat ≥ 128 then .error ⟨.nonAsciiBytes, p'.pos⟩
      else .ok (['\\', c], p')
    match c with
    | '\\' => one '\\'
    | '\'' => one '\''
    | '"' => one '"'
    | 'a' => one '\x07'
    | 'b' => one '\x08'
    | 'f' => one '\x0c'
    | 'n' => one '\n'
    | 'r' => one '\r'
    | 't' => one '\t'
    | 'v' => one '\x0b'
    | 'x' => many (numericEscape 2 p')
    | 'u' => if kind.isBytes then other else many (numericEscape 4 p')
    | 'U' => if kind.isBytes then other else many (numericEscape 8 p')
    | 'N' => if kind.isBytes then other else many (namedEscape p')
    | '\n' => .ok ([], p')
    | _ =>
      if '0' ≤ c && c ≤ '7' then
        let (value, p'') := takeOctal 2 (c.toNat - '0'.toNat) p'
        .ok ([Char.ofNat value], p'')
      else other

/-- Decodes the body of a literal without replacement fields; `fuel` bounds the
characters read, and the text so far comes reversed. -/
def decodeBody (kind : StringKind) : Nat → List Char → Place → Except ScriptError (List Char)
  | 0, text, _ => .ok text.reverse
  | fuel + 1, text, p =>
    match p.next? with
    | none => .ok text.reverse
    | some (c, p') =>
      if c == '\\' && !kind.isRaw then
        match decodeEscape kind p' with
        | .ok (cs, p'') => decodeBody kind fuel (cs.reverse ++ text) p''
        | .error e => .error e
      else if kind.isBytes && c.toNat ≥ 128 then .error ⟨.nonAsciiBytes, p'.pos⟩
      else decodeBody kind fuel (c :: text) p'

/-! ## Replacement fields -/

/-- What has been read of a replacement field. -/
structure FieldState where
  /-- The expression's characters, the last first. -/
  expression : List Char
  /-- Open brackets of the expression, the innermost first. -/
  open_ : List Char
  conversion : Conversion
  spec : Option Expr
  /-- Does the field show its own text? -/
  documented : Bool
  /-- Blanks after the equals sign of a field that shows its own text. -/
  blanks : List Char

/-- A field of which nothing has been read. -/
def FieldState.start : FieldState := ⟨[], [], .none, none, false, []⟩

/-- Does the expression hold nothing but blanks? -/
def FieldState.isEmpty (f : FieldState) : Bool :=
  f.expression.all isBlank

/-- A fault of a field. -/
def fieldError {α : Type} (fault : FieldFault) (p : Place) : Except ScriptError α :=
  .error ⟨.field fault, p.pos⟩

/-- A literal piece of a formatted string, when it is not empty. -/
def textPiece (text : List Char) : List Expr :=
  if text.isEmpty then [] else [.constant (.text (String.ofList text.reverse))]

/-- The expression of a complete field; `start` is where its text begins. -/
def closeField (read : FieldReader) (start : Nat) (f : FieldState) (p : Place) :
    Except ScriptError (List Expr) :=
  if f.isEmpty then fieldError .emptyExpression p
  else
    let text := f.expression.reverse
    match read text start with
    | .error e => .error ⟨.fieldExpression e.fault, start⟩
    | .ok value =>
      if f.documented then
        let conversion := if f.conversion == .none && f.spec.isNone then .repr else f.conversion
        .ok [.constant (.text (String.ofList (text ++ '=' :: f.blanks.reverse))),
          .formatted value conversion f.spec]
      else .ok [.formatted value f.conversion f.spec]

/-- Reads the conversion after an exclamation mark. -/
def takeConversion (p : Place) : Except ScriptError (Conversion × Place) :=
  match p.next? with
  | none => fieldError .unclosed p
  | some (c, p') =>
    let found : Option Conversion :=
      match c with
      | 's' => some .text
      | 'a' => some .ascii
      | 'r' => some .repr
      | _ => none
    match found with
    | none => fieldError .invalidConversion p'
    | some conversion =>
      match p'.rest with
      | '}' :: _ | ':' :: _ => .ok (conversion, p')
      | _ => fieldError .unclosed p'

/-- Reads a quoted text inside an expression up to its closing quote. -/
def takeQuoted (quote : Char) (text : List Char) :
    List Char → Nat → Except ScriptError (List Char × Place)
  | [], pos => fieldError .unterminated ⟨[], pos⟩
  | c :: rest, pos =>
    if c == quote then .ok (c :: text, ⟨rest, pos + c.utf8Size⟩)
    else takeQuoted quote (c :: text) rest (pos + c.utf8Size)

/-- The opener that a closer belongs to. -/
def openerOf (closer : Char) : Char :=
  match closer with
  | ')' => '('
  | ']' => '['
  | _ => '{'

/-- Closes a bracket of an expression. -/
def closeBracket (f : FieldState) (closer : Char) (p : Place) : Except ScriptError FieldState :=
  match f.open_ with
  | [] => fieldError (.unmatched closer) p
  | opener :: outer =>
    if opener == openerOf closer then
      .ok { f with expression := closer :: f.expression, open_ := outer }
    else fieldError (.mismatched opener closer) p

mutual

/-- Reads text and fields up to the end of the literal or, in a nested format
specification, up to the brace that closes it.  Pieces come reversed. -/
def takePieces (read : FieldReader) (kind : StringKind) :
    Nat → Nat → List Char → List Expr → Place → Except ScriptError (List Expr × Place)
  | 0, _, text, pieces, p => .ok (textPiece text ++ pieces, p)
  | fuel + 1, nested, text, pieces, p =>
    match p.next? with
    | none => .ok (textPiece text ++ pieces, p)
    | some ('{', p') =>
      match nested, p'.rest with
      | 0, '{' :: rest => takePieces read kind fuel nested ('{' :: text) pieces ⟨rest, p'.pos + 1⟩
      | 0, [] => fieldError .unclosed p'
      | _, _ =>
        match takeField read kind fuel nested p'.pos .start p' with
        | .ok (new, p'') =>
          takePieces read kind fuel nested [] (new.reverse ++ (textPiece text ++ pieces)) p''
        | .error e => .error e
    | some ('}', p') =>
      if nested > 0 then .ok (textPiece text ++ pieces, p)
      else
        match p'.rest with
        | '}' :: rest => takePieces read kind fuel nested ('}' :: text) pieces ⟨rest, p'.pos + 1⟩
        | _ => fieldError .singleBrace p'
    | some (c, p') =>
      -- before a brace a backslash stands for itself
      let escapes := c == '\\' && !kind.isRaw &&
        p'.rest.head? != some '{' && p'.rest.head? != some '}'
      if escapes then
        match decodeEscape kind p' with
        | .ok (cs, p'') => takePieces read kind fuel nested (cs.reverse ++ text) pieces p''
        | .error e => .error e
      else takePieces read kind fuel nested (c :: text) pieces p'

/-- Reads the rest of a replacement field whose text began at `start`. -/
def takeField (read : FieldReader) (kind : StringKind) :
    Nat → Nat → Nat → FieldState → Place → Except ScriptError (List Expr × Place)
  | 0, _, _, _, p => fieldError .unclosed p
  | fuel + 1, nested, start, f, p =>
    match p.next? with
    | none => fieldError (if f.expression.isEmpty then .emptyExpression else .unclosed) p
    | some (c, p') =>
      let push (cs : List Char) (p : Place) :=
        takeField read kind fuel nested start { f with expression := cs ++ f.expression } p
      let comparison := c == '!' || c == '=' || c == '<' || c == '>'
      if comparison && p'.rest.head? == some '=' then push ['=', c] ⟨p'.rest.tail, p'.pos + 1⟩
      else if c == '!' && f.open_.isEmpty then
        if f.isEmpty then fieldError .emptyExpression p'
        else
          match takeConversion p' with
          | .ok (conversion, p'') => takeField read kind fuel nested start { f with conversion } p''
          | .error e => .error e
      else if c == '=' && f.open_.isEmpty then
        takeField read kind fuel nested start { f with documented := true } p'
      else if c == ':' && f.open_.isEmpty then
        match takeSpec read kind fuel nested [] [] p' with
        | .ok (pieces, p'') =>
          takeField read kind fuel nested start { f with spec := some (.joined pieces.reverse) } p''
        | .error e => .error e
      else if c == '(' || c == '[' || c == '{' then
        takeField read kind fuel nested start
          { f with expression := c :: f.expression, open_ := c :: f.open_ } p'
      else if c == ')' || c == ']' || (c == '}' && !f.open_.isEmpty) then
        match closeBracket f c p' with
        | .ok f' => takeField read kind fuel nested start f' p'
        | .error e => .error e
      else if c == '}' then (closeField read start f p').map fun pieces => (pieces, p')
      else if c == '"' || c == '\'' then
        match takeQuoted c (c :: f.expression) p'.rest p'.pos with
        | .ok (expression, p'') => takeField read kind fuel nested start { f with expression } p''
        | .error e => .error e
      else if c == ' ' && f.documented then
        takeField read kind fuel nested start { f with blanks := c :: f.blanks } p'
      else if c == '\\' then fieldError .unterminated p'
      else if f.documented then fieldError .unclosed p'
      else push [c] p'

/-- Reads a format specification up to the brace that closes its field.  Fields
may stand in it, but not in theirs.  Pieces come reversed. -/
def takeSpec (read : FieldReader) (kind : StringKind) :
    Nat → Nat → List Char → List Expr → Place → Except ScriptError (List Expr × Place)
  | 0, _, text, pieces, p => .ok (textPiece text ++ pieces, p)
  | fuel + 1, nested, text, pieces, p =>
    match p.next? with
    | none => .ok (textPiece text ++ pieces, p)
    | some ('}', _) => .ok (textPiece text ++ pieces, p)
    | some ('{', _) =>
      if nested ≥ 1 then fieldError .nestedTooDeeply p
      else
        match takePieces read kind fuel (nested + 1) [] [] p with
        | .ok (new, p') => takeSpec read kind fuel nested [] (new ++ (textPiece text ++ pieces)) p'
        | .error e => .error e
    | some (c, p') => takeSpec read kind fuel nested (c :: text) pieces p'

end

/-! ## Literals -/

/-- A string token with its place. -/
structure StringPart where
  body : List Char
  kind : StringKind
  triple : Bool
  start : Nat

/-- The place where the body of a literal begins. -/
def StringPart.place (part : StringPart) : Place :=
  ⟨part.body, part.start + part.kind.letters + if part.triple then 3 else 1⟩

/-- The pieces of one literal. -/
def StringPart.pieces (read : FieldReader) (part : StringPart) : Except ScriptError (List Expr) :=
  let fuel := 2 * part.body.length + 2
  if part.kind.isFormatted then
    (takePieces read part.kind fuel 0 [] [] part.place).map fun (pieces, _) => pieces.reverse
  else
    (decodeBody part.kind fuel [] part.place).map fun text =>
      let s := String.ofList text
      [.constant (if part.kind.isBytes then .bytes s else .text s)]

/-- The pieces of all literals in order. -/
def allPieces (read : FieldReader) : List StringPart → Except ScriptError (List Expr)
  | [] => .ok []
  | part :: rest =>
    match part.pieces read with
    | .error e => .error e
    | .ok pieces =>
      match allPieces read rest with
      | .error e => .error e
      | .ok more => .ok (pieces ++ more)

/-- Joins neighbouring literal pieces. -/
def mergePieces : List Expr → List Expr
  | .constant (.text a) :: rest =>
    match mergePieces rest with
    | .constant (.text b) :: rest' => .constant (.text (a ++ b)) :: rest'
    | rest' => .constant (.text a) :: rest'
  | e :: rest => e :: mergePieces rest
  | [] => []

/-- The text of literal pieces. -/
def piecesText : List Expr → String
  | .constant (.text a) :: rest => a ++ piecesText rest
  | .constant (.bytes a) :: rest => a ++ piecesText rest
  | _ => ""

/-- The value of adjacent literals.  Bytes do not mix with text, and one
formatted literal makes all of them one formatted string. -/
def joinLiterals (read : FieldReader) (parts : List StringPart) : Except ScriptError Expr :=
  let bytes := parts.filter (·.kind.isBytes)
  if !bytes.isEmpty && bytes.length < parts.length then
    .error ⟨.mixedBytes, (parts.head?.map (·.start)).getD 0⟩
  else
    (allPieces read parts).map fun pieces =>
      if !bytes.isEmpty then .constant (.bytes (piecesText pieces))
      else if parts.any (·.kind.isFormatted) then .joined (mergePieces pieces)
      else .constant (.text (piecesText pieces))

end SceneRender.Script
