import SceneRender.Script.Fault
import SceneRender.Script.Identifier

/-!
# From text to tokens

The text is read as *glyphs*: characters with the number of bytes they take,
where a carriage return, alone or before a line feed, is a line end.  A step of
the lexer handles the indentation of a line when one begins, and then one
lexeme; it either yields the tokens of that step or stops at the first fault.
So a fault hides the tokens of its own step, and everything before the step is
unaffected by it.
-/

namespace SceneRender.Script

open SceneRender.Text

/-- A character as the lexer sees it, and the bytes it takes in the text. -/
structure Glyph where
  char : Char
  width : Nat
  deriving DecidableEq, Repr

/-- The glyphs of a text. -/
def glyphs : List Char → List Glyph
  | [] => []
  | '\r' :: '\n' :: rest => ⟨'\n', 2⟩ :: glyphs rest
  | '\r' :: rest => ⟨'\n', 1⟩ :: glyphs rest
  | c :: rest => ⟨c, c.utf8Size⟩ :: glyphs rest

/-- A place in a text: the glyphs ahead and the byte offset. -/
structure Cursor where
  rest : List Glyph
  pos : Nat
  deriving Repr

namespace Cursor

/-- The character `i` glyphs ahead. -/
def peek (c : Cursor) (i : Nat) : Option Char :=
  (c.rest[i]?).map (·.char)

/-- The place one glyph on. -/
def next (c : Cursor) : Cursor :=
  match c.rest with
  | [] => c
  | g :: rest => ⟨rest, c.pos + g.width⟩

/-- The place `n` glyphs on. -/
def skip (c : Cursor) : Nat → Cursor
  | 0 => c
  | n + 1 => c.next.skip n

end Cursor

/-- Reads the longest run of glyphs whose characters satisfy `p`; the run comes
reversed. -/
def takeRun (p : Char → Bool) (run : List Char) : List Glyph → Nat → List Char × Cursor
  | [], pos => (run, ⟨[], pos⟩)
  | g :: rest, pos =>
    if p g.char then takeRun p (g.char :: run) rest (pos + g.width) else (run, ⟨g :: rest, pos⟩)

/-- Skips to the end of the line. -/
def Cursor.skipComment (c : Cursor) : Cursor :=
  (takeRun (· != '\n') [] c.rest c.pos).2

/-! ## Numbers -/

/-- Is the character a digit of the radix? -/
def isDigitOf (radix : Nat) (c : Char) : Bool :=
  if radix ≤ 10 then '0' ≤ c && c.toNat < '0'.toNat + radix
  else c.isDigit || ('a' ≤ c && c ≤ 'f') || ('A' ≤ c && c ≤ 'F')

/-- The value of a digit of a radix up to sixteen. -/
def digitValue (c : Char) : Nat :=
  if c.isDigit then c.toNat - '0'.toNat else c.toLower.toNat - 'a'.toNat + 10

/-- The value of a run of digits, the most significant first. -/
def digitsValue (radix : Nat) (digits : List Char) : Nat :=
  digits.foldl (fun n c => n * radix + digitValue c) 0

/-- Reads the longest run of digits, in which an underscore may stand before a
digit; the digits come reversed, without the underscores. -/
def takeDigits (radix : Nat) (digits : List Char) : List Glyph → Nat → List Char × Cursor
  | [], pos => (digits, ⟨[], pos⟩)
  | g :: rest, pos =>
    if isDigitOf radix g.char then takeDigits radix (g.char :: digits) rest (pos + g.width)
    else if g.char == '_' && ((rest.head?.map (·.char)).any (isDigitOf radix)) then
      takeDigits radix digits rest (pos + g.width)
    else (digits, ⟨g :: rest, pos⟩)

/-- The digits at a place, the most significant first, and the place after. -/
def Cursor.digits (radix : Nat) (c : Cursor) : List Char × Cursor :=
  let (run, c') := takeDigits radix [] c.rest c.pos
  (run.reverse, c')

/-- Reads an integer written in a radix of its own, after its two marks. -/
def lexRadix (radix start : Nat) (c : Cursor) : Except ScriptError (Token × Cursor) :=
  let (digits, c') := c.digits radix
  if digits.isEmpty then .error ⟨.noDigits, start⟩
  else .ok (.int (digitsValue radix digits), c')

/-- Does an exponent, with at least one digit, stand here? -/
def Cursor.atExponent (c : Cursor) : Bool :=
  let digitAt (i : Nat) := (c.peek i).any Char.isDigit
  match c.peek 0 with
  | some 'e' | some 'E' =>
    match c.peek 1 with
    | some '+' | some '-' => digitAt 2
    | _ => digitAt 1
  | _ => false

/-- The value of a decimal literal from its whole part, its fraction and its
exponent. -/
def literalValue (whole fraction : List Char) (exponent : Int) : Numeral :=
  BinaryFormat.double.ofDecimal?
    ⟨digitsValue 10 (whole ++ fraction), exponent - (fraction.length : Int)⟩

/-- Reads the exponent of a literal, when its mark stands here. -/
def lexExponent (c : Cursor) : Except ScriptError (Int × Cursor) :=
  if c.peek 0 == some 'e' || c.peek 0 == some 'E' then
    if c.peek 1 == some '_' then .error ⟨.strayUnderscore, c.pos⟩
    else
      let c := c.next
      let signed := c.peek 0 == some '+' || c.peek 0 == some '-'
      if signed && c.peek 1 == some '_' then .error ⟨.strayUnderscore, c.pos⟩
      else
        let negative := c.peek 0 == some '-'
        let (digits, c') := (if signed then c.next else c).digits 10
        if digits.isEmpty then .error ⟨.malformedDecimal, c'.pos⟩
        else
          let n : Int := digitsValue 10 digits
          .ok (if negative then -n else n, c')
  else .ok (0, c)

/-- Reads a fraction, when a point stands here. -/
def lexFraction (c : Cursor) : Except ScriptError (List Char × Cursor) :=
  if c.peek 0 == some '.' then
    if c.peek 1 == some '_' then .error ⟨.strayUnderscore, c.pos⟩ else .ok (c.next.digits 10)
  else .ok ([], c)

/-- A literal that ends in the letter `j` is imaginary. -/
def closeNumber (value : Numeral) (c : Cursor) (real : Token) : Token × Cursor :=
  if c.peek 0 == some 'j' || c.peek 0 == some 'J' then (.imaginary value, c.next) else (real, c)

/-- Reads a decimal literal: a number with a point or an exponent, an imaginary
one, or an integer, which has no needless zero in front. -/
def lexDecimal (c : Cursor) : Except ScriptError (Token × Cursor) := do
  let leading := c.peek 0 == some '0'
  let (whole, c) := c.digits 10
  if c.peek 0 == some '.' || c.atExponent then
    let (fraction, c) ← lexFraction c
    let (exponent, c) ← lexExponent c
    let value := literalValue whole fraction exponent
    return closeNumber value c (.float value)
  else
    let value := digitsValue 10 whole
    match closeNumber (literalValue whole [] 0) c (.int value) with
    | (.int _, c) =>
      if leading && value != 0 then throw ⟨.leadingZero, c.pos⟩ else return (.int value, c)
    | other => return other

/-- Reads a number. -/
def lexNumber (c : Cursor) : Except ScriptError (Token × Cursor) :=
  match c.peek 0, c.peek 1 with
  | some '0', some 'x' | some '0', some 'X' => lexRadix 16 c.pos (c.skip 2)
  | some '0', some 'o' | some '0', some 'O' => lexRadix 8 c.pos (c.skip 2)
  | some '0', some 'b' | some '0', some 'B' => lexRadix 2 c.pos (c.skip 2)
  | _, _ => lexDecimal c

/-! ## Strings and names -/

/-- Reads the body of a string up to its closing quotes; the body comes
reversed.  A backslash keeps the glyph after it from closing the string. -/
def takeString (quote : Char) (triple : Bool) (body : List Char) :
    List Glyph → Nat → Except ScriptError (List Char × Cursor)
  | [], pos => .error ⟨if triple then .openAtEnd else .stringOpenAtEnd, pos⟩
  | ⟨'\\', w⟩ :: g :: rest, pos =>
    takeString quote triple (g.char :: '\\' :: body) rest (pos + w + g.width)
  | g :: rest, pos =>
    let pos := pos + g.width
    if g.char == '\n' && !triple then .error ⟨.stringOpenAtLineEnd, pos⟩
    else if g.char == quote then
      if !triple then .ok (body, ⟨rest, pos⟩)
      else
        match rest with
        | g₁ :: g₂ :: rest' =>
          if g₁.char == quote && g₂.char == quote then
            .ok (body, ⟨rest', pos + g₁.width + g₂.width⟩)
          else takeString quote triple (g.char :: body) rest pos
        | _ => takeString quote triple (g.char :: body) rest pos
    else takeString quote triple (g.char :: body) rest pos

/-- Reads a string literal from its letters on. -/
def lexString (kind : StringKind) (c : Cursor) : Except ScriptError (Token × Cursor) :=
  let c := c.skip kind.letters
  match c.peek 0 with
  | none => .error ⟨.stringOpenAtEnd, c.pos⟩
  | some quote =>
    let c := c.next
    let triple := c.peek 0 == some quote && c.peek 1 == some quote
    let c := if triple then c.skip 2 else c
    match takeString quote triple [] c.rest c.pos with
    | .ok (body, c') => .ok (.string (String.ofList body.reverse) kind triple, c')
    | .error e => .error e

/-- Is the character a quote? -/
def isQuote (c : Option Char) : Bool :=
  c == some '"' || c == some '\''

/-- The kind of the string literal that begins with letters here, if one does. -/
def stringKindAt? (c : Cursor) : Option StringKind :=
  match c.peek 0, c.peek 1 with
  | some a, some b =>
    if isQuote (some b) then StringKind.ofLetter? a
    else if isQuote (c.peek 2) then StringKind.ofLetters? a b
    else none
  | _, _ => none

/-- Reads a name, a keyword or a string literal with letters. -/
def lexWord (c : Cursor) : Except ScriptError (Token × Cursor) :=
  match stringKindAt? c with
  | some kind => lexString kind c
  | none =>
    let (run, c') := takeRun isNameContinue [] c.rest c.pos
    let word := String.ofList run.reverse
    match Keyword.ofText? word with
    | some k => .ok (.keyword k, c')
    | none => .ok (.name word, c')

/-! ## Symbols -/

/-- The longest symbol that begins with the given characters, and its length. -/
def symbolAt? (a : Char) (b c : Option Char) : Option (Symbol × Nat) :=
  match a, b, c with
  | '(', _, _ => some (.leftParen, 1)
  | ')', _, _ => some (.rightParen, 1)
  | '[', _, _ => some (.leftBracket, 1)
  | ']', _, _ => some (.rightBracket, 1)
  | '{', _, _ => some (.leftBrace, 1)
  | '}', _, _ => some (.rightBrace, 1)
  | ',', _, _ => some (.comma, 1)
  | ';', _, _ => some (.semicolon, 1)
  | '~', _, _ => some (.tilde, 1)
  | ':', some '=', _ => some (.walrus, 2)
  | ':', _, _ => some (.colon, 1)
  | '.', some '.', some '.' => some (.ellipsis, 3)
  | '.', _, _ => some (.dot, 1)
  | '=', some '=', _ => some (.equalEqual, 2)
  | '=', _, _ => some (.equal, 1)
  | '!', some '=', _ => some (.notEqual, 2)
  | '+', some '=', _ => some (.plusEqual, 2)
  | '+', _, _ => some (.plus, 1)
  | '-', some '=', _ => some (.minusEqual, 2)
  | '-', some '>', _ => some (.arrow, 2)
  | '-', _, _ => some (.minus, 1)
  | '*', some '*', some '=' => some (.powerEqual, 3)
  | '*', some '*', _ => some (.power, 2)
  | '*', some '=', _ => some (.starEqual, 2)
  | '*', _, _ => some (.star, 1)
  | '/', some '/', some '=' => some (.doubleSlashEqual, 3)
  | '/', some '/', _ => some (.doubleSlash, 2)
  | '/', some '=', _ => some (.slashEqual, 2)
  | '/', _, _ => some (.slash, 1)
  | '%', some '=', _ => some (.percentEqual, 2)
  | '%', _, _ => some (.percent, 1)
  | '@', some '=', _ => some (.atEqual, 2)
  | '@', _, _ => some (.at_, 1)
  | '|', some '=', _ => some (.barEqual, 2)
  | '|', _, _ => some (.bar, 1)
  | '&', some '=', _ => some (.amperEqual, 2)
  | '&', _, _ => some (.amper, 1)
  | '^', some '=', _ => some (.caretEqual, 2)
  | '^', _, _ => some (.caret, 1)
  | '<', some '<', some '=' => some (.shiftLeftEqual, 3)
  | '<', some '<', _ => some (.shiftLeft, 2)
  | '<', some '=', _ => some (.lessEqual, 2)
  | '<', _, _ => some (.less, 1)
  | '>', some '>', some '=' => some (.shiftRightEqual, 3)
  | '>', some '>', _ => some (.shiftRight, 2)
  | '>', some '=', _ => some (.greaterEqual, 2)
  | '>', _, _ => some (.greater, 1)
  | _, _, _ => none

/-- Does the symbol open a bracket? -/
def Symbol.isOpener : Symbol → Bool
  | leftParen | leftBracket | leftBrace => true
  | _ => false

/-- Does the symbol close a bracket? -/
def Symbol.isCloser : Symbol → Bool
  | rightParen | rightBracket | rightBrace => true
  | _ => false

/-! ## Indentation -/

/-- The indentation of a line. -/
structure Indentation where
  tabs : Nat
  spaces : Nat
  deriving DecidableEq, Repr

/-- Compares two indentations where the answer does not depend on how wide a tab
is; nothing where it does. -/
def Indentation.compare? (a b : Indentation) : Option Ordering :=
  match compare a.tabs b.tabs with
  | .lt => if a.spaces ≤ b.spaces then some .lt else none
  | .gt => if a.spaces ≥ b.spaces then some .gt else none
  | .eq => some (compare a.spaces b.spaces)

/-- The state of the lexer between two steps. -/
structure LexState where
  cursor : Cursor
  /-- Brackets open here. -/
  nesting : Nat
  /-- Does a line begin here? -/
  lineStart : Bool
  /-- Indentations of the open blocks, the innermost first. -/
  indents : List Indentation
  deriving Repr

/-- Reads the indentation of the first line here that holds more than blanks and
a comment.  At the end of the text there is none. -/
def takeIndentation (tabs spaces : Nat) (comment : Bool) :
    List Glyph → Nat → Except ScriptError (Indentation × Cursor × Bool)
  | [], pos => .ok (⟨0, 0⟩, ⟨[], pos⟩, true)
  | g :: rest, pos =>
    if comment && g.char != '\n' then takeIndentation 0 0 true rest (pos + g.width)
    else
      match g.char with
      | ' ' => takeIndentation tabs (spaces + 1) false rest (pos + g.width)
      | '\t' =>
        if spaces != 0 then .error ⟨.tabsAfterSpaces, pos⟩
        else takeIndentation (tabs + 1) spaces false rest (pos + g.width)
      | '#' => takeIndentation 0 0 true rest (pos + g.width)
      | '\x0c' | '\n' => takeIndentation 0 0 false rest (pos + g.width)
      | _ => .ok (⟨tabs, spaces⟩, ⟨g :: rest, pos⟩, false)

/-- The innermost open indentation. -/
def currentIndent : List Indentation → Indentation
  | [] => ⟨0, 0⟩
  | i :: _ => i

/-- Closes the blocks that a line's indentation leaves, one token each. -/
def closeBlocks (indentation : Indentation) (pos : Nat) :
    List Indentation → Except ScriptError (List Located × List Indentation)
  | [] =>
    match indentation.compare? ⟨0, 0⟩ with
    | some .eq => .ok ([], [])
    | some _ => .error ⟨.unindent, pos⟩
    | none => .error ⟨.mixedTabs, pos⟩
  | i :: outer =>
    match indentation.compare? i with
    | some .eq => .ok ([], i :: outer)
    | some .gt => .error ⟨.unindent, pos⟩
    | some .lt =>
      match closeBlocks indentation pos outer with
      | .ok (tokens, left) => .ok (⟨.dedent, pos, pos⟩ :: tokens, left)
      | .error e => .error e
    | none => .error ⟨.mixedTabs, pos⟩

/-- Opens or closes blocks at the beginning of a line. -/
def layout (s : LexState) : Except ScriptError (List Located × LexState) := do
  let (indentation, cursor, lineStart) ← takeIndentation 0 0 false s.cursor.rest s.cursor.pos
  let s := { s with cursor, lineStart }
  if s.nesting != 0 then return ([], s)
  match indentation.compare? (currentIndent s.indents) with
  | none => throw ⟨.mixedTabs, cursor.pos⟩
  | some .eq => return ([], s)
  | some .gt =>
    let start := cursor.pos - indentation.spaces - indentation.tabs
    return ([⟨.indent, start, cursor.pos⟩], { s with indents := indentation :: s.indents })
  | some .lt =>
    let (tokens, indents) ← closeBlocks indentation cursor.pos s.indents
    return (tokens, { s with indents })

/-! ## Steps -/

/-- The tokens that end a text: a line end if a line is open, and an end for
every open block. -/
def finish (s : LexState) : Except ScriptError (List Located) :=
  let pos := s.cursor.pos
  if s.nesting != 0 then .error ⟨.openAtEnd, pos⟩
  else
    .ok ((if s.lineStart then [] else [⟨.newline, pos, pos⟩]) ++
      s.indents.map fun _ => ⟨.dedent, pos, pos⟩)

/-- Wraps what a lexeme reader returns into the tokens of a step. -/
def emit (s : LexState) (read : Except ScriptError (Token × Cursor)) :
    Except ScriptError (List Located × LexState) :=
  match read with
  | .ok (token, cursor) => .ok ([⟨token, s.cursor.pos, cursor.pos⟩], { s with cursor })
  | .error e => .error e

/-- Reads a symbol and keeps count of the brackets. -/
def lexSymbol (s : LexState) (c : Char) : Except ScriptError (List Located × LexState) :=
  match symbolAt? c (s.cursor.peek 1) (s.cursor.peek 2) with
  | some (symbol, length) =>
    let cursor := s.cursor.skip length
    if symbol.isCloser && s.nesting == 0 then .error ⟨.unexpectedCloser, cursor.pos⟩
    else
      let nesting := if symbol.isOpener then s.nesting + 1
        else if symbol.isCloser then s.nesting - 1 else s.nesting
      .ok ([⟨.symbol symbol, s.cursor.pos, cursor.pos⟩], { s with cursor, nesting })
  | none =>
    if isPictograph c then emit s (.ok (.name c.toString, s.cursor.next))
    else if c == '!' then .error ⟨.unexpectedCharacter c, s.cursor.pos⟩
    else .error ⟨.unexpectedCharacter c, s.cursor.next.pos⟩

/-- Skips a backslash and the line end after it. -/
def continueLine (s : LexState) : Except ScriptError (List Located × LexState) :=
  let c := s.cursor.next
  if c.peek 0 != some '\n' then .error ⟨.badContinuation, c.pos⟩
  else if c.next.rest.isEmpty then .error ⟨.openAtEnd, c.next.pos⟩
  else .ok ([], { s with cursor := c.next })

/-- Reads one lexeme that begins with the given character. -/
def lexeme (s : LexState) (c : Char) : Except ScriptError (List Located × LexState) :=
  if isNameStart c then emit s (lexWord s.cursor)
  else if c.isDigit || (c == '.' && (s.cursor.peek 1).any Char.isDigit) then
    emit s (lexNumber s.cursor)
  else
    match c with
    | '#' => .ok ([], { s with cursor := s.cursor.skipComment })
    | '"' | '\'' => emit s (lexString .plain s.cursor)
    | '\n' =>
      let cursor := s.cursor.next
      if s.nesting == 0 then
        .ok ([⟨.newline, s.cursor.pos, cursor.pos⟩], { s with cursor, lineStart := true })
      else .ok ([], { s with cursor })
    | ' ' | '\t' | '\x0c' => .ok ([], { s with cursor := s.cursor.next })
    | '\\' => continueLine s
    | _ => lexSymbol s c

/-- One step: the layout of a line that begins here, then one lexeme.  The second
part is nothing when the text has ended. -/
def lexStep (s : LexState) : Except ScriptError (List Located × Option LexState) := do
  let (opening, s) ← if s.lineStart then layout s else pure ([], s)
  match s.cursor.peek 0 with
  | some c =>
    let (tokens, s) ← lexeme s c
    return (opening ++ tokens, some s)
  | none =>
    let tokens ← finish s
    return (opening ++ tokens, none)

/-- What follows the last token: the end of the text, at the offset where the
last token ended, or a fault. -/
inductive Ending where
  | done (offset : Nat)
  | fault (error : ScriptError)
  deriving DecidableEq, Repr

/-- The tokens of a text up to its end or to the first fault. -/
structure TokenStream where
  tokens : List Located
  ending : Ending
  deriving Repr

/-- Runs at most `fuel` steps; the tokens so far come reversed. -/
def lexLoop : Nat → List Located → LexState → TokenStream
  | 0, tokens, s => ⟨tokens.reverse, .done s.cursor.pos⟩
  | fuel + 1, tokens, s =>
    match lexStep s with
    | .error e => ⟨tokens.reverse, .fault e⟩
    | .ok (new, some s') => lexLoop fuel (new.reverse ++ tokens) s'
    | .ok (new, none) =>
      let all := new.reverse ++ tokens
      ⟨all.reverse, .done ((all.head?.map (·.stop)).getD 0)⟩

/-- The tokens of a text that begins at a byte offset.  Every step but the last
takes at least one glyph, so the steps suffice. -/
def lex (text : List Char) (offset : Nat) : TokenStream :=
  let all := glyphs text
  let cursor : Cursor :=
    match all with
    | ⟨'\ufeff', w⟩ :: rest => ⟨rest, offset + w⟩
    | _ => ⟨all, offset⟩
  lexLoop (all.length + 1) [] ⟨cursor, 0, true, []⟩

end SceneRender.Script
