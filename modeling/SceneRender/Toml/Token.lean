import SceneRender.Toml.Fault

/-!
# Tokens of a TOML document

The document is cut into marks, blanks, comments, line breaks, strings, and
everything else.  Cutting never fails: a string that is not closed ends with its
line or with the document, and is refused when its value is asked for.
-/

namespace SceneRender.Toml

/-- The kinds of tokens. -/
inductive TokenKind where
  | dot
  | equals
  | comma
  | leftBracket
  | rightBracket
  | leftBrace
  | rightBrace
  | blank
  | comment
  | newline
  | string (form : StringForm)
  | atom
  deriving DecidableEq, Repr

/-- A token with its text. -/
structure Token where
  kind : TokenKind
  span : Span
  text : List Char
  deriving Repr

/-- Does the character end an atom? -/
def endsAtom (c : Char) : Bool :=
  c == '.' || c == '=' || c == ',' || c == '[' || c == ']' || c == '\x7b' || c == '\x7d' ||
    c == ' ' || c == '\t' || c == '#' || c == '\r' || c == '\n'

/-- The characters of a short string after its opening quote, up to its closing
quote or the end of its line. -/
def shortString (escapes : Bool) (quote : Char) : List Char → List Char
  | [] => []
  | c :: rest =>
    if c == '\n' then []
    else if c == quote then [c]
    else if escapes && c == '\\' then
      match rest with
      | d :: rest =>
        if d == '\\' || d == quote then c :: d :: shortString escapes quote rest
        else c :: shortString escapes quote (d :: rest)
      | [] => [c]
    else c :: shortString escapes quote rest
  termination_by cs => cs.length

/-- How many of the next characters are the quote, at most `most`. -/
def quoteRun (quote : Char) (most : Nat) (cs : List Char) : Nat :=
  ((cs.take most).takeWhile (· == quote)).length

/-- The characters of a long string after its opening quotes, up to its closing
quotes; up to two more quotes before those belong to the string. -/
def longString (escapes : Bool) (quote : Char) : List Char → List Char
  | [] => []
  | c :: rest =>
    if c == quote && quoteRun quote 2 rest == 2 then
      List.replicate (1 + quoteRun quote 4 rest) quote
    else if escapes && c == '\\' then
      match rest with
      | d :: rest =>
        if d == '\\' || d == quote then c :: d :: longString escapes quote rest
        else c :: longString escapes quote (d :: rest)
      | [] => [c]
    else c :: longString escapes quote rest
  termination_by cs => cs.length

/-- The kind and the text of the token at the front of a document. -/
def nextToken (c : Char) (rest : List Char) : TokenKind × List Char :=
  match c with
  | '.' => (.dot, [c])
  | '=' => (.equals, [c])
  | ',' => (.comma, [c])
  | '[' => (.leftBracket, [c])
  | ']' => (.rightBracket, [c])
  | '\x7b' => (.leftBrace, [c])
  | '\x7d' => (.rightBrace, [c])
  | '\n' => (.newline, [c])
  | '\r' => (.newline, if rest.head? == some '\n' then [c, '\n'] else [c])
  | '#' => (.comment, c :: rest.takeWhile fun c => c != '\n' && c != '\r')
  | '\'' =>
    if quoteRun c 2 rest == 2 then
      (.string .longLiteral, c :: c :: c :: longString false c (rest.drop 2))
    else (.string .literal, c :: shortString false c rest)
  | '"' =>
    if quoteRun c 2 rest == 2 then
      (.string .longBasic, c :: c :: c :: longString true c (rest.drop 2))
    else (.string .basic, c :: shortString true c rest)
  | c =>
    if c == ' ' || c == '\t' then
      (.blank, c :: rest.takeWhile fun c => c == ' ' || c == '\t')
    else (.atom, c :: rest.takeWhile fun c => !endsAtom c)

/-- The number of bytes of a text. -/
def byteCount (cs : List Char) : Nat := cs.foldl (fun n c => n + c.utf8Size) 0

/-- The tokens of a text that begins at an offset. -/
def tokensFrom : Nat → Nat → List Char → List Token
  | 0, _, _ => []
  | _, _, [] => []
  | fuel + 1, offset, c :: rest =>
    let (kind, text) := nextToken c rest
    let stop := offset + byteCount text
    ⟨kind, ⟨offset, stop⟩, text⟩ :: tokensFrom fuel stop (rest.drop (text.length - 1))

/-- The tokens of a document; a byte order mark at its beginning is passed over. -/
def tokens (source : String) : List Token :=
  let cs := source.toList
  match cs with
  | c :: rest =>
    if c.toNat == 0xFEFF then tokensFrom rest.length 3 rest else tokensFrom cs.length 0 cs
  | [] => []

end SceneRender.Toml
