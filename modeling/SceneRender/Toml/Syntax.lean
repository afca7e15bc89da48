import SceneRender.Toml.Token

/-!
# The form of a TOML document

A document is a list of table headers and assignments, one a line.  This module
finds them, and the lists and records inside values, from the tokens; keys and
scalars are left as they are written.
-/

namespace SceneRender.Toml

/-- A key as it is written. -/
structure WrittenKey where
  form : Option StringForm
  span : Span
  text : List Char
  deriving Repr

/-- A value as it is written. -/
inductive WrittenValue where
  | scalar (form : Option StringForm) (span : Span) (text : List Char)
  | list (span : Span) (items : List WrittenValue)
  | record (span : Span) (fields : List (List WrittenKey × WrittenValue))
  deriving Repr

/-- A line of a document that says something. -/
inductive Statement where
  /-- The header of a table, or of one more table of a list. -/
  | header (isArray : Bool) (span : Span) (path : List WrittenKey)
  /-- A value for a key. -/
  | assignment (path : List WrittenKey) (value : WrittenValue)
  deriving Repr

/-- What is left of the tokens, and the span of the last one that was taken. -/
structure Stream where
  rest : List Token
  last : Span
  /-- The offset at which the document ends. -/
  ending : Nat

namespace Stream

/-- The next token. -/
def peek? (s : Stream) : Option Token := s.rest.head?

/-- Is the next token of a kind? -/
def at? (s : Stream) (kind : TokenKind) : Bool := s.peek?.any (·.kind == kind)

/-- The stream after the next token. -/
def advance (s : Stream) : Stream :=
  match s.rest with
  | [] => s
  | t :: rest => { s with rest := rest, last := t.span }

/-- The span of the next token, or the end of the document. -/
def nextSpan (s : Stream) : Span :=
  match s.rest with
  | [] => ⟨s.ending, s.ending⟩
  | t :: _ => t.span

/-- Fails at a span. -/
def fail {α : Type} (_ : Stream) (flaw : Flaw) (span : Span) : Except Fault α :=
  .error ⟨flaw, some span⟩

/-- Skips blanks, which do not count as taken. -/
def pastBlanks (s : Stream) : Stream :=
  if s.at? .blank then { s with rest := s.rest.drop 1 } else s

end Stream

/-- May a comment hold the character? -/
def commentMayHold (c : Char) : Bool := c == '\t' || (32 ≤ c.toNat && c.toNat != 127)

/-- Checks a comment. -/
def checkComment (t : Token) : Except Fault Unit :=
  match t.text.findIdx? fun c => !commentMayHold c with
  | none => .ok ()
  | some i =>
    let at_ := t.span.start + byteCount (t.text.take i)
    .error ⟨.invalidComment, some ⟨at_, at_⟩⟩

/-- Checks a line break. -/
def checkNewline (t : Token) : Except Fault Unit :=
  if t.text == ['\r'] then .error ⟨.strayCarriageReturn, t.span.after⟩ else .ok ()

/-- The key that a token is, if it can be one. -/
def keyOf? (t : Token) : Option WrittenKey :=
  match t.kind with
  | .string form => some ⟨some form, t.span, t.text⟩
  | .atom => some ⟨none, t.span, t.text⟩
  | _ => none

/-- The key that stands where none is written. -/
def absentKey (s : Stream) : WrittenKey := ⟨none, s.nextSpan.before, []⟩

/-- Reads the parts of a key after its first one. -/
def dottedKeys : Nat → List WrittenKey → Stream → List WrittenKey × Bool × Stream
  | 0, taken, s => (taken.reverse, false, s)
  | fuel + 1, taken, s =>
    let s := s.pastBlanks
    if s.at? .dot then
      let s := s.advance.pastBlanks
      match s.peek?.bind keyOf? with
      | some k => dottedKeys fuel (k :: taken) s.advance
      | none =>
        if s.at? .dot then dottedKeys fuel (absentKey s :: taken) s
        else ((absentKey s :: taken).reverse, false, s)
    else (taken.reverse, true, s)

/-- Reads a key: its parts, and whether all of them are there. -/
def keyPath (s : Stream) : List WrittenKey × Bool × Stream :=
  match s.peek?.bind keyOf? with
  | some k => dottedKeys s.rest.length [k] s.advance
  | none =>
    if s.at? .dot then dottedKeys s.rest.length [absentKey s] s
    else ([absentKey s], false, s)

/-- Reads the rest of a line: nothing but blanks and a comment. -/
def lineEnd (s : Stream) : Except Fault Stream :=
  let s := s.pastBlanks
  match s.rest with
  | [] => .ok s
  | t :: _ =>
    match t.kind with
    | .newline => do
      checkNewline t
      return s.advance
    | .comment => do
      checkComment t
      return s.advance
    | _ => s.fail .extraContent t.span.before

/-- Joins the tokens of a scalar without quotes: atoms and dots that adjoin, and
blanks that an atom follows. -/
def unquotedTail : Nat → Span → List Char → Stream → WrittenValue × Stream
  | 0, span, text, s => (.scalar none span text, s)
  | fuel + 1, span, text, s =>
    match s.rest with
    | t :: rest =>
      match t.kind with
      | .atom | .dot => unquotedTail fuel (span.join t.span) (text ++ t.text) s.advance
      | .blank =>
        match rest with
        | u :: _ =>
          if u.kind == .atom then
            unquotedTail fuel (span.join u.span) (text ++ t.text ++ u.text) s.advance.advance
          else (.scalar none span text, s)
        | [] => (.scalar none span text, s)
      | _ => (.scalar none span text, s)
    | [] => (.scalar none span text, s)

/-- Skips blanks, comments and line breaks. -/
def pastLines : Nat → Stream → Except Fault Stream
  | 0, s => .ok s
  | fuel + 1, s =>
    match s.rest with
    | t :: _ =>
      match t.kind with
      | .blank => pastLines fuel s.advance
      | .newline => do
        checkNewline t
        pastLines fuel s.advance
      | .comment => do
        checkComment t
        pastLines fuel s.advance
      | _ => .ok s
    | [] => .ok s

/-- The stream after blanks, comments and line breaks, with the span before them
as the last one taken. -/
def nextPart (s : Stream) : Except Fault Stream := do
  return { ← pastLines s.rest.length s with last := s.last }

/-- How deep values may nest. -/
def deepest : Nat := 80

/-- The empty string that stands for a value where none is written. -/
def absentValue (span : Span) : WrittenValue := .scalar (some .literal) span.before []

mutual

/-- Reads a value inside so many open brackets. -/
def value (fuel depth : Nat) (s : Stream) : Except Fault (WrittenValue × Stream) :=
  match fuel with
  | 0 => s.fail .unquoted s.nextSpan.before
  | fuel + 1 =>
    match s.rest with
    | [] => .ok (.scalar none s.nextSpan [], s)
    | t :: _ =>
      match t.kind with
      | .comment | .comma | .newline => .ok (.scalar none t.span.before [], s)
      | .equals => s.fail .extraAssignment t.span
      | .leftBrace =>
        if depth == deepest then s.fail .deepValue t.span
        else fields fuel (depth + 1) t.span .key [] [] s.advance
      | .rightBrace => s.fail .missingRecordOpening t.span.before
      | .leftBracket =>
        if depth == deepest then s.fail .deepValue t.span
        else items fuel (depth + 1) t.span true [] s.advance
      | .rightBracket => s.fail .missingListOpening t.span.before
      | .string form => .ok (.scalar (some form) t.span t.text, s.advance)
      | .atom | .dot => .ok (unquotedTail s.rest.length t.span t.text s.advance)
      | .blank => value fuel depth s.advance

/-- Reads the items of a list after its opening bracket; `needsValue` says that a
comma may not come next. -/
def items (fuel depth : Nat) (opening : Span) (needsValue : Bool)
    (taken : List WrittenValue) (s : Stream) : Except Fault (WrittenValue × Stream) :=
  match fuel with
  | 0 => s.fail .unclosedList s.last.after
  | fuel + 1 => do
    let s ← nextPart s
    match s.rest with
    | [] => s.fail .unclosedList s.last.after
    | t :: _ =>
      match t.kind with
      | .comma =>
        if needsValue then s.fail .extraListComma t.span
        else items fuel depth opening true taken s.advance
      | .equals => s.fail .assignmentInList t.span
      | .rightBracket => return (.list (opening.join t.span) taken.reverse, s.advance)
      | _ =>
        if needsValue then
          let (v, s) ← value fuel depth s
          items fuel depth opening false (v :: taken) s
        else s.fail .missingListComma t.span.before

/-- Reads the fields of a record after its opening brace: what has to come next,
and the key whose value is still missing. -/
def fields (fuel depth : Nat) (opening : Span) (need : RecordNeed) (path : List WrittenKey)
    (taken : List (List WrittenKey × WrittenValue)) (s : Stream) :
    Except Fault (WrittenValue × Stream) :=
  match fuel with
  | 0 => s.fail .unclosedRecord s.last.after
  | fuel + 1 => do
    let s ← nextPart s
    match s.rest with
    | [] => s.fail .unclosedRecord s.last.after
    | t :: _ =>
      let before := t.span.before
      match t.kind with
      | .comma =>
        if need == .comma then fields fuel depth opening .key [] taken s.advance
        else s.fail (.extraRecordComma need) before
      | .equals =>
        match need with
        | .key => fields fuel depth opening .value [absentKey s] taken s.advance
        | .equals => fields fuel depth opening .value path taken s.advance
        | _ => s.fail (.extraRecordAssignment need) before
      | .rightBrace =>
        let taken := if need == .equals || need == .value
          then (path, absentValue t.span) :: taken else taken
        return (.record (opening.join t.span) taken.reverse, s.advance)
      | .rightBracket =>
        if need == .value then s.fail .missingListOpening before
        else s.fail (.invalidRecordElement need) before
      | kind =>
        match need with
        | .key =>
          if kind == .leftBracket || kind == .leftBrace then
            s.fail (.missingRecordKey need) before
          else
            let (path, _, s) := keyPath s
            fields fuel depth opening .equals path taken s
        | .equals => s.fail .missingRecordAssignment before
        | .value =>
          let (v, s) ← value fuel depth s
          fields fuel depth opening .comma [] ((path, v) :: taken) s
        | .comma =>
          if kind == .leftBracket || kind == .leftBrace then
            s.fail (.missingRecordKey need) before
          else s.fail .missingRecordComma before

end

/-- Skips all that is left of a line. -/
def pastLine (s : Stream) : Stream :=
  let skipped := s.rest.takeWhile (·.kind != .newline)
  { s with rest := s.rest.drop skipped.length }

/-- Reads a table header after its first opening bracket. -/
def header (opening : Span) (s : Stream) : Except Fault (Statement × Stream) := do
  let isArray := s.at? .leftBracket
  let s := if isArray then s.advance else s
  let (path, complete, s) := keyPath s.pastBlanks
  let s := s.pastBlanks
  if s.at? .rightBracket then
    let close := s.nextSpan
    let s := s.advance
    if isArray then
      if s.at? .rightBracket then
        let span := opening.join s.nextSpan
        let s ← lineEnd s.advance
        return (.header true span path, s)
      else s.fail .halfClosedTable close.after
    else
      let s ← lineEnd s
      return (.header false (opening.join close) path, s)
  else if complete then s.fail (.unclosedTable isArray) s.last.after
  else return (.header isArray (opening.join s.last) path, pastLine s)

/-- Reads an assignment. -/
def assignment (s : Stream) : Except Fault (Statement × Stream) := do
  let flaw := if s.at? .dot then Flaw.valueMissing else .keyWithoutValue
  let (path, _, s) := keyPath s
  if s.at? .equals then
    let s := s.advance.pastBlanks
    let (v, s) ← value (2 * s.rest.length + 2) 0 s
    let s ← lineEnd s
    return (.assignment path v, s)
  else s.fail flaw s.nextSpan.before

/-- Reads the statements of a document. -/
def statements : Nat → List Statement → Stream → Except Fault (List Statement)
  | 0, taken, _ => .ok taken.reverse
  | fuel + 1, taken, s =>
    match s.rest with
    | [] => .ok taken.reverse
    | t :: _ =>
      match t.kind with
      | .blank => statements fuel taken s.advance
      | .newline => do
        checkNewline t
        statements fuel taken s.advance
      | .comment => do
        checkComment t
        statements fuel taken s.advance
      | .leftBracket => do
        let (h, s) ← header t.span s.advance
        statements fuel (h :: taken) s
      | .rightBracket => s.fail .missingTableOpening t.span.before
      | .comma | .leftBrace | .rightBrace => s.fail .invalidPair t.span.before
      | _ => do
        let (a, s) ← assignment s
        statements fuel (a :: taken) s

/-- The statements of a document. -/
def statementsOf (source : String) : Except Fault (List Statement) :=
  let ts := tokens source
  statements (ts.length + 1) [] ⟨ts, ⟨0, 0⟩, source.utf8ByteSize⟩

end SceneRender.Toml
