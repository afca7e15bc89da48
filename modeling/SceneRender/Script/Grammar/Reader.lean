import SceneRender.Script.Lexer

/-!
# Reading tokens

A reader takes tokens from the front of a stream and either yields a value or
fails.  It never takes a token that no script could hold at that point, so the
token at which it fails is the first one that is wrong.  A failure remembers
how many tokens were left: of two failed attempts at one text, the one with
fewer tokens left got further.
-/

namespace SceneRender.Script

/-- A refused stream: why, and how many tokens were left. -/
structure Failure where
  error : ScriptError
  left : Nat

/-- A reader of values of one type. -/
def Reader (α : Type) : Type := TokenStream → Except Failure (α × TokenStream)

namespace Reader

/-- The reader that takes nothing. -/
@[inline] def value {α : Type} (a : α) : Reader α := fun s => .ok (a, s)

/-- One reader after the other. -/
@[inline] def andThen {α β : Type} (r : Reader α) (f : α → Reader β) : Reader β := fun s =>
  match r s with
  | .ok (a, s') => f a s'
  | .error e => .error e

instance : Monad Reader where
  pure := Reader.value
  bind := Reader.andThen

/-- Fails for a cause of its own at an offset. -/
def fail {α : Type} (fault : Fault) (offset : Nat) : Reader α := fun s =>
  .error ⟨⟨fault, offset⟩, s.tokens.length⟩

/-- The token ahead, nothing at the end of the text.  A fault of the lexer is met
here. -/
def peek : Reader (Option Token) := fun s =>
  match s.tokens with
  | t :: _ => .ok (some t.token, s)
  | [] =>
    match s.ending with
    | .done _ => .ok (none, s)
    | .fault e => .error ⟨e, 0⟩

/-- The token after the one ahead, as far as it is known. -/
def peekSecond : Reader (Option Token) := fun s =>
  match s.tokens with
  | _ :: t :: _ => .ok (some t.token, s)
  | _ => .ok (none, s)

/-- The offset where the token ahead starts. -/
def offset : Reader Nat := fun s =>
  match s.tokens, s.ending with
  | t :: _, _ => .ok (t.start, s)
  | [], .done o => .ok (o, s)
  | [], .fault e => .ok (e.offset, s)

/-- Takes the token ahead. -/
def advance : Reader Unit := fun s => .ok ((), { s with tokens := s.tokens.tail })

/-- Fails at the token ahead. -/
def unexpected {α : Type} : Reader α := fun s =>
  match s.tokens with
  | t :: _ => .error ⟨⟨.unexpectedToken t.token, t.start⟩, s.tokens.length⟩
  | [] =>
    match s.ending with
    | .done o => .error ⟨⟨.unexpectedEnd, o⟩, 0⟩
    | .fault e => .error ⟨e, 0⟩

/-- Fails for a cause of its own, unless the token ahead is itself a fault of the
lexer. -/
def reject {α : Type} (fault : Fault) (offset : Nat) : Reader α := do
  let _ ← peek
  fail fault offset

/-- Fails for a cause of its own, unless the token ahead may not stand here; then it
fails at that token. -/
def rejectBefore {α : Type} (follows : Token → Bool) (fault : Fault) (offset : Nat) :
    Reader α := do
  if (← peek).all follows then fail fault offset else unexpected

/-- Is the token ahead this one? -/
def at? (t : Token) : Reader Bool := do
  return (← peek) == some t

/-- Takes exactly this token. -/
def expect (t : Token) : Reader Unit := do
  if ← at? t then advance else unexpected

/-- Takes this token if it is ahead, and says whether it was. -/
def accept (t : Token) : Reader Bool := do
  if ← at? t then
    advance
    return true
  else return false

/-- Takes this token if the condition holds and it is ahead, and says whether it
was taken. -/
def acceptIf (condition : Bool) (t : Token) : Reader Bool :=
  if condition then accept t else return false

/-- Takes a symbol. -/
def symbol (s : Symbol) : Reader Unit := expect (.symbol s)

/-- Takes a keyword. -/
def keyword (k : Keyword) : Reader Unit := expect (.keyword k)

/-- Takes a name. -/
def identifier : Reader String := do
  match ← peek with
  | some (.name word) =>
    advance
    return word
  | _ => unexpected

/-- Takes the indentation of a block, the only thing that may stand here. -/
def indentation : Reader Unit := fun s =>
  match s.tokens with
  | t :: rest =>
    if t.token == .indent then .ok ((), { s with tokens := rest })
    else .error ⟨⟨.expectedIndent, t.start⟩, s.tokens.length⟩
  | [] =>
    match s.ending with
    | .done o => .error ⟨⟨.unindent, o⟩, 0⟩
    | .fault e => .error ⟨e, 0⟩

/-- Does the token ahead satisfy `p`? -/
def ahead (p : Token → Bool) : Reader Bool := do
  return (← peek).any p

/-- Reads the rest of a list after its first items, which come reversed: a comma
and an item, as long as both are there.  Also says whether a comma ends the
list. -/
def commaTail {α : Type} (item : Reader α) (starts : Token → Bool) :
    Nat → List α → Reader (List α × Bool)
  | 0, _ => unexpected
  | n + 1, items => do
    if ← accept (.symbol .comma) then
      if ← ahead starts then
        let x ← item
        commaTail item starts n (x :: items)
      else return (items.reverse, true)
    else return (items.reverse, false)

/-- Reads items with a comma between each two and none at the end. -/
def commaSeparated {α : Type} (item : Reader α) : Nat → List α → Reader (List α)
  | 0, _ => unexpected
  | n + 1, items => do
    let x ← item
    if ← accept (.symbol .comma) then commaSeparated item n (x :: items)
    else return (x :: items).reverse

/-- Reads further operands as long as the same separator stands before them. -/
def chainTail {α : Type} (item : Reader α) (separator : Token) : Nat → List α → Reader (List α)
  | 0, _ => unexpected
  | n + 1, items => do
    if ← accept separator then
      let x ← item
      chainTail item separator n (x :: items)
    else return items.reverse

/-- Reads items as long as one starts here. -/
def many {α : Type} (item : Reader α) (starts : Token → Bool) : Nat → List α → Reader (List α)
  | 0, _ => unexpected
  | n + 1, items => do
    if ← ahead starts then
      let x ← item
      many item starts n (x :: items)
    else return items.reverse

/-- Reads an item if one starts here. -/
def optional {α : Type} (item : Reader α) (starts : Token → Bool) : Reader (Option α) := do
  if ← ahead starts then
    let x ← item
    return some x
  else return none

end Reader

end SceneRender.Script
