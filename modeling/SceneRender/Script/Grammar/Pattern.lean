import SceneRender.Script.Grammar.Expression

/-!
# Patterns

The patterns of a `match` statement.  Their expressions are literals and dotted
names, so no pattern can hold a call.
-/

namespace SceneRender.Script

open Reader

/-- May a pattern begin with the token? -/
def startsPattern : Token → Bool
  | .name _ | .int _ | .float _ | .imaginary _ | .string .. => true
  | .keyword k =>
    match k with
    | .none_ | .true_ | .false_ => true
    | _ => false
  | .symbol s =>
    match s with
    | .leftParen | .leftBracket | .leftBrace | .minus | .star => true
    | _ => false
  | _ => false

/-- May the token follow a string in some pattern? -/
def followsPatternString : Token → Bool
  | .keyword k =>
    match k with
    | .as_ | .if_ => true
    | _ => false
  | .symbol s =>
    match s with
    | .bar | .comma | .colon | .rightParen | .rightBracket | .rightBrace => true
    | _ => false
  | _ => false

/-- May the token follow a pattern that a name is given to? -/
def followsCapture : Token → Bool
  | .keyword k => k == .if_
  | .symbol s =>
    match s with
    | .comma | .colon | .rightParen | .rightBracket | .rightBrace => true
    | _ => false
  | _ => false

/-- The number that a token is. -/
def number? : Token → Option Expr
  | .int n => some (.constant (.int n))
  | .float v => some (.constant (.float v))
  | .imaginary v => some (.constant (.imaginary v))
  | _ => none

/-- The singleton that a token names. -/
def singleton? : Token → Option Constant
  | .keyword .none_ => some .none
  | .keyword .true_ => some (.bool true)
  | .keyword .false_ => some (.bool false)
  | _ => none

/-- Reads a number. -/
def numberPattern : Reader Expr := do
  match (← peek).bind number? with
  | some e =>
    advance
    return e
  | none => unexpected

/-- Reads a number with its sign, and a second number added to it or taken from
it, which together make a complex one. -/
def complexPattern : Reader Expr := do
  let first ← if ← accept (.symbol .minus) then Expr.unary .minus <$> numberPattern
    else numberPattern
  if ← accept (.symbol .plus) then
    let second ← numberPattern
    return .binary first .add second
  else if ← accept (.symbol .minus) then
    let second ← numberPattern
    return .binary first .sub second
  else return first

/-- Reads further parts of a dotted name. -/
def dottedTail : Nat → Expr → Reader Expr
  | 0, _ => unexpected
  | n + 1, e => do
    if ← accept (.symbol .dot) then
      let word ← identifier
      dottedTail n (.attribute e word)
    else return e

/-- The name that a pattern binds; the underscore binds none. -/
def boundName (word : String) : Option String :=
  if word == "_" then none else some word

/-- Reads the key of a mapping pattern: a literal or a dotted name. -/
def patternKey (read : FieldReader) (n : Nat) : Reader Expr := do
  match ← peek with
  | some (.string ..) => strings read (· == .symbol .colon)
  | some (.name word) =>
    advance
    if ← at? (.symbol .dot) then dottedTail n (.name word) else unexpected
  | some t =>
    match singleton? t with
    | some c =>
      advance
      return .constant c
    | none => complexPattern
  | none => unexpected

/-- The parts of a class pattern in brackets: patterns by place, then by name. -/
structure ClassParts where
  patterns : List Pattern
  keywords : List (String × Pattern)

/-- Reads the patterns of a class pattern up to the closing bracket; once one is
given by name, the rest must be. -/
def classParts (pattern : Reader Pattern) : Nat → ClassParts → Reader ClassParts
  | 0, _ => unexpected
  | n + 1, parts => do
    if ← at? (.symbol .rightParen) then return parts
    let named := !parts.keywords.isEmpty || (← peekSecond) == some (.symbol .equal)
    let parts ← match ← peek with
      | some (.name _) =>
        if named then
          let word ← identifier
          symbol .equal
          let p ← pattern
          Pure.pure { parts with keywords := parts.keywords ++ [(word, p)] }
        else
          let p ← pattern
          Pure.pure { parts with patterns := parts.patterns ++ [p] }
      | _ =>
        if !parts.keywords.isEmpty then unexpected
        else
          let p ← pattern
          Pure.pure { parts with patterns := parts.patterns ++ [p] }
    if ← accept (.symbol .comma) then classParts pattern n parts
    else if ← at? (.symbol .rightParen) then return parts
    else unexpected

/-- The entries of a mapping pattern and the name of its rest. -/
structure MappingParts where
  keys : List Expr
  patterns : List Pattern
  rest : Option String

/-- Reads the entries of a mapping pattern up to the closing brace; the rest
comes last. -/
def mappingParts (read : FieldReader) (pattern : Reader Pattern) :
    Nat → MappingParts → Reader MappingParts
  | 0, _ => unexpected
  | n + 1, parts => do
    if ← at? (.symbol .rightBrace) then return parts
    else if ← accept (.symbol .power) then
      let word ← identifier
      let _ ← accept (.symbol .comma)
      return { parts with rest := some word }
    else
      let key ← patternKey read n
      symbol .colon
      let p ← pattern
      let parts :=
        { parts with keys := parts.keys ++ [key], patterns := parts.patterns ++ [p] }
      if ← accept (.symbol .comma) then mappingParts read pattern n parts
      else return parts

mutual

/-- A pattern, which a name may be given to. -/
def pattern (read : FieldReader) : Nat → Reader Pattern
  | 0 => unexpected
  | n + 1 => do
    let start ← offset
    let first ← closedPattern read n
    let rest ← chainTail (closedPattern read n) (.symbol .bar) n []
    let p : Pattern := if rest.isEmpty then first else .or (first :: rest)
    if ← accept (.keyword .as_) then
      let word ← identifier
      if word == "_" then rejectBefore followsCapture .wildcardTarget start
      else return .capture (some p) (some word)
    else return p

/-- A pattern without alternatives. -/
def closedPattern (read : FieldReader) : Nat → Reader Pattern
  | 0 => unexpected
  | n + 1 => do
    match ← peek with
    | some (.string ..) =>
      let e ← strings read followsPatternString
      return .value e
    | some (.name word) =>
      advance
      let cls ← dottedTail n (.name word)
      if ← accept (.symbol .leftParen) then
        let parts ← classParts (pattern read n) n ⟨[], []⟩
        symbol .rightParen
        return .object cls parts.patterns parts.keywords
      else
        match cls with
        | .name w => return .capture none (boundName w)
        | _ => return .value cls
    | some (.symbol .star) =>
      advance
      let word ← identifier
      return .star (boundName word)
    | some (.symbol .leftParen) =>
      advance
      if ← accept (.symbol .rightParen) then return .sequence []
      else
        let first ← pattern read n
        let (items, trailing) ← commaTail (pattern read n) startsPattern n [first]
        symbol .rightParen
        match items, trailing with
        | [p], false => return p
        | _, _ => return .sequence items
    | some (.symbol .leftBracket) =>
      advance
      if ← accept (.symbol .rightBracket) then return .sequence []
      else
        let first ← pattern read n
        let (items, _) ← commaTail (pattern read n) startsPattern n [first]
        symbol .rightBracket
        return .sequence items
    | some (.symbol .leftBrace) =>
      advance
      let parts ← mappingParts read (pattern read n) n ⟨[], [], none⟩
      symbol .rightBrace
      return .mapping parts.keys parts.patterns parts.rest
    | some t =>
      match singleton? t with
      | some c =>
        advance
        return .singleton c
      | none =>
        let e ← complexPattern
        return .value e
    | none => unexpected

end

/-- The pattern of a case; several without brackets make a sequence. -/
def casePattern (read : FieldReader) (n : Nat) : Reader Pattern := do
  let first ← pattern read n
  let (items, trailing) ← commaTail (pattern read n) startsPattern n [first]
  match items, trailing with
  | [p], false => return p
  | _, _ => return .sequence items

end SceneRender.Script
