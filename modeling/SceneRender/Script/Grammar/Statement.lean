import SceneRender.Script.Grammar.Pattern

/-!
# Statements

The grammar of statements and of whole scripts.  A header in brackets after
`with` can be read in two ways, as the bracketed items or as an expression; both
are tried, and if neither fits the one that got further reports.
-/

namespace SceneRender.Script

open Reader

/-! ## Small statements -/

/-- Does the token begin a small statement? -/
def startsSmall (t : Token) : Bool :=
  startsElement t ||
    match t with
    | .keyword k =>
      match k with
      | .pass_ | .break_ | .continue_ | .del_ | .return_ | .raise_ | .global_ | .nonlocal_
      | .assert_ | .import_ | .from_ | .yield_ | .type_ => true
      | _ => false
    | _ => false

/-- The operator of an augmented assignment. -/
def augmented? : Token → Option BinaryOp
  | .symbol s =>
    match s with
    | .plusEqual => some .add
    | .minusEqual => some .sub
    | .starEqual => some .mul
    | .powerEqual => some .pow
    | .slashEqual => some .div
    | .doubleSlashEqual => some .floorDiv
    | .percentEqual => some .mod
    | .atEqual => some .matMul
    | .barEqual => some .bitOr
    | .amperEqual => some .bitAnd
    | .caretEqual => some .bitXor
    | .shiftLeftEqual => some .shiftLeft
    | .shiftRightEqual => some .shiftRight
    | _ => none
  | _ => none

/-- Reads what may be assigned: expressions or a `yield`. -/
def assigned (read : FieldReader) (n : Nat) : Reader Expr := do
  if ← at? (.keyword .yield_) then exprOf (yieldExpr read n) else exprOf (testList read n)

/-- Reads the rest of an assignment; the targets come reversed. -/
def assignTail (read : FieldReader) : Nat → List Expr → Expr → Reader Stmt
  | 0, _, _ => unexpected
  | n + 1, targets, value => do
    if ← accept (.symbol .equal) then
      let next ← assigned read n
      assignTail read n (value :: targets) next
    else return .assign targets.reverse value

/-- Reads a statement that begins with an expression: the expression itself, an
assignment, or an annotation, which only a single expression can have. -/
def expressionStmt (read : FieldReader) (n : Nat) : Reader Stmt := do
  let starred ← at? (.symbol .star)
  let start ← offset
  let first ← starTest read n
  let (items, trailing) ← commaTail (starTest read n) startsElement n [first]
  let e := (tupleOf start items trailing).expr
  let single := !starred && !trailing && items.length == 1
  match ← peek with
  | some (.symbol .equal) =>
    advance
    let value ← assigned read n
    assignTail read n [e] value
  | some (.symbol .colon) =>
    if single then
      advance
      let typing ← exprOf (test read n)
      if ← accept (.symbol .equal) then
        let value ← assigned read n
        return .annAssign e typing (some value)
      else return .annAssign e typing none
    else unexpected
  | some t =>
    match augmented? t with
    | some op =>
      advance
      let value ← assigned read n
      return .augAssign e op value
    | none => return .expr e
  | none => return .expr e

/-- Reads a name with dots. -/
def dottedName (n : Nat) : Reader String := do
  let first ← identifier
  let rest ← chainTail identifier (.symbol .dot) n []
  return ".".intercalate (first :: rest)

/-- Reads a name to import and the name it is bound to. -/
def importAlias (name : Reader String) : Reader Alias := do
  let word ← name
  if ← accept (.keyword .as_) then
    let as ← identifier
    return ⟨word, some as⟩
  else return ⟨word, none⟩

/-- Counts the dots of a relative import. -/
def importDots : Nat → Nat → Reader Nat
  | 0, _ => unexpected
  | n + 1, dots => do
    if ← accept (.symbol .ellipsis) then importDots n (dots + 3)
    else if ← accept (.symbol .dot) then importDots n (dots + 1)
    else return dots

/-- Is the token a name? -/
def isName : Token → Bool
  | .name _ => true
  | _ => false

/-- Reads the names that an import takes from a module. -/
def importedNames (n : Nat) : Reader (List Alias) := do
  if ← accept (.symbol .star) then return [⟨"*", none⟩]
  else if ← accept (.symbol .leftParen) then
    let first ← importAlias identifier
    let (names, _) ← commaTail (importAlias identifier) isName n [first]
    symbol .rightParen
    return names
  else commaSeparated (importAlias identifier) n []

/-- Reads an import from a module. -/
def importFrom (n : Nat) : Reader Stmt := do
  let dots ← importDots n 0
  let module ←
    if dots == 0 || (← ahead isName) then some <$> dottedName n
    else Pure.pure none
  keyword .import_
  let names ← importedNames n
  return .importFrom module names dots

/-- Reads one type parameter. -/
def typeParam (read : FieldReader) (n : Nat) : Reader TypeParam := do
  if ← accept (.symbol .star) then
    let word ← identifier
    return .variadic word
  else if ← accept (.symbol .power) then
    let word ← identifier
    return .keywords word
  else
    let word ← identifier
    if ← accept (.symbol .colon) then
      let bound ← exprOf (test read n)
      return .variable word (some bound)
    else return .variable word none

/-- May a type parameter begin with the token? -/
def startsTypeParam (t : Token) : Bool :=
  isName t || t == .symbol .star || t == .symbol .power

/-- Reads type parameters if a bracket opens here. -/
def typeParams (read : FieldReader) (n : Nat) : Reader (List TypeParam) := do
  if ← accept (.symbol .leftBracket) then
    let first ← typeParam read n
    let (params, _) ← commaTail (typeParam read n) startsTypeParam n [first]
    symbol .rightBracket
    return params
  else return []

/-- Reads a small statement, one without a block. -/
def smallStmt (read : FieldReader) (n : Nat) : Reader Stmt := do
  let value := exprOf (test read n)
  match ← peek with
  | some (.keyword .pass_) =>
    advance
    return .pass
  | some (.keyword .break_) =>
    advance
    return .breakLoop
  | some (.keyword .continue_) =>
    advance
    return .continueLoop
  | some (.keyword .del_) =>
    advance
    let first ← target read n
    let (targets, _) ← commaTail (target read n) startsElement n [first]
    return .delete (targets.map (·.expr))
  | some (.keyword .return_) =>
    advance
    let e ← optional (exprOf (testList read n)) startsElement
    return .ret e
  | some (.keyword .raise_) =>
    advance
    if ← ahead startsTest then
      let exception ← value
      if ← accept (.keyword .from_) then
        let cause ← value
        return .raise (some exception) (some cause)
      else return .raise (some exception) none
    else return .raise none none
  | some (.keyword .global_) =>
    advance
    let names ← commaSeparated identifier n []
    return .global names
  | some (.keyword .nonlocal_) =>
    advance
    let names ← commaSeparated identifier n []
    return .nonlocal names
  | some (.keyword .assert_) =>
    advance
    let condition ← value
    if ← accept (.symbol .comma) then
      let message ← value
      return .assert condition (some message)
    else return .assert condition none
  | some (.keyword .import_) =>
    advance
    let names ← commaSeparated (importAlias (dottedName n)) n []
    return .importNames names
  | some (.keyword .from_) =>
    advance
    importFrom n
  | some (.keyword .yield_) =>
    let e ← exprOf (yieldExpr read n)
    return .expr e
  | some (.keyword .type_) =>
    advance
    let word ← identifier
    let params ← typeParams read n
    symbol .equal
    let e ← value
    return .typeAlias word params e
  | some t => if startsElement t then expressionStmt read n else unexpected
  | none => unexpected

/-- Reads small statements up to the end of their line. -/
def smallLine (read : FieldReader) : Nat → List Stmt → Reader (List Stmt)
  | 0, _ => unexpected
  | n + 1, stmts => do
    let s ← smallStmt read n
    if ← accept (.symbol .semicolon) then
      if ← accept .newline then return (s :: stmts).reverse
      else smallLine read n (s :: stmts)
    else
      expect .newline
      return (s :: stmts).reverse

/-! ## Headers -/

/-- Reads an item of a `with` statement. -/
def withItem (read : FieldReader) (n : Nat) : Reader WithItem := do
  let context ← exprOf (test read n)
  if ← accept (.keyword .as_) then
    let bound ← exprOf (binary read n 1)
    return ⟨context, some bound⟩
  else return ⟨context, none⟩

/-- Reads the items of a `with` statement in brackets, up to its colon. -/
def bracketedItems (read : FieldReader) (n : Nat) : Reader (List WithItem) := do
  symbol .leftParen
  let first ← withItem read n
  let (items, _) ← commaTail (withItem read n) startsTest n [first]
  symbol .rightParen
  if ← at? (.symbol .colon) then return items else unexpected

/-- May the token follow the string or the bracket that the items of a `with` statement
begin with? -/
def followsFirstAtom (t : Token) : Bool :=
  (binaryOperator? t).isSome || (comparison? t).isSome ||
    match t with
    | .keyword k =>
      match k with
      | .and_ | .or_ | .not_ | .in_ | .is_ | .if_ | .as_ => true
      | _ => false
    | .symbol s =>
      match s with
      | .power | .leftParen | .leftBracket | .dot | .comma | .colon => true
      | _ => false
    | _ => false

/-- The tokens after the bracket that closes the one which is open, `depth` more being
open inside of it. -/
def pastBracket : Nat → List Located → List Located
  | _, [] => []
  | depth, t :: rest =>
    match t.token with
    | .symbol .leftParen | .symbol .leftBracket | .symbol .leftBrace =>
      pastBracket (depth + 1) rest
    | .symbol .rightParen | .symbol .rightBracket | .symbol .rightBrace =>
      match depth with
      | 0 => rest
      | depth + 1 => pastBracket depth rest
    | _ => pastBracket depth rest

/-- The tokens after the strings or the bracket that come first. -/
def pastFirstAtom (tokens : List Located) : List Located :=
  match tokens with
  | ⟨.symbol .leftParen, _, _⟩ :: rest => pastBracket 0 rest
  | tokens => (splitStrings tokens).2

/-- Reads the first item of a `with` statement.  What is wrong with the strings or the
bracket that it begins with counts only if the token behind them may stand there. -/
def firstItem (read : FieldReader) (n : Nat) : Reader WithItem := fun s =>
  match withItem read n s with
  | .ok result => .ok result
  | .error e =>
    let rest := pastFirstAtom s.tokens
    if e.left == rest.length && rest.head?.any fun t => !followsFirstAtom t.token then
      unexpected { s with tokens := rest }
    else .error e

/-- Reads the items of a `with` statement without brackets, up to its colon. -/
def plainItems (read : FieldReader) (n : Nat) : Reader (List WithItem) := do
  let first ← firstItem read n
  let rest ← if ← accept (.symbol .comma) then commaSeparated (withItem read n) n []
    else pure []
  if ← at? (.symbol .colon) then return first :: rest else unexpected

/-- Tries two readers on one stream: the first that succeeds counts, and if none
does, the failure with fewer tokens left. -/
def either {α : Type} (r₁ r₂ : Reader α) : Reader α := fun s =>
  match r₁ s with
  | .ok result => .ok result
  | .error e₁ =>
    match r₂ s with
    | .ok result => .ok result
    | .error e₂ => .error (if e₁.left < e₂.left then e₁ else e₂)

/-- Reads the items of a `with` statement. -/
def withItems (read : FieldReader) (n : Nat) : Reader (List WithItem) := do
  if ← at? (.symbol .leftParen) then either (bracketedItems read n) (plainItems read n)
  else plainItems read n

/-- Reads the subject of a `match` statement; several make a tuple. -/
def matchSubject (read : FieldReader) (n : Nat) : Reader Expr := do
  let first ← element read n
  let (items, trailing) ← commaTail (element read n) startsElement n [first]
  match items, trailing with
  | [e], false => return e.expr
  | _, _ => return .tuple (items.map (·.expr))

/-- Reads the parameters of a named function, brackets included. -/
def parameters (read : FieldReader) (n : Nat) : Reader Parameters := do
  symbol .leftParen
  let style : ParamStyle :=
    ⟨true, exprOf (test read n), exprOf (starTest read n), .symbol .rightParen⟩
  let params ← style.list n
  symbol .rightParen
  params.checkNames fun t => t == .symbol .colon || t == .symbol .arrow
  return params.node

/-! ## Compound statements -/

/-- Does the token begin a statement with a block? -/
def startsCompound : Token → Bool
  | .keyword k =>
    match k with
    | .match_ | .if_ | .while_ | .for_ | .try_ | .with_ | .def_ | .class_ | .async_ => true
    | _ => false
  | .symbol s => s == .at_
  | _ => false

/-- The statement for a chain of conditions with their blocks: each further
condition stands alone in the block taken when the ones before it fail. -/
def branchChain (orelse : List Stmt) : List (Expr × List Stmt) → List Stmt
  | [] => orelse
  | (condition, body) :: rest => [.branch condition body (branchChain orelse rest)]

/-- Reads a condition. -/
def conditionExpr (read : FieldReader) (n : Nat) : Reader Expr := do
  let e ← namedTest read n
  return e.expr

/-- Reads further conditions of an `if` statement with their blocks. -/
def elifTail (read : FieldReader) (block : Reader (List Stmt)) :
    Nat → List (Expr × List Stmt) → Reader (List (Expr × List Stmt))
  | 0, _ => unexpected
  | n + 1, branches => do
    if ← accept (.keyword .elif_) then
      let condition ← conditionExpr read n
      symbol .colon
      let body ← block
      elifTail read block n ((condition, body) :: branches)
    else return branches.reverse

/-- Reads the block after `else` or `finally`, if the keyword stands here. -/
def optionalBlock (word : Keyword) (block : Reader (List Stmt)) : Reader (List Stmt) := do
  if ← accept (.keyword word) then
    symbol .colon
    block
  else return []

/-- Reads one `except` clause, of a group if `isStar`. -/
def handler (read : FieldReader) (n : Nat) (block : Reader (List Stmt)) (isStar : Bool) :
    Reader Handler := do
  keyword .except_
  if isStar then symbol .star
  if ← acceptIf (!isStar) (.symbol .colon) then
    let body ← block
    return .mk none none body
  else
    let type ← exprOf (test read n)
    let name ← if ← accept (.keyword .as_) then some <$> identifier else Pure.pure none
    symbol .colon
    let body ← block
    return .mk (some type) name body

/-- Reads one case of a `match` statement. -/
def matchCase (read : FieldReader) (n : Nat) (block : Reader (List Stmt)) : Reader MatchCase := do
  keyword .case_
  let p ← casePattern read n
  let guard ←
    if ← accept (.keyword .if_) then
      let e ← namedTest read n
      Pure.pure (some e.expr)
    else Pure.pure none
  symbol .colon
  let body ← block
  return .mk p guard body

/-- Reads one decorator with its line. -/
def decorator (read : FieldReader) (n : Nat) : Reader Expr := do
  symbol .at_
  let e ← namedTest read n
  expect .newline
  return e.expr

/-- Reads a `for` statement, with or without `async` before it. -/
def forStmt (read : FieldReader) (n : Nat) (block : Reader (List Stmt)) (isAsync : Bool) :
    Reader Stmt := do
  keyword .for_
  let bound ← targetList read n
  keyword .in_
  let iter ← testList read n
  symbol .colon
  let body ← block
  let orelse ← optionalBlock .else_ block
  return .forLoop isAsync bound.expr iter.expr body orelse

/-- Reads a `with` statement, with or without `async` before it. -/
def withStmt (read : FieldReader) (n : Nat) (block : Reader (List Stmt)) (isAsync : Bool) :
    Reader Stmt := do
  keyword .with_
  let items ← withItems read n
  symbol .colon
  let body ← block
  return .withBlock isAsync items body

/-- Reads the definition of a function, with or without `async` before it. -/
def functionDef (read : FieldReader) (n : Nat) (block : Reader (List Stmt)) (isAsync : Bool)
    (decorators : List Expr) : Reader Stmt := do
  keyword .def_
  let word ← identifier
  let types ← typeParams read n
  let params ← parameters read n
  let returns ←
    if ← accept (.symbol .arrow) then some <$> exprOf (test read n) else Pure.pure none
  symbol .colon
  let body ← block
  return .functionDef isAsync word types params returns decorators body

/-- Reads the definition of a class. -/
def classDef (read : FieldReader) (n : Nat) (block : Reader (List Stmt))
    (decorators : List Expr) : Reader Stmt := do
  keyword .class_
  let word ← identifier
  let types ← typeParams read n
  let args ←
    if ← accept (.symbol .leftParen) then
      let args ← argumentList (argument read n) n
      symbol .rightParen
      Pure.pure args
    else Pure.pure []
  symbol .colon
  let body ← block
  return .classDef word types (positionalArgs args) (keywordArgs args) decorators body

/-- Reads a `try` statement. -/
def tryStmt (read : FieldReader) (n : Nat) (block : Reader (List Stmt)) : Reader Stmt := do
  keyword .try_
  symbol .colon
  let body ← block
  if ← accept (.keyword .finally_) then
    symbol .colon
    let finalbody ← block
    return .guarded false body [] [] finalbody
  else
    let isStar := (← peekSecond) == some (.symbol .star)
    let first ← handler read n block isStar
    let handlers ← many (handler read n block isStar) (· == .keyword .except_) n [first]
    let orelse ← optionalBlock .else_ block
    let finalbody ← optionalBlock .finally_ block
    return .guarded isStar body handlers orelse finalbody

/-- Reads a `match` statement. -/
def matchStmt (read : FieldReader) (n : Nat) (block : Reader (List Stmt)) : Reader Stmt := do
  keyword .match_
  let subject ← matchSubject read n
  symbol .colon
  expect .newline
  indentation
  let first ← matchCase read n block
  let cases ← many (matchCase read n block) (· == .keyword .case_) n [first]
  expect .dedent
  return .choice subject cases

/-- Reads a statement with a block, given how blocks are read. -/
def compound (read : FieldReader) (n : Nat) (block : Reader (List Stmt)) : Reader Stmt := do
  match ← peek with
  | some (.keyword .if_) =>
    advance
    let condition ← conditionExpr read n
    symbol .colon
    let body ← block
    let branches ← elifTail read block n [(condition, body)]
    let orelse ← optionalBlock .else_ block
    match branchChain orelse branches with
    | s :: _ => return s
    | [] => unexpected
  | some (.keyword .while_) =>
    advance
    let condition ← conditionExpr read n
    symbol .colon
    let body ← block
    let orelse ← optionalBlock .else_ block
    return .whileLoop condition body orelse
  | some (.keyword .for_) => forStmt read n block false
  | some (.keyword .with_) => withStmt read n block false
  | some (.keyword .try_) => tryStmt read n block
  | some (.keyword .match_) => matchStmt read n block
  | some (.keyword .def_) => functionDef read n block false []
  | some (.keyword .class_) => classDef read n block []
  | some (.keyword .async_) =>
    advance
    match ← peek with
    | some (.keyword .def_) => functionDef read n block true []
    | some (.keyword .for_) => forStmt read n block true
    | some (.keyword .with_) => withStmt read n block true
    | _ => unexpected
  | some (.symbol .at_) =>
    let decorators ← many (decorator read n) (· == .symbol .at_) n []
    match ← peek with
    | some (.keyword .def_) => functionDef read n block false decorators
    | some (.keyword .class_) => classDef read n block decorators
    | some (.keyword .async_) =>
      advance
      functionDef read n block true decorators
    | _ => unexpected
  | _ => unexpected

/-- Reads the statements of an indented block up to its end; they come reversed. -/
def blockTail (small : Reader (List Stmt)) (compound : Reader Stmt) :
    Nat → List Stmt → Reader (List Stmt)
  | 0, _ => unexpected
  | n + 1, stmts => do
    match ← peek with
    | some t =>
      if startsCompound t then
        let s ← compound
        blockTail small compound n (s :: stmts)
      else if startsSmall t then
        let new ← small
        blockTail small compound n (new.reverse ++ stmts)
      else if t == .dedent && !stmts.isEmpty then
        advance
        return stmts.reverse
      else unexpected
    | none => unexpected

/-- Reads a block: small statements on the same line, or an indented block of
statements on the lines after. -/
def block (read : FieldReader) : Nat → Reader (List Stmt)
  | 0 => unexpected
  | n + 1 => do
    if ← accept .newline then
      indentation
      blockTail (smallLine read n []) (compound read n (block read n)) n []
    else smallLine read n []

/-- Reads the statements of a whole script; they come reversed. -/
def scriptTail (read : FieldReader) : Nat → List Stmt → Reader (List Stmt)
  | 0, _ => unexpected
  | n + 1, stmts => do
    match ← peek with
    | none => return stmts.reverse
    | some t =>
      if t == .newline then
        advance
        scriptTail read n stmts
      else if startsCompound t then
        let s ← compound read n (block read n)
        scriptTail read n (s :: stmts)
      else if startsSmall t then
        let new ← smallLine read n []
        scriptTail read n (new.reverse ++ stmts)
      else unexpected

/-- Reads a script. -/
def readScript (text : List Char) : Except ScriptError (List Stmt) :=
  let stream := lex text 0
  let n := fuelFor stream.tokens
  let read := readField (text.length + 1)
  match scriptTail read n [] { stream with tokens := decideSoft true stream.tokens } with
  | .ok (stmts, _) => .ok stmts
  | .error e => .error e.error

end SceneRender.Script
