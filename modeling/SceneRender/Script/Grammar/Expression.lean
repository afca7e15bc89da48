import SceneRender.Script.Grammar.Argument
import SceneRender.Script.StringLiteral
import SceneRender.Script.SoftKeyword

/-!
# Expressions

The grammar of expressions, by recursive descent.  Every reader is given `fuel`,
which bounds the depth of its calls; a caller supplies more than any stream of
that length can use.  Replacement fields of strings are read by a reader handed
in, so that the grammar does not depend on how deep strings nest.
-/

namespace SceneRender.Script

open Reader

/-- An expression and the offset where its node starts.  A bracketed expression
is its contents and starts with them. -/
structure Placed where
  start : Nat
  expr : Expr

/-- The form in which an element of a list is written, which decides what may
follow it. -/
inductive ElementForm where
  | plain | named | starred
  deriving DecidableEq

/-- An element of a list. -/
structure Element where
  start : Nat
  expr : Expr
  form : ElementForm

/-- Only the expression that a reader yields. -/
def exprOf (r : Reader Placed) : Reader Expr := fun s =>
  match r s with
  | .ok (p, s') => .ok (p.expr, s')
  | .error e => .error e

/-! ## What may stand where -/

/-- May an expression begin with the token? -/
def startsTest : Token → Bool
  | .name _ | .int _ | .float _ | .imaginary _ | .string .. => true
  | .keyword k =>
    match k with
    | .not_ | .lambda_ | .await_ | .none_ | .true_ | .false_ => true
    | _ => false
  | .symbol s =>
    match s with
    | .leftParen | .leftBracket | .leftBrace | .plus | .minus | .tilde | .ellipsis => true
    | _ => false
  | _ => false

/-- May an expression or a starred one begin with the token? -/
def startsElement (t : Token) : Bool :=
  startsTest t || t == .symbol .star

/-- May an argument of a call begin with the token? -/
def startsArgument (t : Token) : Bool :=
  startsElement t || t == .symbol .power

/-- May an entry of a dictionary begin with the token? -/
def startsEntry (t : Token) : Bool :=
  startsTest t || t == .symbol .power

/-- May an index begin with the token? -/
def startsIndex (t : Token) : Bool :=
  startsElement t || t == .symbol .colon

/-- Does a clause of a comprehension begin with the token? -/
def startsClause (t : Token) : Bool :=
  t == .keyword .for_ || t == .keyword .async_

/-- May the token follow a string or a bracket in some script?  The value of a string
and the contents of a bracket are looked at only if it may. -/
def followsAtom : Token → Bool
  | .newline => true
  | .keyword k =>
    match k with
    | .and_ | .or_ | .not_ | .in_ | .is_ | .if_ | .else_ | .for_ | .async_ | .as_ | .from_ => true
    | _ => false
  | .symbol s =>
    match s with
    | .leftBrace | .tilde | .arrow | .walrus | .ellipsis => false
    | _ => true
  | _ => false

/-- May the token follow an expression in some script? -/
def followsTest : Token → Bool
  | .newline => true
  | .keyword k =>
    match k with
    | .for_ | .async_ | .as_ | .from_ => true
    | _ => false
  | .symbol s =>
    match s with
    | .rightParen | .rightBracket | .rightBrace | .comma | .colon | .semicolon | .equal
    | .plusEqual | .minusEqual | .starEqual | .slashEqual | .percentEqual | .atEqual
    | .amperEqual | .barEqual | .caretEqual | .shiftLeftEqual | .shiftRightEqual | .powerEqual
    | .doubleSlashEqual => true
    | _ => false
  | _ => false

/-! ## Strings -/

/-- Takes the adjacent string tokens from a token list. -/
def splitStrings : List Located → List StringPart × List Located
  | [] => ([], [])
  | t :: rest =>
    match t.token with
    | .string body kind triple =>
      let (parts, rest') := splitStrings rest
      (⟨body.toList, kind, triple, t.start⟩ :: parts, rest')
    | _ => ([], t :: rest)

/-- Reads adjacent strings and joins their values. -/
def strings (read : FieldReader) (follows : Token → Bool) : Reader Expr := fun s =>
  let (parts, rest) := splitStrings s.tokens
  let after : Reader Expr :=
    match joinLiterals read parts with
    | .ok e => return e
    | .error e => rejectBefore follows e.fault e.offset
  after { s with tokens := rest }

/-! ## Operators -/

/-- The binary operator a token stands for, with its precedence. -/
def binaryOperator? : Token → Option (BinaryOp × Nat)
  | .symbol s =>
    match s with
    | .bar => some (.bitOr, 1)
    | .caret => some (.bitXor, 2)
    | .amper => some (.bitAnd, 3)
    | .shiftLeft => some (.shiftLeft, 4)
    | .shiftRight => some (.shiftRight, 4)
    | .plus => some (.add, 5)
    | .minus => some (.sub, 5)
    | .star => some (.mul, 6)
    | .slash => some (.div, 6)
    | .doubleSlash => some (.floorDiv, 6)
    | .percent => some (.mod, 6)
    | .at_ => some (.matMul, 6)
    | _ => none
  | _ => none

/-- Reads operators of at least the given precedence with their right operands,
which are read one level above the operator. -/
def binaryTail (operand : Nat → Reader Expr) (level start : Nat) : Nat → Placed → Reader Placed
  | 0, _ => unexpected
  | n + 1, left => do
    match (← peek).bind binaryOperator? with
    | some (op, precedence) =>
      if precedence < level then return left
      else
        advance
        let right ← operand (precedence + 1)
        binaryTail operand level start n ⟨start, .binary left.expr op right⟩
    | none => return left

/-- The comparison that a symbol stands for. -/
def comparison? : Token → Option CompareOp
  | .symbol s =>
    match s with
    | .equalEqual => some .eq
    | .notEqual => some .notEq
    | .less => some .lt
    | .lessEqual => some .le
    | .greater => some .gt
    | .greaterEqual => some .ge
    | _ => none
  | _ => none

/-- Reads a comparison if one stands here; two of them take two words. -/
def compareOperator : Reader (Option CompareOp) := do
  match ← peek with
  | some (.keyword .in_) =>
    advance
    return some .isIn
  | some (.keyword .not_) =>
    advance
    keyword .in_
    return some .isNotIn
  | some (.keyword .is_) =>
    advance
    return some (if ← accept (.keyword .not_) then .isNotSame else .isSame)
  | some t =>
    match comparison? t with
    | some op =>
      advance
      return some op
    | none => return none
  | none => return none

/-- Reads comparisons with their right operands. -/
def compareTail (operand : Reader Expr) :
    Nat → List CompareOp → List Expr → Reader (List CompareOp × List Expr)
  | 0, _, _ => unexpected
  | n + 1, ops, operands => do
    match ← compareOperator with
    | some op =>
      let e ← operand
      compareTail operand n (op :: ops) (e :: operands)
    | none => return (ops.reverse, operands.reverse)

/-- Reads what may follow an atom any number of times: the arguments of a call, an
index, an attribute. -/
def trailers (arguments : Reader (List Argument)) (index : Reader Expr) (start : Nat) :
    Nat → Placed → Reader Placed
  | 0, _ => unexpected
  | n + 1, e => do
    match ← peek with
    | some (.symbol .leftParen) =>
      advance
      let args ← arguments
      symbol .rightParen
      trailers arguments index start n
        ⟨start, .call start e.expr (positionalArgs args) (keywordArgs args)⟩
    | some (.symbol .leftBracket) =>
      advance
      let i ← index
      symbol .rightBracket
      trailers arguments index start n ⟨start, .subscript e.expr i⟩
    | some (.symbol .dot) =>
      advance
      let word ← identifier
      trailers arguments index start n ⟨start, .attribute e.expr word⟩
    | _ => return e

/-- Reads the arguments of a call up to the closing bracket, and checks their
order. -/
def argumentList (argument : Reader Argument) (n : Nat) : Reader (List Argument) := do
  if ← at? (.symbol .rightParen) then return []
  let first ← argument
  let (args, _) ← commaTail argument startsArgument n [first]
  if !(← at? (.symbol .rightParen)) then unexpected
  else
    match firstArgumentFault? [] args with
    | some (fault, start) => reject fault start
    | none => return args

/-- A list of elements: one alone is itself, more, or a comma, make a tuple. -/
def tupleOf (start : Nat) (items : List Placed) (trailing : Bool) : Placed :=
  match items, trailing with
  | [e], false => e
  | _, _ => ⟨start, .tuple (items.map (·.expr))⟩

/-- Reads a literal that is one token. -/
def literal? : Token → Option Constant
  | .int n => some (.int n)
  | .float v => some (.float v)
  | .imaginary v => some (.imaginary v)
  | .keyword .none_ => some .none
  | .keyword .true_ => some (.bool true)
  | .keyword .false_ => some (.bool false)
  | .symbol .ellipsis => some .ellipsis
  | _ => none

/-! ## The grammar -/

mutual

/-- A conditional expression, a function without a name, or anything that binds
tighter. -/
def test (read : FieldReader) : Nat → Reader Placed
  | 0 => unexpected
  | n + 1 => do
    let start ← offset
    if ← accept (.keyword .lambda_) then
      let value := exprOf (test read n)
      let params ← ParamStyle.list ⟨false, value, value, .symbol .colon⟩ n
      symbol .colon
      let body ← test read n
      params.checkNames followsTest
      return ⟨start, .lambda params.node body.expr⟩
    else
      let body ← disjunction read n
      if ← accept (.keyword .if_) then
        let condition ← disjunction read n
        keyword .else_
        let orelse ← test read n
        return ⟨start, .ifElse condition.expr body.expr orelse.expr⟩
      else return body

/-- Operands joined by `or`. -/
def disjunction (read : FieldReader) : Nat → Reader Placed
  | 0 => unexpected
  | n + 1 => do
    let start ← offset
    let first ← conjunction read n
    if ← at? (.keyword .or_) then
      let values ← chainTail (exprOf (conjunction read n)) (.keyword .or_) n [first.expr]
      return ⟨start, .boolOp .or values⟩
    else return first

/-- Operands joined by `and`. -/
def conjunction (read : FieldReader) : Nat → Reader Placed
  | 0 => unexpected
  | n + 1 => do
    let start ← offset
    let first ← negation read n
    if ← at? (.keyword .and_) then
      let values ← chainTail (exprOf (negation read n)) (.keyword .and_) n [first.expr]
      return ⟨start, .boolOp .and values⟩
    else return first

/-- A comparison, or `not` before one. -/
def negation (read : FieldReader) : Nat → Reader Placed
  | 0 => unexpected
  | n + 1 => do
    let start ← offset
    if ← accept (.keyword .not_) then
      let operand ← negation read n
      return ⟨start, .unary .not operand.expr⟩
    else
      let left ← binary read n 1
      let (ops, operands) ← compareTail (exprOf (binary read n 1)) n [] []
      if ops.isEmpty then return left
      else return ⟨start, .compare left.expr ops operands⟩

/-- Operators of at least the given precedence. -/
def binary (read : FieldReader) : Nat → Nat → Reader Placed
  | 0, _ => unexpected
  | n + 1, level => do
    let start ← offset
    let left ← factor read n
    binaryTail (fun above => exprOf (binary read n above)) level start n left

/-- Signs before an operand. -/
def factor (read : FieldReader) : Nat → Reader Placed
  | 0 => unexpected
  | n + 1 => do
    let start ← offset
    let sign : Option UnaryOp :=
      match ← peek with
      | some (.symbol .plus) => some .plus
      | some (.symbol .minus) => some .minus
      | some (.symbol .tilde) => some .invert
      | _ => none
    match sign with
    | some op =>
      advance
      let operand ← factor read n
      return ⟨start, .unary op operand.expr⟩
    | none => power read n

/-- An operand and its exponent, which may be signed. -/
def power (read : FieldReader) : Nat → Reader Placed
  | 0 => unexpected
  | n + 1 => do
    let start ← offset
    let awaited ← accept (.keyword .await_)
    let inner ← offset
    let a ← atom read n
    let e ← trailers (argumentList (argument read n) n) (index read n) inner n a
    let base : Placed := if awaited then ⟨start, .await e.expr⟩ else e
    if ← accept (.symbol .power) then
      let exponent ← factor read n
      return ⟨start, .binary base.expr .pow exponent.expr⟩
    else return base

/-- A literal, a name or something in brackets. -/
def atom (read : FieldReader) : Nat → Reader Placed
  | 0 => unexpected
  | n + 1 => do
    let start ← offset
    match ← peek with
    | some (.name word) =>
      advance
      return ⟨start, .name word⟩
    | some (.string ..) =>
      let e ← strings read followsAtom
      return ⟨start, e⟩
    | some (.symbol .leftParen) =>
      advance
      group read n start
    | some (.symbol .leftBracket) =>
      advance
      bracketed read n start
    | some (.symbol .leftBrace) =>
      advance
      braced read n start
    | some t =>
      match literal? t with
      | some c =>
        advance
        return ⟨start, .constant c⟩
      | none => unexpected
    | none => unexpected

/-- What stands after an opening parenthesis. -/
def group (read : FieldReader) : Nat → Nat → Reader Placed
  | 0, _ => unexpected
  | n + 1, start => do
    let inner ← offset
    match ← peek with
    | some (.symbol .rightParen) =>
      advance
      return ⟨start, .tuple []⟩
    | some (.keyword .yield_) =>
      let e ← yieldExpr read n
      symbol .rightParen
      return e
    | some (.symbol .power) =>
      advance
      let _ ← binary read n 1
      symbol .rightParen
      rejectBefore followsAtom .doubleStarredHere inner
    | _ =>
      let first ← element read n
      if first.form != .starred && (← ahead startsClause) then
        let clauses ← many (clause read n) startsClause n []
        symbol .rightParen
        return ⟨start, .generator first.expr clauses⟩
      else
        let (items, trailing) ← commaTail (element read n) startsElement n [first]
        symbol .rightParen
        match items, trailing with
        | [e], false =>
          if e.form == .starred then rejectBefore followsAtom .starredHere e.start
          else return ⟨e.start, e.expr⟩
        | _, _ => return ⟨start, .tuple (items.map (·.expr))⟩

/-- What stands after an opening square bracket. -/
def bracketed (read : FieldReader) : Nat → Nat → Reader Placed
  | 0, _ => unexpected
  | n + 1, start => do
    if ← accept (.symbol .rightBracket) then return ⟨start, .list []⟩
    else
      let first ← element read n
      if ← ahead startsClause then
        let clauses ← many (clause read n) startsClause n []
        symbol .rightBracket
        return ⟨start, .listComp first.expr clauses⟩
      else
        let (items, _) ← commaTail (element read n) startsElement n [first]
        symbol .rightBracket
        return ⟨start, .list (items.map (·.expr))⟩

/-- What stands after an opening brace. -/
def braced (read : FieldReader) : Nat → Nat → Reader Placed
  | 0, _ => unexpected
  | n + 1, start => do
    if ← accept (.symbol .rightBrace) then return ⟨start, .dict [] []⟩
    else if ← at? (.symbol .power) then
      let first ← entry read n
      entries read n start first
    else
      let first ← element read n
      if ← acceptIf (first.form == .plain) (.symbol .colon) then
        let value ← test read n
        if ← ahead startsClause then
          let clauses ← many (clause read n) startsClause n []
          symbol .rightBrace
          return ⟨start, .dictComp first.expr value.expr clauses⟩
        else entries read n start (some first.expr, value.expr)
      else if first.form != .starred && (← ahead startsClause) then
        let clauses ← many (clause read n) startsClause n []
        symbol .rightBrace
        return ⟨start, .setComp first.expr clauses⟩
      else
        let (items, _) ← commaTail (element read n) startsElement n [first]
        symbol .rightBrace
        return ⟨start, .set (items.map (·.expr))⟩

/-- The entries of a dictionary after the first one, and its end. -/
def entries (read : FieldReader) : Nat → Nat → Option Expr × Expr → Reader Placed
  | 0, _, _ => unexpected
  | n + 1, start, first => do
    let (items, _) ← commaTail (entry read n) startsEntry n [first]
    symbol .rightBrace
    return ⟨start, .dict (items.map (·.1)) (items.map (·.2))⟩

/-- An entry of a dictionary: a key and a value, or another dictionary. -/
def entry (read : FieldReader) : Nat → Reader (Option Expr × Expr)
  | 0 => unexpected
  | n + 1 => do
    if ← accept (.symbol .power) then
      let e ← binary read n 1
      return (none, e.expr)
    else
      let key ← test read n
      symbol .colon
      let value ← test read n
      return (some key.expr, value.expr)

/-- An expression that may be bound to a name on the way. -/
def namedTest (read : FieldReader) : Nat → Reader Element
  | 0 => unexpected
  | n + 1 => do
    let start ← offset
    match ← peek, ← peekSecond with
    | some (.name word), some (.symbol .walrus) =>
      advance
      advance
      let value ← test read n
      return ⟨start, .named (.name word) value.expr, .named⟩
    | _, _ =>
      let e ← test read n
      return ⟨e.start, e.expr, .plain⟩

/-- An element that may be starred. -/
def element (read : FieldReader) : Nat → Reader Element
  | 0 => unexpected
  | n + 1 => do
    let start ← offset
    if ← accept (.symbol .star) then
      let e ← binary read n 1
      return ⟨start, .starred e.expr, .starred⟩
    else namedTest read n

/-- A clause of a comprehension. -/
def clause (read : FieldReader) : Nat → Reader Comprehension
  | 0 => unexpected
  | n + 1 => do
    let isAsync ← accept (.keyword .async_)
    keyword .for_
    let target ← targetList read n
    keyword .in_
    let iter ← disjunction read n
    let conditions ← many (condition read n) (· == .keyword .if_) n []
    return .mk isAsync target.expr iter.expr conditions

/-- A condition of a comprehension. -/
def condition (read : FieldReader) : Nat → Reader Expr
  | 0 => unexpected
  | n + 1 => do
    keyword .if_
    let e ← disjunction read n
    return e.expr

/-- An operand that may be starred. -/
def target (read : FieldReader) : Nat → Reader Placed
  | 0 => unexpected
  | n + 1 => do
    let start ← offset
    if ← accept (.symbol .star) then
      let e ← binary read n 1
      return ⟨start, .starred e.expr⟩
    else binary read n 1

/-- The targets of a loop. -/
def targetList (read : FieldReader) : Nat → Reader Placed
  | 0 => unexpected
  | n + 1 => do
    let start ← offset
    let first ← target read n
    let (items, trailing) ← commaTail (target read n) startsElement n [first]
    return tupleOf start items trailing

/-- An argument of a call. -/
def argument (read : FieldReader) : Nat → Reader Argument
  | 0 => unexpected
  | n + 1 => do
    let start ← offset
    match ← peek, ← peekSecond with
    | some (.symbol .star), _ =>
      advance
      let e ← test read n
      return .unpacked start e.expr
    | some (.symbol .power), _ =>
      advance
      let e ← test read n
      return .unpackedMapping start e.expr
    | some (.name word), some (.symbol .equal) =>
      advance
      advance
      let e ← test read n
      return .keyword start word e.expr
    | _, _ =>
      let e ← namedTest read n
      if ← ahead startsClause then
        let clauses ← many (clause read n) startsClause n []
        return .positional start (.generator e.expr clauses)
      else return .positional e.start e.expr

/-- What stands between the brackets of an index. -/
def index (read : FieldReader) : Nat → Reader Expr
  | 0 => unexpected
  | n + 1 => do
    let start ← offset
    let first ← subscript read n
    let (items, trailing) ← commaTail (subscript read n) startsIndex n [first]
    return (tupleOf start items trailing).expr

/-- One part of an index: an element, or a slice. -/
def subscript (read : FieldReader) : Nat → Reader Placed
  | 0 => unexpected
  | n + 1 => do
    let start ← offset
    if ← accept (.symbol .colon) then slice read n start none
    else
      let e ← element read n
      if ← acceptIf (e.form == .plain) (.symbol .colon) then slice read n start (some e.expr)
      else return ⟨e.start, e.expr⟩

/-- A slice after its first colon. -/
def slice (read : FieldReader) : Nat → Nat → Option Expr → Reader Placed
  | 0, _, _ => unexpected
  | n + 1, start, lower => do
    let upper ← optional (exprOf (test read n)) startsTest
    if ← accept (.symbol .colon) then
      let step ← optional (exprOf (test read n)) startsTest
      return ⟨start, .slice lower upper step⟩
    else return ⟨start, .slice lower upper none⟩

/-- A `yield`, with what it yields. -/
def yieldExpr (read : FieldReader) : Nat → Reader Placed
  | 0 => unexpected
  | n + 1 => do
    let start ← offset
    keyword .yield_
    if ← accept (.keyword .from_) then
      let e ← test read n
      return ⟨start, .yieldFrom e.expr⟩
    else
      let value ← optional (exprOf (testList read n)) startsElement
      return ⟨start, .yield value⟩

/-- An expression that may be starred. -/
def starTest (read : FieldReader) : Nat → Reader Placed
  | 0 => unexpected
  | n + 1 => do
    let start ← offset
    if ← accept (.symbol .star) then
      let e ← binary read n 1
      return ⟨start, .starred e.expr⟩
    else test read n

/-- Expressions with commas between them. -/
def testList (read : FieldReader) : Nat → Reader Placed
  | 0 => unexpected
  | n + 1 => do
    let start ← offset
    let first ← starTest read n
    let (items, trailing) ← commaTail (starTest read n) startsElement n [first]
    return tupleOf start items trailing

end

/-- More fuel than a reader can use on a token list: no reader calls more than
twenty others without a token being taken. -/
def fuelFor (tokens : List Located) : Nat := 32 * (tokens.length + 2)

/-- Reads a text that is one expression list and nothing else. -/
def readExpression (read : FieldReader) (text : List Char) (offset : Nat) :
    Except ScriptError Expr :=
  let stream := lex text offset
  let n := fuelFor stream.tokens
  let whole : Reader Expr := do
    let e ← testList read n
    let _ ← many advance (· == .newline) n []
    match ← peek with
    | none => return e.expr
    | some _ => unexpected
  -- soft keywords are names inside an expression
  match whole { stream with tokens := decideSoft false stream.tokens } with
  | .ok (e, _) => .ok e
  | .error e => .error e.error

/-- Reads the expression of a replacement field inside `depth` levels of strings,
as if it stood between parentheses. -/
def readField : Nat → FieldReader
  | 0, _, offset => .error ⟨.field .nestedTooDeeply, offset⟩
  | depth + 1, text, offset => readExpression (readField depth) ('(' :: text ++ [')']) (offset - 1)

end SceneRender.Script
