import SceneRender.Text.Decimal

/-!
# The syntax tree

What a script says, as a tree.  Three layers: expressions, with the parameters,
keyword arguments and comprehension clauses they own; the patterns of `match`;
and statements.  Of the places in the text only the start of a call is kept,
because only calls are reported by line.
-/

namespace SceneRender.Script

open SceneRender.Text

/-- A literal value. -/
inductive Constant where
  | none
  | bool (value : Bool)
  | ellipsis
  | int (value : Nat)
  | float (value : Option Binary)
  | imaginary (value : Option Binary)
  | text (value : String)
  | bytes (value : String)
  deriving DecidableEq, Repr

/-- Operators that stay lazy in their second operand. -/
inductive BoolOp where
  | and | or
  deriving DecidableEq, Repr

/-- Operators of two operands. -/
inductive BinaryOp where
  | bitOr | bitXor | bitAnd | shiftLeft | shiftRight | add | sub | mul | div | floorDiv | mod
  | matMul | pow
  deriving DecidableEq, Repr

/-- Operators of one operand. -/
inductive UnaryOp where
  | not | plus | minus | invert
  deriving DecidableEq, Repr

/-- Comparisons. -/
inductive CompareOp where
  | eq | notEq | lt | le | gt | ge | isSame | isNotSame | isIn | isNotIn
  deriving DecidableEq, Repr

/-- How a replacement field turns its value into text. -/
inductive Conversion where
  | none | text | repr | ascii
  deriving DecidableEq, Repr

mutual

/-- Expressions. -/
inductive Expr where
  | boolOp (op : BoolOp) (values : List Expr)
  | named (target value : Expr)
  | binary (left : Expr) (op : BinaryOp) (right : Expr)
  | unary (op : UnaryOp) (operand : Expr)
  | lambda (params : Parameters) (body : Expr)
  | ifElse (test body orelse : Expr)
  | dict (keys : List (Option Expr)) (values : List Expr)
  | set (elements : List Expr)
  | listComp (element : Expr) (clauses : List Comprehension)
  | setComp (element : Expr) (clauses : List Comprehension)
  | dictComp (key value : Expr) (clauses : List Comprehension)
  | generator (element : Expr) (clauses : List Comprehension)
  | await (value : Expr)
  | yield (value : Option Expr)
  | yieldFrom (value : Expr)
  | compare (left : Expr) (ops : List CompareOp) (comparators : List Expr)
  | call (start : Nat) (func : Expr) (args : List Expr) (keywords : List KeywordArg)
  | formatted (value : Expr) (conversion : Conversion) (spec : Option Expr)
  | joined (values : List Expr)
  | constant (value : Constant)
  | attribute (value : Expr) (name : String)
  | subscript (value index : Expr)
  | starred (value : Expr)
  | name (id : String)
  | list (elements : List Expr)
  | tuple (elements : List Expr)
  | slice (lower upper step : Option Expr)

/-- A keyword argument of a call, or a mapping unpacked into keyword arguments. -/
inductive KeywordArg where
  | mk (name : Option String) (value : Expr)

/-- One `for` clause of a comprehension with its conditions. -/
inductive Comprehension where
  | mk (isAsync : Bool) (target iter : Expr) (conditions : List Expr)

/-- The parameters of a function. -/
inductive Parameters where
  | mk (positionalOnly positional : List Parameter) (rest : Option RestParameter)
    (keywordOnly : List Parameter) (keywordRest : Option RestParameter)

/-- A parameter with its typing and its default. -/
inductive Parameter where
  | mk (name : String) (typing default : Option Expr)

/-- A parameter that takes the rest, with its typing.  It has no default. -/
inductive RestParameter where
  | mk (name : String) (typing : Option Expr)

end

instance : Inhabited Expr := ⟨.constant .none⟩

/-- No parameters at all. -/
def Parameters.empty : Parameters := .mk [] [] none [] none

/-- Patterns of a `match` statement. -/
inductive Pattern where
  | value (value : Expr)
  | singleton (value : Constant)
  | sequence (patterns : List Pattern)
  | mapping (keys : List Expr) (patterns : List Pattern) (rest : Option String)
  | object (cls : Expr) (patterns : List Pattern) (keywords : List (String × Pattern))
  | star (name : Option String)
  | capture (pattern : Option Pattern) (name : Option String)
  | or (patterns : List Pattern)

/-- A type parameter of a function, class or type alias. -/
inductive TypeParam where
  | variable (name : String) (bound : Option Expr)
  | variadic (name : String)
  | keywords (name : String)

/-- A name brought in by an import, with the name it is bound to. -/
structure Alias where
  name : String
  asName : Option String
  deriving DecidableEq, Repr

/-- One item of a `with` statement. -/
structure WithItem where
  context : Expr
  target : Option Expr

mutual

/-- Statements. -/
inductive Stmt where
  | functionDef (isAsync : Bool) (name : String) (typeParams : List TypeParam)
    (params : Parameters) (returns : Option Expr) (decorators : List Expr) (body : List Stmt)
  | classDef (name : String) (typeParams : List TypeParam) (bases : List Expr)
    (keywords : List KeywordArg) (decorators : List Expr) (body : List Stmt)
  | ret (value : Option Expr)
  | delete (targets : List Expr)
  | assign (targets : List Expr) (value : Expr)
  | typeAlias (name : String) (typeParams : List TypeParam) (value : Expr)
  | augAssign (target : Expr) (op : BinaryOp) (value : Expr)
  | annAssign (target typing : Expr) (value : Option Expr)
  | forLoop (isAsync : Bool) (target iter : Expr) (body orelse : List Stmt)
  | whileLoop (test : Expr) (body orelse : List Stmt)
  | branch (test : Expr) (body orelse : List Stmt)
  | withBlock (isAsync : Bool) (items : List WithItem) (body : List Stmt)
  | choice (subject : Expr) (cases : List MatchCase)
  | raise (exception cause : Option Expr)
  | guarded (isStar : Bool) (body : List Stmt) (handlers : List Handler)
    (orelse finalbody : List Stmt)
  | assert (test : Expr) (message : Option Expr)
  | importNames (names : List Alias)
  | importFrom (module : Option String) (names : List Alias) (level : Nat)
  | global (names : List String)
  | nonlocal (names : List String)
  | expr (value : Expr)
  | pass
  | breakLoop
  | continueLoop

/-- One `except` clause. -/
inductive Handler where
  | mk (type : Option Expr) (name : Option String) (body : List Stmt)

/-- One `case` of a `match` statement. -/
inductive MatchCase where
  | mk (pattern : Pattern) (guard : Option Expr) (body : List Stmt)

end

instance : Inhabited Stmt := ⟨.pass⟩

end SceneRender.Script
