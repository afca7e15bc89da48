import SceneRender.Script.Tree

/-!
# Walking a tree

A walk passes every statement and every expression that a script evaluates to a
visitor, a node before the nodes inside it and siblings in a fixed order.
Patterns are passed over, although a formatted text in one may hold a call; so
are type parameters and type aliases.  What the visitor has seen so far is threaded
through the walk.
-/

namespace SceneRender.Script

/-- What is done with each node; `σ` is what is known so far. -/
structure Visitor (σ : Type) where
  stmt : σ → Stmt → σ
  expr : σ → Expr → σ

mutual

/-- Walks an expression. -/
def walkExpr {σ : Type} (v : Visitor σ) (s : σ) : Expr → σ
  | e@(.boolOp _ values) => walkExprs v (v.expr s e) values
  | e@(.named target value) => walkExpr v (walkExpr v (v.expr s e) target) value
  | e@(.binary left _ right) => walkExpr v (walkExpr v (v.expr s e) left) right
  | e@(.unary _ operand) => walkExpr v (v.expr s e) operand
  | e@(.lambda params body) => walkExpr v (walkParameters v (v.expr s e) params) body
  | e@(.ifElse test body orelse) =>
    walkExpr v (walkExpr v (walkExpr v (v.expr s e) test) body) orelse
  | e@(.dict keys values) => walkExprs v (walkKeys v (v.expr s e) keys) values
  | e@(.set elements) => walkExprs v (v.expr s e) elements
  | e@(.listComp element clauses) => walkClauses v (walkExpr v (v.expr s e) element) clauses
  | e@(.setComp element clauses) => walkClauses v (walkExpr v (v.expr s e) element) clauses
  | e@(.dictComp key value clauses) =>
    walkClauses v (walkExpr v (walkExpr v (v.expr s e) key) value) clauses
  | e@(.generator element clauses) => walkClauses v (walkExpr v (v.expr s e) element) clauses
  | e@(.await value) => walkExpr v (v.expr s e) value
  | e@(.yield value) => walkOption v (v.expr s e) value
  | e@(.yieldFrom value) => walkExpr v (v.expr s e) value
  | e@(.compare left _ comparators) => walkExprs v (walkExpr v (v.expr s e) left) comparators
  | e@(.call _ func args keywords) =>
    walkKeywords v (walkExprs v (walkExpr v (v.expr s e) func) args) keywords
  | e@(.formatted value _ spec) => walkOption v (walkExpr v (v.expr s e) value) spec
  | e@(.joined values) => walkExprs v (v.expr s e) values
  | e@(.constant _) => v.expr s e
  | e@(.attribute value _) => walkExpr v (v.expr s e) value
  | e@(.subscript value index) => walkExpr v (walkExpr v (v.expr s e) value) index
  | e@(.starred value) => walkExpr v (v.expr s e) value
  | e@(.name _) => v.expr s e
  | e@(.list elements) => walkExprs v (v.expr s e) elements
  | e@(.tuple elements) => walkExprs v (v.expr s e) elements
  | e@(.slice lower upper step) =>
    walkOption v (walkOption v (walkOption v (v.expr s e) lower) upper) step

/-- Walks expressions in order. -/
def walkExprs {σ : Type} (v : Visitor σ) (s : σ) : List Expr → σ
  | [] => s
  | e :: rest => walkExprs v (walkExpr v s e) rest

/-- Walks an expression if there is one. -/
def walkOption {σ : Type} (v : Visitor σ) (s : σ) : Option Expr → σ
  | none => s
  | some e => walkExpr v s e

/-- Walks the keys of a dictionary; an unpacked mapping has none. -/
def walkKeys {σ : Type} (v : Visitor σ) (s : σ) : List (Option Expr) → σ
  | [] => s
  | key :: rest => walkKeys v (walkOption v s key) rest

/-- Walks keyword arguments. -/
def walkKeywords {σ : Type} (v : Visitor σ) (s : σ) : List KeywordArg → σ
  | [] => s
  | .mk _ value :: rest => walkKeywords v (walkExpr v s value) rest

/-- Walks the clauses of a comprehension. -/
def walkClauses {σ : Type} (v : Visitor σ) (s : σ) : List Comprehension → σ
  | [] => s
  | .mk _ target iter conditions :: rest =>
    walkClauses v (walkExprs v (walkExpr v (walkExpr v s target) iter) conditions) rest

/-- Walks parameters: those with defaults in order, then the two that take the
rest. -/
def walkParameters {σ : Type} (v : Visitor σ) (s : σ) : Parameters → σ
  | .mk positionalOnly positional rest keywordOnly keywordRest =>
    let s := walkParams v s positionalOnly
    let s := walkParams v s positional
    let s := walkParams v s keywordOnly
    walkRest v (walkRest v s rest) keywordRest

/-- Walks parameters in order. -/
def walkParams {σ : Type} (v : Visitor σ) (s : σ) : List Parameter → σ
  | [] => s
  | .mk _ typing default :: rest =>
    walkParams v (walkOption v (walkOption v s typing) default) rest

/-- Walks the typing of a parameter that takes the rest, if there is one. -/
def walkRest {σ : Type} (v : Visitor σ) (s : σ) : Option RestParameter → σ
  | none => s
  | some (.mk _ typing) => walkOption v s typing

end

/-- Walks the items of a `with` statement. -/
def walkItems {σ : Type} (v : Visitor σ) (s : σ) (items : List WithItem) : σ :=
  items.foldl (fun s item => walkOption v (walkExpr v s item.context) item.target) s

mutual

/-- Walks a statement. -/
def walkStmt {σ : Type} (v : Visitor σ) (s : σ) : Stmt → σ
  | t@(.functionDef _ _ _ params returns decorators body) =>
    let s := walkExprs v (v.stmt s t) decorators
    walkBody v (walkOption v (walkParameters v s params) returns) body
  | t@(.classDef _ _ bases keywords decorators body) =>
    let s := walkExprs v (v.stmt s t) decorators
    walkBody v (walkKeywords v (walkExprs v s bases) keywords) body
  | t@(.ret value) => walkOption v (v.stmt s t) value
  | t@(.delete targets) => walkExprs v (v.stmt s t) targets
  | t@(.assign targets value) => walkExpr v (walkExprs v (v.stmt s t) targets) value
  | t@(.typeAlias _ _ _) => v.stmt s t
  | t@(.augAssign target _ value) => walkExpr v (walkExpr v (v.stmt s t) target) value
  | t@(.annAssign target typing value) =>
    walkOption v (walkExpr v (walkExpr v (v.stmt s t) target) typing) value
  | t@(.forLoop _ target iter body orelse) =>
    walkBody v (walkBody v (walkExpr v (walkExpr v (v.stmt s t) target) iter) body) orelse
  | t@(.whileLoop test body orelse) =>
    walkBody v (walkBody v (walkExpr v (v.stmt s t) test) body) orelse
  | t@(.branch test body orelse) =>
    walkBody v (walkBody v (walkExpr v (v.stmt s t) test) body) orelse
  | t@(.withBlock _ items body) => walkBody v (walkItems v (v.stmt s t) items) body
  | t@(.choice subject cases) => walkCases v (walkExpr v (v.stmt s t) subject) cases
  | t@(.raise exception cause) => walkOption v (walkOption v (v.stmt s t) exception) cause
  | t@(.guarded _ body handlers orelse finalbody) =>
    let s := walkHandlers v (walkBody v (v.stmt s t) body) handlers
    walkBody v (walkBody v s orelse) finalbody
  | t@(.assert test message) => walkOption v (walkExpr v (v.stmt s t) test) message
  | t@(.importNames _) => v.stmt s t
  | t@(.importFrom _ _ _) => v.stmt s t
  | t@(.global _) => v.stmt s t
  | t@(.nonlocal _) => v.stmt s t
  | t@(.expr value) => walkExpr v (v.stmt s t) value
  | t@.pass => v.stmt s t
  | t@.breakLoop => v.stmt s t
  | t@.continueLoop => v.stmt s t

/-- Walks statements in order. -/
def walkBody {σ : Type} (v : Visitor σ) (s : σ) : List Stmt → σ
  | [] => s
  | t :: rest => walkBody v (walkStmt v s t) rest

/-- Walks `except` clauses. -/
def walkHandlers {σ : Type} (v : Visitor σ) (s : σ) : List Handler → σ
  | [] => s
  | .mk type _ body :: rest => walkHandlers v (walkBody v (walkOption v s type) body) rest

/-- Walks the guards and blocks of a `match` statement. -/
def walkCases {σ : Type} (v : Visitor σ) (s : σ) : List MatchCase → σ
  | [] => s
  | .mk _ guard body :: rest => walkCases v (walkBody v (walkOption v s guard) body) rest

end

end SceneRender.Script
