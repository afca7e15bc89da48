import SceneRender.Script.Lexer

/-!
# Soft keywords

`match`, `case` and `type` are keywords only at the beginning of a logical line
that is built from them; anywhere else they are names.  The line decides: for
`match` and `case`, a colon outside brackets that follows at least one other
token and does not belong to a `lambda`; for `type`, a name and then an equals
sign with nothing but brackets between.
-/

namespace SceneRender.Script

/-- The change that a token makes to the number of open brackets. -/
def bracketStep (t : Token) (nesting : Int) : Int :=
  match t with
  | .symbol .leftParen | .symbol .leftBracket | .symbol .leftBrace => nesting + 1
  | .symbol .rightParen | .symbol .rightBracket | .symbol .rightBrace => nesting - 1
  | _ => nesting

/-- Does the rest of a line that may begin with `match` or `case` hold the colon
that makes it one? -/
def hasBlockColon (nesting : Int) (first lambda : Bool) : List Located → Bool
  | [] => false
  | t :: rest =>
    match t.token with
    | .newline => false
    | .keyword .lambda_ => hasBlockColon nesting false (lambda || nesting == 0) rest
    | .symbol .colon =>
      if nesting == 0 then
        if lambda then hasBlockColon nesting false false rest
        else !first || hasBlockColon nesting false false rest
      else hasBlockColon nesting false lambda rest
    | token => hasBlockColon (bracketStep token nesting) false lambda rest

/-- After the name in a line that may begin with `type`: is there an equals sign
with nothing but square brackets before it? -/
def reachesEqual (nesting : Int) : List Located → Bool
  | [] => false
  | t :: rest =>
    match t.token with
    | .newline => false
    | .symbol .equal => nesting == 0 || reachesEqual nesting rest
    | .symbol .leftBracket => reachesEqual (nesting + 1) rest
    | .symbol .rightBracket => reachesEqual (nesting - 1) rest
    | _ => nesting > 0 && reachesEqual nesting rest

/-- Does the rest of a line that begins with `type` make it a type alias? -/
def isTypeAlias : List Located → Bool
  | [] => false
  | t :: rest =>
    match t.token with
    | .name _ | .keyword .type_ | .keyword .match_ | .keyword .case_ => reachesEqual 0 rest
    | _ => false

/-- Decides every soft keyword of a token list, of which `lineStart` says whether
it begins a logical line. -/
def decideSoft (lineStart : Bool) : List Located → List Located
  | [] => []
  | t :: rest =>
    let token :=
      match t.token with
      | .keyword .match_ =>
        if lineStart && hasBlockColon 0 true false rest then t.token else .name "match"
      | .keyword .case_ =>
        if lineStart && hasBlockColon 0 true false rest then t.token else .name "case"
      | .keyword .type_ => if lineStart && isTypeAlias rest then t.token else .name "type"
      | token => token
    let next := token == .newline || token == .indent || token == .dedent
    { t with token } :: decideSoft next rest

end SceneRender.Script
