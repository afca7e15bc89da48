import SceneRender.Script.Grammar.Reader
import SceneRender.Script.Tree

/-!
# The order of arguments and parameters

What the grammar cannot say about the arguments of a call and the parameters of
a function: which kinds may follow which, and that no name is given twice.
-/

namespace SceneRender.Script

/-! ## Arguments -/

/-- An argument of a call as it is written, with its offset. -/
inductive Argument where
  | positional (start : Nat) (value : Expr)
  | unpacked (start : Nat) (value : Expr)
  | keyword (start : Nat) (name : String) (value : Expr)
  | unpackedMapping (start : Nat) (value : Expr)

/-- Has the list an argument with this keyword? -/
def hasKeyword (name : String) (args : List Argument) : Bool :=
  args.any fun
    | .keyword _ other _ => other == name
    | _ => false

/-- Is one of the arguments given by keyword, or an unpacked mapping? -/
def hasNamed (args : List Argument) : Bool :=
  args.any fun
    | .keyword .. | .unpackedMapping .. => true
    | _ => false

/-- Is one of the arguments an unpacked mapping? -/
def hasMapping (args : List Argument) : Bool :=
  args.any fun
    | .unpackedMapping .. => true
    | _ => false

/-- What is wrong with an argument after the ones before it, and where. -/
def Argument.fault? (before : List Argument) : Argument → Option (Fault × Nat)
  | positional start _ => if hasNamed before then some (.positionalOrder, start) else none
  | unpacked start _ => if hasMapping before then some (.unpackingOrder, start) else none
  | keyword start name _ =>
    if hasKeyword name before then some (.repeatedKeyword name, start) else none
  | unpackedMapping .. => none

/-- The first fault of a list of arguments; `before` holds the ones already
passed, in any order. -/
def firstArgumentFault? (before : List Argument) : List Argument → Option (Fault × Nat)
  | [] => none
  | a :: rest =>
    match a.fault? before with
    | some fault => some fault
    | none => firstArgumentFault? (a :: before) rest

/-- The arguments given by place. -/
def positionalArgs (args : List Argument) : List Expr :=
  args.filterMap fun
    | .positional _ value => some value
    | .unpacked _ value => some (.starred value)
    | _ => none

/-- The arguments given by keyword. -/
def keywordArgs (args : List Argument) : List KeywordArg :=
  args.filterMap fun
    | .keyword _ name value => some (.mk (some name) value)
    | .unpackedMapping _ value => some (.mk none value)
    | _ => none

/-! ## Parameters -/

/-- The name of a parameter as it is written, with its offset and its typing. -/
structure WrittenName where
  name : String
  start : Nat
  typing : Option Expr

/-- A parameter as it is written. -/
structure WrittenParam extends WrittenName where
  default : Option Expr

/-- The node of a parameter that takes the rest. -/
def WrittenName.node (p : WrittenName) : RestParameter := .mk p.name p.typing

/-- The parameter's node. -/
def WrittenParam.node (p : WrittenParam) : Parameter := .mk p.name p.typing p.default

/-- A list of parameters as it is written. -/
structure WrittenParams where
  positionalOnly : List WrittenParam
  positional : List WrittenParam
  rest : Option WrittenName
  keywordOnly : List WrittenParam
  keywordRest : Option WrittenName

namespace WrittenParams

/-- No parameters. -/
def empty : WrittenParams := ⟨[], [], none, [], none⟩

/-- The node of the list. -/
def node (ps : WrittenParams) : Parameters :=
  .mk (ps.positionalOnly.map (·.node)) (ps.positional.map (·.node)) (ps.rest.map (·.node))
    (ps.keywordOnly.map (·.node)) (ps.keywordRest.map (·.node))

/-- The first positional parameter without a default after one that has one. -/
def missingDefault? (ps : WrittenParams) : Option WrittenParam :=
  let fromDefault := (ps.positionalOnly ++ ps.positional).dropWhile (·.default.isNone)
  (fromDefault.dropWhile (·.default.isSome)).head?

/-- All names in the order in which they are compared. -/
def allNames (ps : WrittenParams) : List WrittenName :=
  (ps.positionalOnly ++ ps.positional ++ ps.keywordOnly).map (·.toWrittenName) ++
    ps.rest.toList ++ ps.keywordRest.toList

end WrittenParams

/-- The first name that an earlier parameter has. -/
def firstDuplicate? (seen : List String) : List WrittenName → Option WrittenName
  | [] => none
  | p :: rest => if seen.contains p.name then some p else firstDuplicate? (p.name :: seen) rest

namespace WrittenParams

/-- Refuses a default that is followed by a parameter without one. -/
def checkDefaults (ps : WrittenParams) : Reader Unit :=
  match ps.missingDefault? with
  | some p => Reader.reject .defaultOrder p.start
  | none => pure ()

/-- Refuses two parameters of one name, if the token ahead may stand there. -/
def checkNames (ps : WrittenParams) (follows : Token → Bool) : Reader Unit :=
  match firstDuplicate? [] ps.allNames with
  | some p => Reader.rejectBefore follows (.duplicateParameter p.name) p.start
  | none => pure ()

end WrittenParams

/-! ## Reading parameters -/

/-- How the parameters of one kind of function are written: whether annotations
may follow their names, how annotations and defaults are read, and what closes
the list. -/
structure ParamStyle where
  annotated : Bool
  value : Reader Expr
  starValue : Reader Expr
  closer : Token

namespace ParamStyle

open Reader

/-- Reads a name with its typing. -/
def name (style : ParamStyle) (typing : Reader Expr) : Reader WrittenName := do
  let start ← offset
  let name ← identifier
  if style.annotated && (← at? (.symbol .colon)) then
    advance
    let a ← typing
    return ⟨name, start, some a⟩
  else return ⟨name, start, none⟩

/-- Reads a parameter with its typing and its default. -/
def param (style : ParamStyle) : Reader WrittenParam := do
  let p ← style.name style.value
  if ← accept (.symbol .equal) then
    let d ← style.value
    return ⟨p, some d⟩
  else return ⟨p, none⟩

/-- Is the token ahead the one that closes the list?  Otherwise nothing fits. -/
def close (style : ParamStyle) (ps : WrittenParams) : Reader WrittenParams := do
  if ← at? style.closer then
    ps.checkDefaults
    return ps
  else unexpected

/-- Is a name ahead? -/
def nameAhead : Reader Bool := ahead fun
  | .name _ => true
  | _ => false

/-- Reads the parameter for further keyword arguments, which ends the list but
for a comma. -/
def keywordRest (style : ParamStyle) (ps : WrittenParams) : Reader WrittenParams := do
  symbol .power
  let rest ← if ← nameAhead then some <$> style.name style.value else pure none
  let ps := { ps with keywordRest := rest }
  let _ ← accept (.symbol .comma)
  style.close ps

/-- Closes a list that has a star; a star without a name needs a parameter after
it. -/
def closeStar (style : ParamStyle) (star : Nat) (ps : WrittenParams) : Reader WrittenParams := do
  if !(← at? style.closer) then unexpected
  else if ps.rest.isNone && ps.keywordOnly.isEmpty then reject .bareStar star
  else style.close ps

/-- Reads the parameters after a star, which only keywords reach. -/
def keywordOnly (style : ParamStyle) (star : Nat) :
    Nat → WrittenParams → Reader WrittenParams
  | 0, _ => unexpected
  | n + 1, ps => do
    if ← accept (.symbol .comma) then
      if ← nameAhead then
        let p ← style.param
        keywordOnly style star n { ps with keywordOnly := ps.keywordOnly ++ [p] }
      else if ← at? (.symbol .power) then style.keywordRest ps
      else style.closeStar star ps
    else style.closeStar star ps

/-- Reads a star, the name for further arguments if one follows, and the rest. -/
def star (style : ParamStyle) (n : Nat) (ps : WrittenParams) : Reader WrittenParams := do
  let start ← offset
  symbol .star
  let rest ← if ← nameAhead then some <$> style.name style.starValue else pure none
  style.keywordOnly start n { ps with rest }

/-- Reads what may follow a comma in a list: the end, a star or two. -/
def afterComma (style : ParamStyle) (n : Nat) (ps : WrittenParams) : Reader WrittenParams := do
  if ← at? (.symbol .star) then style.star n ps
  else if ← at? (.symbol .power) then style.keywordRest ps
  else style.close ps

/-- Reads the parameters that places reach.  A slash, once, closes the part that
only places reach. -/
def positional (style : ParamStyle) : Nat → Bool → WrittenParams → Reader WrittenParams
  | 0, _, _ => unexpected
  | n + 1, slashed, ps => do
    let p ← style.param
    let ps := { ps with positional := ps.positional ++ [p] }
    if ← accept (.symbol .comma) then
      if ← nameAhead then positional style n slashed ps
      else if !slashed && (← at? (.symbol .slash)) then
        advance
        let ps := { ps with positionalOnly := ps.positional, positional := [] }
        if ← accept (.symbol .comma) then
          if ← nameAhead then positional style n true ps
          else style.afterComma n ps
        else style.close ps
      else style.afterComma n ps
    else style.close ps

/-- Reads a list of parameters up to what closes it. -/
def list (style : ParamStyle) (n : Nat) : Reader WrittenParams := do
  if ← at? style.closer then return .empty
  else if ← nameAhead then style.positional n false .empty
  else if ← at? (.symbol .star) then style.star n .empty
  else if ← at? (.symbol .power) then style.keywordRest .empty
  else unexpected

end ParamStyle

end SceneRender.Script
