import SceneRender.Script.Walk

/-!
# The safety policy

What a scene script may not do, wherever in the script it does it: import one of
a few modules that reach outside the sandbox, or call one of a few functions.
A function counts under its last name, so a method of that name is refused too.
The same walk notes whether the scene library is imported.
-/

namespace SceneRender.Script

/-- Root modules that may not be imported. -/
def forbiddenImports : List String :=
  ["os", "sys", "subprocess", "socket", "pathlib", "shutil", "requests", "httpx", "urllib"]

/-- Names that may not be called. -/
def forbiddenCalls : List String :=
  ["eval", "exec", "open", "__import__", "compile", "input"]

/-- The module a script has to import from. -/
def requiredModule : String := "manim"

/-- The part of a dotted name before its first dot. -/
def rootName (dotted : String) : String :=
  String.ofList (dotted.toList.takeWhile (· != '.'))

/-- Is the module, or one it lies in, forbidden? -/
def isForbiddenModule (dotted : String) : Bool :=
  forbiddenImports.contains (rootName dotted)

/-- The name a callee is known by: a name itself, or its last attribute. -/
def calleeName? : Expr → Option String
  | .name id => some id
  | .attribute _ name => some name
  | _ => none

/-- A breach of the policy. -/
inductive Breach where
  | importOf (module : String)
  | importFrom (module : String)
  | call (name : String)
  deriving DecidableEq, Repr

/-- The wording of a breach. -/
def Breach.message : Breach → String
  | importOf module => "Forbidden import: " ++ module
  | importFrom module => "Forbidden import from: " ++ module
  | call name => "Forbidden call: " ++ name

/-- What the walk has found: the breaches, the last first, and whether the
required module is imported. -/
structure SafetyReport where
  breaches : List Breach
  imported : Bool
  deriving DecidableEq, Repr

/-- The breaches of a statement itself. -/
def Stmt.breaches : Stmt → List Breach
  | .importNames names =>
    (names.filter fun a => isForbiddenModule a.name).map fun a => .importOf a.name
  | .importFrom (some module) _ _ =>
    if module != requiredModule && isForbiddenModule module then [.importFrom module] else []
  | _ => []

/-- Does the statement import from the required module? -/
def Stmt.importsRequired : Stmt → Bool
  | .importFrom (some module) _ _ => module == requiredModule
  | _ => false

/-- The breach of an expression itself. -/
def Expr.breaches : Expr → List Breach
  | .call _ func _ _ =>
    match calleeName? func with
    | some callee => if forbiddenCalls.contains callee then [.call callee] else []
    | none => []
  | _ => []

/-- The visitor that looks for breaches. -/
def safetyVisitor : Visitor SafetyReport where
  stmt r t := ⟨t.breaches.reverse ++ r.breaches, r.imported || t.importsRequired⟩
  expr r e := ⟨e.breaches.reverse ++ r.breaches, r.imported⟩

/-- What a script does against the policy, in the order of the walk. -/
def safetyReport (body : List Stmt) : SafetyReport :=
  let r := walkBody safetyVisitor ⟨[], false⟩ body
  ⟨r.breaches.reverse, r.imported⟩

end SceneRender.Script
