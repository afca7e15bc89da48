import SceneRender.Script.Walk

/-!
# The entry class

A script is loaded by its entry class: a class of a fixed name at the top of the
module, which inherits from the scene class, perhaps through other classes of
the script, and has the method that builds the scene.  Of the methods called on
`self` inside it, each must be defined in the class, be inherited from a class
of the script, or belong to the scene library.
-/

namespace SceneRender.Script

/-- Methods that the scene library lets a script call on `self`. -/
def sceneMethods : List String :=
  ["add", "add_foreground_mobject", "add_foreground_mobjects", "add_sound", "add_subcaption",
   "add_updater", "bring_to_back", "bring_to_front", "clear", "construct", "embed", "get_attrs",
   "get_mobject_family_members", "get_top_level_mobjects", "interactive_embed", "next_section",
   "pause", "play", "remove", "remove_foreground_mobject", "remove_foreground_mobjects",
   "remove_updater", "render", "replace", "setup", "tear_down", "update_mobjects", "wait",
   "wait_until"]

/-- The name of the entry class. -/
def entryClass : String := "GeneratedScene"

/-- The class it inherits from. -/
def sceneClass : String := "Scene"

/-- The method that builds the scene. -/
def entryMethod : String := "construct"

/-- A class at the top of a module. -/
structure TopClass where
  name : String
  bases : List Expr
  body : List Stmt

/-- The classes at the top of a module, in order. -/
def topClasses (body : List Stmt) : List TopClass :=
  body.filterMap fun
    | .classDef name _ bases _ _ body => some ⟨name, bases, body⟩
    | _ => none

/-- The class of the module that a base names; of several of one name the first. -/
def localBase? (classes : List TopClass) : Expr → Option TopClass
  | .name id => classes.find? fun c => c.name == id
  | _ => none

/-- Does a base name the class, by itself or as the last attribute? -/
def namesBase (base : String) : Expr → Bool
  | .name id => id == base
  | .attribute _ name => name == base
  | _ => false

mutual

/-- Does a class inherit from the base, directly or through classes of the
module?  A name already visited is not followed again.  Also yields the names
visited; `fuel` bounds the length of the chain. -/
def inheritsFrom (classes : List TopClass) (base : String) :
    Nat → TopClass → List String → Bool × List String
  | 0, _, visited => (false, visited)
  | fuel + 1, c, visited =>
    if visited.contains c.name then (false, visited)
    else anyInherits classes base fuel c.bases (c.name :: visited)

/-- Does one of the bases name the base, or a class that inherits from it? -/
def anyInherits (classes : List TopClass) (base : String) :
    Nat → List Expr → List String → Bool × List String
  | _, [], visited => (false, visited)
  | 0, _, visited => (false, visited)
  | fuel + 1, e :: rest, visited =>
    if namesBase base e then (true, visited)
    else
      match localBase? classes e with
      | none => anyInherits classes base fuel rest visited
      | some parent =>
        match inheritsFrom classes base fuel parent visited with
        | (true, visited) => (true, visited)
        | (false, visited) => anyInherits classes base fuel rest visited

end

/-- The names of the methods that a class defines itself. -/
def ownMethods (body : List Stmt) : List String :=
  body.filterMap fun
    | .functionDef _ name _ _ _ _ _ => some name
    | _ => none

mutual

/-- The methods that a class defines or inherits from classes of the module,
added to the ones known, with the names visited. -/
def methodsOf (classes : List TopClass) :
    Nat → TopClass → List String × List String → List String × List String
  | 0, _, known => known
  | fuel + 1, c, (methods, visited) =>
    if visited.contains c.name then (methods, visited)
    else methodsOfBases classes fuel c.bases (ownMethods c.body ++ methods, c.name :: visited)

/-- The methods of the classes that bases name. -/
def methodsOfBases (classes : List TopClass) :
    Nat → List Expr → List String × List String → List String × List String
  | _, [], known => known
  | 0, _, known => known
  | fuel + 1, e :: rest, known =>
    match localBase? classes e with
    | none => methodsOfBases classes fuel rest known
    | some parent => methodsOfBases classes fuel rest (methodsOf classes fuel parent known)

end

/-- A method called on `self`, with the offset of the call. -/
structure SelfCall where
  name : String
  start : Nat
  deriving DecidableEq, Repr

/-- The call on `self` that an expression is, if it is one. -/
def selfCall? : Expr → Option SelfCall
  | .call start (.attribute (.name "self") name) _ _ => some ⟨name, start⟩
  | _ => none

/-- The visitor that collects calls on `self`, the last first. -/
def selfCallVisitor : Visitor (List SelfCall) where
  stmt calls _ := calls
  expr calls e := (selfCall? e).toList ++ calls

/-- The calls on `self` in a block, in the order of the walk. -/
def selfCalls (body : List Stmt) : List SelfCall :=
  (walkBody selfCallVisitor [] body).reverse

/-- What is wrong with the entry class. -/
inductive EntryFlaw where
  | missingClass
  | duplicateClass (count : Nat)
  | wrongBase
  | missingMethod
  | undefinedHelper (line : Nat) (name : String)
  | unknownMethod (line : Nat) (name : String)
  deriving DecidableEq, Repr

/-- The wording of a flaw. -/
def EntryFlaw.message : EntryFlaw → String
  | missingClass => "Missing required class: " ++ entryClass ++ "(" ++ sceneClass ++ ")"
  | duplicateClass count =>
    "Duplicate required class: " ++ entryClass ++ " is defined " ++ toString count ++ " times"
  | wrongBase => "Required class " ++ entryClass ++ " must inherit from " ++ sceneClass
  | missingMethod => "Missing required method: " ++ entryMethod ++ "(self)"
  | undefinedHelper line name =>
    "Undefined helper method at line " ++ toString line ++ ": self." ++ name ++
      "() must be defined in " ++ entryClass ++ " before it is called"
  | unknownMethod line name =>
    "Unknown Scene method at line " ++ toString line ++ ": self." ++ name ++
      "() is not a Manim Scene API; use a supported Scene method or define " ++ name ++ "() in " ++
      entryClass

/-- The flaw of a call on `self` to a method that is neither defined nor known. -/
def SelfCall.flaw (lineOf : Nat → Nat) (call : SelfCall) : EntryFlaw :=
  if call.name.toList.head? == some '_' then .undefinedHelper (lineOf call.start) call.name
  else .unknownMethod (lineOf call.start) call.name

/-- Enough steps to follow every chain of classes: each class is entered once,
and its bases are passed once. -/
def classFuel (classes : List TopClass) : Nat :=
  classes.foldl (fun n c => n + c.bases.length + 4) 4

/-- What is wrong with the entry class of a module. -/
def entryFlaws (lineOf : Nat → Nat) (body : List Stmt) : List EntryFlaw :=
  let classes := topClasses body
  let candidates := classes.filter fun c => c.name == entryClass
  match candidates with
  | [] => [.missingClass, .missingMethod]
  | entry :: others =>
    let fuel := classFuel classes
    let defined := (methodsOf classes fuel entry ([], [])).1
    (if others.isEmpty then [] else [.duplicateClass candidates.length]) ++
      (if (inheritsFrom classes sceneClass fuel entry []).1 then [] else [.wrongBase]) ++
      (if defined.contains entryMethod then [] else [.missingMethod]) ++
      ((selfCalls entry.body).filter fun call =>
        !defined.contains call.name && !sceneMethods.contains call.name).map
        (SelfCall.flaw lineOf)

end SceneRender.Script
