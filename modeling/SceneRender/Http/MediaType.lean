/-!
# Media types

A media type is a type and a subtype with a slash between them, and parameters
after semicolons.  A subtype may end in a plus sign and a suffix.  Only one
question is asked here: does the type announce a JSON document?
-/

namespace SceneRender.MediaType

/-- May the character stand in a token? -/
def isTokenChar (c : Char) : Bool :=
  c.isAlphanum || "!#$%&'*+-.^_\x60|~".toList.contains c

/-- Is the list a token? -/
def isToken (cs : List Char) : Bool := !cs.isEmpty && cs.all isTokenChar

/-- May the character stand between quotes? -/
def isQuotable (c : Char) : Bool := 31 < c.toNat && c.toNat < 127

/-- The rest after a token. -/
def pastToken (cs : List Char) : List Char := cs.dropWhile isTokenChar

/-- The rest after the text between quotes, which is not empty and of which only the
first character may be a quote, and after its closing quote. -/
def pastQuoted? : List Char → Option (List Char)
  | [] => none
  | c :: rest =>
    let after := rest.dropWhile fun c => isQuotable c && c != '"'
    match after with
    | '"' :: after => if isQuotable c then some after else none
    | _ => none

/-- The rest after the value of a parameter and the semicolon that ends it.  Spaces may
follow a quoted value.  A value may be missing only at the very end. -/
def pastValue? (cs : List Char) : Option (List Char) :=
  match cs with
  | '"' :: inner => do
    let after ← pastQuoted? inner
    match after.dropWhile (· == ' ') with
    | [] => some []
    | ';' :: rest => some rest
    | _ => none
  | cs =>
    match pastToken cs with
    | [] => some []
    | ';' :: rest => if cs.head? == some ';' then none else some rest
    | _ => none

/-- The rest after a parameter; spaces may stand in front of it. -/
def pastParameter? (cs : List Char) : Option (List Char) :=
  match pastToken cs with
  | '=' :: rest => if cs.head? == some '=' then none else pastValue? rest
  | _ => none

/-- Is the list made of parameters?  Each may follow spaces, and the last one may be
missing; `fuel` bounds their number. -/
def areParameters : Nat → List Char → Bool
  | 0, _ => false
  | fuel + 1, cs =>
    match cs.dropWhile (· == ' ') with
    | [] => true
    | cs => (pastParameter? cs).any (areParameters fuel)

/-- The part of a subtype in front of its last plus sign, and the part behind it. -/
def splitSuffix (subtype : List Char) : List Char × Option (List Char) :=
  let behind := subtype.reverse.takeWhile (· != '+')
  if behind.length + 1 < subtype.length && subtype.contains '+' then
    (subtype.take (subtype.length - behind.length - 1), some behind.reverse)
  else (subtype, none)

/-- Does a media type announce a JSON document? -/
def isJson (text : String) : Bool :=
  let cs := text.toList.map Char.toLower
  let type := cs.takeWhile isTokenChar
  match cs.drop type.length with
  | '/' :: rest =>
    let subtype := rest.takeWhile isTokenChar
    let (front, suffix) := splitSuffix subtype
    let parameters := match rest.drop subtype.length with
      | [] => true
      | ';' :: rest => areParameters (rest.length + 1) rest
      | _ => false
    type == "application".toList && isToken subtype && parameters &&
      (front == "json".toList || suffix == some "json".toList)
  | _ => false

end SceneRender.MediaType
