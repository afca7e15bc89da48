import SceneRender.Json.Printer

/-!
# Requests and responses

A request has a method, a target, headers and a body; the address of its client
may be known.  A response has a status, headers and a body.  Names of headers are
compared without regard to case and kept in lower case.
-/

namespace SceneRender

/-- A header: its name and its value. -/
abbrev Header := String × String

/-- A request. -/
structure Request where
  method : String
  /-- The path, perhaps followed by a query. -/
  target : String
  headers : List Header := []
  /-- The body as text; bodies that are not UTF-8 are left out. -/
  body : String := ""
  /-- The network address of the client, if it is known. -/
  client : Option String := none
  deriving DecidableEq, Repr, Inhabited

namespace Request

/-- The path of a request: its target up to the query. -/
def path (r : Request) : String :=
  String.ofList (r.target.toList.takeWhile fun c => c != '?' && c != '#')

/-- The value of a header. -/
def header? (r : Request) (name : String) : Option String :=
  (r.headers.find? fun h => h.1.map Char.toLower == name).map (·.2)

end Request

/-- The body of a response. -/
inductive Body where
  | empty
  | json (value : Json.Value)
  | plain (text : String)
  | video (content : ByteArray)

/-- A response. -/
structure Response where
  status : Nat
  headers : List Header := []
  body : Body := .empty

namespace Response

/-- A response with a JSON body. -/
def json (status : Nat) (value : Json.Value) : Response :=
  { status, headers := [("content-type", "application/json")], body := .json value }

/-- A response with a plain text. -/
def plain (status : Nat) (text : String) : Response :=
  { status, headers := [("content-type", "text/plain; charset=utf-8")], body := .plain text }

/-- The response with a further header. -/
def withHeader (r : Response) (name value : String) : Response :=
  { r with headers := r.headers ++ [(name, value)] }

/-- The response with a further header, if there is a value for it. -/
def withHeader? (r : Response) (name : String) : Option String → Response
  | some value => r.withHeader name value
  | none => r

/-- The response without its body, as a request for the headers alone gets it. -/
def withoutBody (r : Response) : Response := { r with body := .empty }

end Response

end SceneRender
