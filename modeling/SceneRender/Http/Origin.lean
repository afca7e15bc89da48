import SceneRender.Http.Message

/-!
# Foreign origins

Which pages of other origins may use the service from a browser: all of them, or
those of a list.  The policy only marks responses; a browser enforces it.  The
question that a browser asks beforehand is answered here for every path.
-/

namespace SceneRender

/-- The origins that are welcome. -/
inductive OriginPolicy where
  | any
  | listed (origins : List String)
  deriving DecidableEq, Repr

namespace OriginPolicy

/-- The mark for every origin. -/
def anyMark : String := "*"

/-- May the character stand in the value of a header? -/
def isHeaderChar (c : Char) : Bool := (31 < c.toNat && c.toNat != 127) || c == '\t'

/-- The wording for an origin that no header can hold. -/
def invalidMessage (origin : String) : String := "Invalid CORS origin '" ++ origin ++ "'"

/-- The reason why no header can hold an origin. -/
def invalidCause : String := "failed to parse header value"

/-- The policy of a list of origins, or the first one that no header can hold. -/
def ofList (origins : List String) : Except String OriginPolicy :=
  if origins.contains anyMark then .ok any
  else match origins.find? fun o => !o.toList.all isHeaderChar with
    | some o => .error o
    | none => .ok (listed origins)

/-- The origin that a response to a request names as welcome. -/
def welcome? (policy : OriginPolicy) (r : Request) : Option String :=
  match policy with
  | any => some anyMark
  | listed origins => (r.header? "origin").filter origins.contains

/-- The headers on which the marks of a response depend. -/
def vary : String := "origin, access-control-request-method, access-control-request-headers"

/-- Marks a response. -/
def mark (policy : OriginPolicy) (r : Request) (response : Response) : Response :=
  (response.withHeader? "access-control-allow-origin" (policy.welcome? r)).withHeader "vary" vary

/-- Does a browser ask beforehand? -/
def isPreflight (r : Request) : Bool := r.method == "OPTIONS"

/-- The answer to a browser that asks beforehand. -/
def preflight : Response :=
  (({ status := 200 } : Response).withHeader "access-control-allow-methods" anyMark).withHeader
    "access-control-allow-headers" anyMark

end OriginPolicy

end SceneRender
