import SceneRender.Api.Handler
import SceneRender.Http.Origin
import SceneRender.Http.RateLimiter

/-!
# The server

What happens to a request on its way to a handler and to the response on its way
back.  From the outside in:

1. Every response carries the request's own id, or a fresh one.
2. A browser that asks beforehand is answered, and every response is marked for
   browsers.
3. A client that asks too often is turned away; checks of the service's health are
   not counted.
4. A path that is not a route, or a method that its route does not take, is
   refused.

A response to a method that the route does not take names those that it takes.  A
request for the headers alone gets no body.
-/

namespace SceneRender

open SceneRender.Json

/-- How the server is set up. -/
structure ServerPolicy where
  api : ApiSettings
  origins : OriginPolicy
  deriving DecidableEq, Repr

namespace Server

/-- The header that holds the id of a request. -/
def requestIdHeader : String := "x-request-id"

/-- The name under which clients are counted whose address is not known. -/
def unknownClient : String := "unknown"

/-- How the paths begin whose requests are not counted. -/
def uncountedStart : String := "/health"

/-- The response to a client that asks too often. -/
def tooMany : Response := .json 429 (.record [("error", .text "Rate limit exceeded")])

/-- Is a request counted by a limiter? -/
def isCounted (limiter : RateLimiter) (r : Request) : Bool :=
  limiter.enabled && !r.path.startsWith uncountedStart

/-- Does a limiter let a request through at a moment? -/
def letIn (limiter : RateLimiter) (now : Nat) (r : Request) : Bool × RateLimiter :=
  if isCounted limiter r then limiter.check (r.client.getD unknownClient) now
  else (true, limiter)

/-- Handles a request that was let through. -/
def routed (policy : ServerPolicy) (r : Request) : ServicePlan Response :=
  match Route.ofPath? r.path with
  | none => return { status := 404 }
  | some route =>
    if route.methods.contains r.method then Api.handle policy.api route r
    else return { status := 405 }

/-- Names the methods that a route takes, if the request uses another one. -/
def nameMethods (r : Request) (response : Response) : Response :=
  match Route.ofPath? r.path with
  | none => response
  | some route =>
    if route.methods.contains r.method then response
    else response.withHeader "allow" route.allowed

/-- What is done to every response on its way out. -/
def finish (policy : ServerPolicy) (freshId : String) (r : Request) (response : Response) :
    Response :=
  let response := nameMethods r (policy.origins.mark r response)
  let response := response.withHeader requestIdHeader ((r.header? requestIdHeader).getD freshId)
  if r.method == "HEAD" then response.withoutBody else response

/-- The plan that answers a request, and the limiter afterwards. -/
def respond (policy : ServerPolicy) (limiter : RateLimiter) (now : Nat) (freshId : String)
    (r : Request) : ServicePlan Response × RateLimiter :=
  let finish := finish policy freshId r
  if OriginPolicy.isPreflight r then (return finish OriginPolicy.preflight, limiter)
  else
    let (isIn, limiter) := letIn limiter now r
    if isIn then (do return finish (← routed policy r), limiter)
    else (return finish tooMany, limiter)

end Server

end SceneRender
