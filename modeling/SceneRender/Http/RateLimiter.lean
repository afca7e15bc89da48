/-!
# Rate limiting

Every client may make so many requests within a window of time that slides with
the clock.  The limiter keeps the moments of a client's admitted requests, oldest
first.  At most once per window it forgets the clients that made none within the
last window, so that its memory follows the clients that are still about.

Moments are counted from a fixed start, in any unit, however fine, as long as the
window is given in the same one.  The clock may step back between two requests; the
time since a later moment then counts as none.
-/

namespace SceneRender

/-- What the limiter remembers of a client. -/
structure ClientHits where
  client : String
  /-- The moments of the admitted requests, oldest first. -/
  hits : List Nat
  deriving DecidableEq, Repr

/-- The limiter: its bounds and its memory. -/
structure RateLimiter where
  limit : Nat
  window : Nat
  clients : List ClientHits
  lastSweep : Option Nat
  deriving Repr

namespace RateLimiter

/-- The usual window: one minute, in milliseconds. -/
def minute : Nat := 60000

/-- A limiter without memory. -/
def withWindow (limit window : Nat) : RateLimiter := ⟨limit, window, [], none⟩

/-- A limiter of requests per minute. -/
def perMinute (limit : Nat) : RateLimiter := withWindow limit minute

/-- A limit of zero means that requests are not limited at all. -/
def enabled (l : RateLimiter) : Bool := 0 < l.limit

/-- Was the client's newest request within the window? -/
def ClientHits.recent (window now : Nat) (c : ClientHits) : Bool :=
  c.hits.getLast?.any fun newest => now - newest ≤ window

/-- Forgets the clients without a recent request, unless that was done within the
last window. -/
def sweep (l : RateLimiter) (now : Nat) : RateLimiter :=
  if l.lastSweep.any fun last => now - last < l.window then l
  else
    { l with
      clients := l.clients.filter (ClientHits.recent l.window now)
      lastSweep := some now }

/-- The moments that are remembered of a client. -/
def hitsOf (l : RateLimiter) (client : String) : List Nat :=
  match l.clients.find? (·.client == client) with
  | some c => c.hits
  | none => []

/-- Replaces the moments that are remembered of a client. -/
def setHits (l : RateLimiter) (client : String) (hits : List Nat) : RateLimiter :=
  if l.clients.any (·.client == client) then
    { l with clients := l.clients.map fun c => if c.client == client then ⟨client, hits⟩ else c }
  else { l with clients := l.clients ++ [⟨client, hits⟩] }

/-- A request of a client at a moment: is it admitted, and what is remembered? -/
def check (l : RateLimiter) (client : String) (now : Nat) : Bool × RateLimiter :=
  let swept := l.sweep now
  let recent := (swept.hitsOf client).dropWhile fun oldest => l.window < now - oldest
  if l.limit ≤ recent.length then (false, swept.setHits client recent)
  else (true, swept.setHits client (recent ++ [now]))

/-- The number of clients that are remembered. -/
def trackedClients (l : RateLimiter) : Nat := l.clients.length

end RateLimiter

end SceneRender
