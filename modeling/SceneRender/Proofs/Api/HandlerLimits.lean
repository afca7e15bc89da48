import SceneRender.Api.Server
import SceneRender.Http.Address
import SceneRender.Proofs.Http.SlidingWindow

/-!
# No handler without the limiter

Every handler but the one for the service's health stands behind the rate limiter.  The
limiter lets through, uncounted, what a browser asks beforehand and whatever begins like the
path of the health check; neither leads to a handler that works.

`Server.handled?` is the route whose handler a request reaches, and `Server.respond_eq` says
that it is: the plan of the response is that handler's plan, or asks nothing at all.  A request
that reaches a working handler is a call of the limiter that was admitted
(`Server.admitted_of_handled`), so that the bound of the limiter's window is one for the
handlers (`Server.handlers_rate_limited`).
-/

namespace SceneRender

open Plan

/-! ## Ports do not count -/

namespace Address

/-- What folds digits into a number has digits only. -/
theorem hexDigit_of_number {base n : Nat} {cs : List Char}
    (h : number? base cs = some n) : ∀ c ∈ cs, hexDigitValue? c ≠ none := by
  rw [number?] at h
  split at h
  · cases h
  · generalize 0 = start at h
    induction cs generalizing start with
    | nil => exact nofun
    | cons c cs ih =>
        rw [List.foldlM_cons] at h
        obtain ⟨next, hstep, hrest⟩ := Option.bind_eq_some_iff.mp h
        obtain ⟨digit, hdigit, -⟩ := Option.bind_eq_some_iff.mp hstep
        refine List.forall_mem_cons.mpr ⟨?_, ?_⟩
        · rw [hdigit]
          exact Option.some_ne_none digit
        · cases cs with
          | nil => exact nofun
          | cons d ds => exact ih (by simp) next hrest

/-- A port has neither a colon nor a bracket. -/
theorem isPort_chars {port : List Char} (h : isPort (String.ofList port) = true) :
    ':' ∉ port ∧ ']' ∉ port := by
  rw [isPort, isNumberBelow, String.toList_ofList] at h
  cases hnumber : number? 10 port with
  | none =>
      rw [hnumber] at h
      cases h
  | some n =>
      have hdigits := hexDigit_of_number hnumber
      exact ⟨fun hmem => hdigits _ hmem (by decide), fun hmem => hdigits _ hmem (by decide)⟩

/-- A text in which something is followed by a colon is no port. -/
theorem not_isPort (front : List Char) (port : List Char) :
    isPort (String.ofList (front ++ ':' :: port)) = false := by
  rw [Bool.eq_false_iff]
  intro hport
  exact (isPort_chars hport).1 (List.mem_append_right _ List.mem_cons_self)

/-- The address in brackets. -/
def inBrackets? (inside : List Char) : Option String :=
  if inside.dropWhile (· != ']') = [']'] then
    bracketed? (String.ofList (inside.takeWhile (· != ']')))
  else none

/-- The address in front of a port and its colon. -/
def beforePort? : List Char → Option String
  | '[' :: inside => inBrackets? inside
  | host =>
    if ':' ∈ host then none
    else if (octets? (String.ofList host)).isSome then some (String.ofList host) else none

variable {port : List Char}

/-- An address in brackets ends at the bracket. -/
theorem ofSocket?_bracket (inside : List Char) (h : isPort (String.ofList port) = true) :
    ofSocket? (String.ofList ('[' :: (inside ++ ':' :: port))) = inBrackets? inside := by
  have hafter : (':' :: port).dropWhile (· != ']') = [] := by
    rw [List.dropWhile_eq_nil_iff]
    intro c hc
    rcases List.mem_cons.mp hc with rfl | hc
    · rfl
    · exact bne_iff_ne.mpr fun heq => (isPort_chars h).2 (heq ▸ hc)
  rw [ofSocket?, String.toList_ofList]
  split
  · next rest heq =>
    obtain rfl := (List.cons.inj heq).2
    rw [List.dropWhile_append, inBrackets?]
    cases hdrop : inside.dropWhile (· != ']') with
    | nil =>
        rw [hafter]
        rfl
    | cons c back =>
        have hclosing : c = ']' := by
          have hhead := List.head_dropWhile_not (· != ']') (hdrop ▸ List.cons_ne_nil c back)
          simpa [hdrop] using hhead
        have hshorter : (inside.takeWhile (· != ']')).length ≠ inside.length := by
          have hlengths := congrArg List.length
            (List.takeWhile_append_dropWhile (p := (· != ']')) (l := inside))
          rw [List.length_append, hdrop, List.length_cons] at hlengths
          omega
        rw [hclosing, List.takeWhile_append, if_neg hshorter, if_neg (by simp), List.cons_append]
        cases back with
        | nil => simp [h]
        | cons d more =>
            rw [if_neg (by simp)]
            by_cases hd : d = ':'
            · rw [hd]
              exact if_neg (Bool.eq_false_iff.mp (not_isPort more port))
            · simp [hd]
  · next hno => exact absurd rfl (hno _)

/-- An address without brackets ends at its only colon. -/
theorem ofSocket?_plain {host : List Char} (hhost : ∀ inside, host ≠ '[' :: inside)
    (h : isPort (String.ofList port) = true) :
    ofSocket? (String.ofList (host ++ ':' :: port)) =
      if ':' ∈ host then none
      else if (octets? (String.ofList host)).isSome then some (String.ofList host) else none := by
  have hport : port.splitOn ':' = [port] := List.splitOn_eq_singleton (isPort_chars h).1
  rw [ofSocket?, String.toList_ofList]
  split
  · next rest heq =>
    cases host with
    | nil => cases heq
    | cons c cs => exact absurd (congrArg (· :: cs) (List.cons.inj heq).1) (hhost cs)
  · rw [List.splitOn_append_cons_self, hport]
    by_cases hcolon : ':' ∈ host
    · -- there are at least three pieces
      obtain ⟨front, back, rfl⟩ := List.append_of_mem hcolon
      rw [List.splitOn_append_cons_self, if_pos hcolon]
      obtain ⟨first, firsts, hfirst⟩ :=
        List.exists_cons_of_ne_nil (List.splitOn_ne_nil ':' front)
      obtain ⟨second, seconds, hsecond⟩ :=
        List.exists_cons_of_ne_nil (List.splitOn_ne_nil ':' back)
      rw [hfirst, hsecond]
      cases firsts <;> cases seconds <;> simp
    · rw [List.splitOn_eq_singleton hcolon, if_neg hcolon]
      simp [h]

/-- **The port does not count**: the address in a socket address is found in front of it. -/
theorem ofSocket?_port (host : List Char) (h : isPort (String.ofList port) = true) :
    ofSocket? (String.ofList (host ++ ':' :: port)) = beforePort? host := by
  rw [beforePort?.eq_def]
  split
  · exact ofSocket?_bracket _ h
  · next hhost => exact ofSocket?_plain hhost h

/-- Sockets that differ in their ports only have one address. -/
theorem ofSocket?_port_eq (host : String) {port port' : String} (h : isPort port = true)
    (h' : isPort port' = true) :
    ofSocket? (host ++ ":" ++ port) = ofSocket? (host ++ ":" ++ port') := by
  have hchars : ∀ p : String, host ++ ":" ++ p = String.ofList (host.toList ++ ':' :: p.toList) := by
    intro p
    refine String.toList_injective ?_
    simp
  rw [hchars, hchars, ofSocket?_port _ (by rwa [String.ofList_toList]),
    ofSocket?_port _ (by rwa [String.ofList_toList])]

end Address

/-! ## Paths that are not counted -/

/-- **Only the health check is a route among the paths that are not counted.** -/
theorem Route.eq_health_of_uncounted {path : String} {route : Route}
    (hroute : Route.ofPath? path = some route)
    (huncounted : path.startsWith Server.uncountedStart = true) : route = .health := by
  obtain ⟨rest, hrest⟩ := String.startsWith_string_iff.mp huncounted
  have hchars : path.toList = [] ++ '/' :: ("health".toList ++ rest) := hrest.symm
  -- the first piece of the path is empty, and the second one begins with the word
  obtain ⟨tail, pieces, hpieces⟩ : ∃ tail pieces,
      path.toList.splitOn '/' = [] :: ("health".toList ++ tail) :: pieces := by
    rw [hchars, List.splitOn_append_cons_self]
    by_cases hslash : '/' ∈ rest
    · obtain ⟨front, back, rfl, hfront⟩ := List.eq_append_cons_of_mem hslash
      have hword : '/' ∉ "health".toList ++ front := by
        rw [List.mem_append]
        exact fun hmem => hmem.elim (by decide) hfront
      refine ⟨front, back.splitOn '/', ?_⟩
      rw [← List.append_assoc, List.splitOn_append_cons_self, List.splitOn_eq_singleton hword]
      rfl
    · have hword : '/' ∉ "health".toList ++ rest := by
        rw [List.mem_append]
        exact fun hmem => hmem.elim (by decide) hslash
      refine ⟨rest, [], ?_⟩
      rw [List.splitOn_eq_singleton hword]
      rfl
  have hother : ∀ word : String, word.toList.head? ≠ some 'h' →
      String.ofList ("health".toList ++ tail) ≠ word := by
    rintro word hword rfl
    exact hword (by rw [String.toList_ofList]; rfl)
  rw [ofPath?, hpieces, List.map_cons, List.map_cons] at hroute
  split at hroute
  case h_1 => exact (Option.some.inj hroute).symm
  case h_7 => cases hroute
  -- the second piece of every other route begins with another letter
  all_goals
    rename_i heq
    exact absurd (List.cons.inj (List.cons.inj heq).2).1 (hother _ (by decide))

/-- Does a route have a handler that works?  The health check has none. -/
def Route.isWorking (route : Route) : Bool := route != .health

/-! ## The handler that a request reaches -/

namespace Server

variable {policy : ServerPolicy} {limiter : RateLimiter} {now : Nat} {freshId : String}
  {r : Request} {route : Route}

/-- The route of a request, if it takes the method. -/
def fitting? (r : Request) : Option Route :=
  (Route.ofPath? r.path).filter fun route => route.methods.contains r.method

/-- The route whose handler a request reaches, if it reaches one. -/
def handled? (limiter : RateLimiter) (now : Nat) (r : Request) : Option Route :=
  if !OriginPolicy.isPreflight r && (letIn limiter now r).1 then fitting? r else none

/-- A request is handled by its route if it takes the method, and is answered at once otherwise. -/
theorem routed_eq (policy : ServerPolicy) (r : Request) :
    match fitting? r with
    | some route => routed policy r = Api.handle policy.api route r
    | none => ∃ response, routed policy r = .done response := by
  rw [fitting?, routed]
  cases Route.ofPath? r.path with
  | none => exact ⟨_, rfl⟩
  | some route =>
      rw [Option.filter_some]
      by_cases hmethod : route.methods.contains r.method = true
      · rw [if_pos hmethod]
        exact if_pos hmethod
      · rw [if_neg hmethod]
        exact ⟨_, if_neg hmethod⟩

/-- **What a request leads to**: the handler of the route that it reaches, or a response that
is there without asking anything. -/
theorem respond_eq (policy : ServerPolicy) (limiter : RateLimiter) (now : Nat) (freshId : String)
    (r : Request) :
    match handled? limiter now r with
    | some route => (respond policy limiter now freshId r).1 =
        do return finish policy freshId r (← Api.handle policy.api route r)
    | none => ∃ response, (respond policy limiter now freshId r).1 = .done response := by
  rw [respond, handled?]
  cases hpreflight : OriginPolicy.isPreflight r with
  | true => exact ⟨_, rfl⟩
  | false =>
      rw [if_neg Bool.false_ne_true]
      dsimp only
      cases hin : (letIn limiter now r).1 with
      | false => exact ⟨_, rfl⟩
      | true =>
          have hrouted := routed_eq policy r
          rw [if_pos (by rfl), if_pos rfl]
          cases hfitting : fitting? r with
          | none =>
              rw [hfitting] at hrouted
              obtain ⟨response, hresponse⟩ := hrouted
              exact ⟨finish policy freshId r response, by rw [hresponse]; rfl⟩
          | some route =>
              rw [hfitting] at hrouted
              dsimp only at hrouted ⊢
              rw [hrouted]

/-- Is a request a call of an enabled limiter? -/
def isCall (r : Request) : Bool :=
  !OriginPolicy.isPreflight r && !r.path.startsWith uncountedStart

/-- The limiter after a request. -/
theorem respond_limiter (henabled : limiter.enabled = true) :
    (respond policy limiter now freshId r).2 =
      if isCall r then (limiter.check (r.client.getD unknownClient) now).2 else limiter := by
  rw [respond, isCall]
  cases hpreflight : OriginPolicy.isPreflight r with
  | true => rfl
  | false =>
      rw [if_neg Bool.false_ne_true]
      dsimp only
      have hlimiter : (letIn limiter now r).2 =
          if !r.path.startsWith uncountedStart then
            (limiter.check (r.client.getD unknownClient) now).2
          else limiter := by
        rw [letIn, isCounted, henabled, Bool.true_and]
        split <;> rfl
      split <;> exact hlimiter

/-- **A working handler is reached by an admitted call only.** -/
theorem admitted_of_handled (henabled : limiter.enabled = true)
    (h : handled? limiter now r = some route) (hworking : route.isWorking = true) :
    isCall r = true ∧ (limiter.check (r.client.getD unknownClient) now).1 = true := by
  rw [handled?] at h
  split at h
  · next hin =>
    rw [Bool.and_eq_true, letIn] at hin
    obtain ⟨hasked, hlet⟩ := hin
    have hroute := (Option.filter_eq_some_iff.mp h).1
    have hcounted : r.path.startsWith uncountedStart = false := by
      rw [Bool.eq_false_iff]
      intro hstart
      rw [Route.eq_health_of_uncounted hroute hstart] at hworking
      cases hworking
    rw [isCounted, henabled, hcounted, if_pos (by decide)] at hlet
    exact ⟨by rw [isCall, hasked, hcounted]; rfl, hlet⟩
  · cases h

end Server

/-! ## Requests one after the other -/

/-- A request on its way in: when it comes and from which socket, if that is known. -/
structure Arrival where
  now : Nat
  peer : Option String
  /-- The id that the request gets if it brings none. -/
  freshId : String
  asked : Request

namespace Arrival

/-- The request as the server sees it, with the address of its peer. -/
def request (a : Arrival) : Request := { a.asked with client := a.peer.bind Address.ofSocket? }

/-- The name under which the limiter counts the peer. -/
def client (a : Arrival) : String := a.request.client.getD Server.unknownClient

/-- Is the arrival a call of an enabled limiter? -/
def isCall (a : Arrival) : Bool := Server.isCall a.request

/-- The call of the limiter that the arrival may be. -/
def call (a : Arrival) : LimiterCall := ⟨a.client, a.now⟩

end Arrival

/-- A request that comes in, and the limiter that it meets. -/
structure Visit where
  limiter : RateLimiter
  arrival : Arrival

namespace Visit

/-- The route whose handler the visit reaches. -/
def reached? (v : Visit) : Option Route :=
  Server.handled? v.limiter v.arrival.now v.arrival.request

/-- Does the visit reach a handler that works? -/
def reachesWork (v : Visit) : Bool := v.reached?.any Route.isWorking

/-- The plan that answers the visit. -/
def plan (policy : ServerPolicy) (v : Visit) : ServicePlan Response :=
  (Server.respond policy v.limiter v.arrival.now v.arrival.freshId v.arrival.request).1

/-- The limiter after the visit. -/
def after (policy : ServerPolicy) (v : Visit) : RateLimiter :=
  (Server.respond policy v.limiter v.arrival.now v.arrival.freshId v.arrival.request).2

/-- The answer of the limiter, if the visit is a call. -/
def checked (v : Visit) : Bool × RateLimiter := v.limiter.check v.arrival.client v.arrival.now

variable {policy : ServerPolicy} {v : Visit}

/-- A visit leaves the limiter alone unless it is a call. -/
theorem after_eq (h : v.limiter.enabled = true) :
    v.after policy = if v.arrival.isCall then v.checked.2 else v.limiter :=
  Server.respond_limiter h

/-- A visit that reaches a working handler is an admitted call. -/
theorem admitted (h : v.limiter.enabled = true) (hwork : v.reachesWork = true) :
    v.arrival.isCall = true ∧ v.checked.1 = true := by
  rw [reachesWork] at hwork
  cases hroute : v.reached? with
  | none =>
      rw [hroute] at hwork
      cases hwork
  | some route =>
      rw [hroute, Option.any_some] at hwork
      exact Server.admitted_of_handled h hroute hwork

end Visit

namespace Server

variable {policy : ServerPolicy} {n : Nat} {arrivals : List Arrival} {l : RateLimiter}

/-- The visits of requests that come one after the other. -/
def visits (policy : ServerPolicy) (limiter : RateLimiter) : List Arrival → List Visit
  | [] => []
  | a :: rest => ⟨limiter, a⟩ :: visits policy (Visit.after policy ⟨limiter, a⟩) rest

/-- What holds of every limiter that is met: its bound, and that it is well formed. -/
def Meets (n : Nat) (l : RateLimiter) : Prop := l.limit = n ∧ l.Distinct

/-- A limiter with a bound is enabled. -/
theorem Meets.enabled (h : Meets n l) (hn : 1 ≤ n) : l.enabled = true :=
  decide_eq_true (h.1 ▸ hn)

/-- What holds of the limiter holds after a visit as well. -/
theorem Meets.after (h : Meets n l) (policy : ServerPolicy) (a : Arrival) (hn : 1 ≤ n) :
    Meets n (Visit.after policy ⟨l, a⟩) := by
  rw [Visit.after_eq (h.enabled hn)]
  split
  · exact ⟨(RateLimiter.check_limit _ _ _).trans h.1, h.2.check _ _⟩
  · exact h

/-- All visits meet the same bound. -/
theorem Meets.visits (h : Meets n l) (hn : 1 ≤ n) :
    ∀ v ∈ visits policy l arrivals, Meets n v.limiter := by
  induction arrivals generalizing l with
  | nil => exact nofun
  | cons a rest ih =>
      rw [Server.visits]
      exact List.forall_mem_cons.mpr ⟨h, ih (h.after policy a hn)⟩

/-- **The visits that reach a working handler** are among the admitted calls of the limiter. -/
theorem Meets.reaching_sublist (h : Meets n l) (policy : ServerPolicy) (arrivals : List Arrival)
    (hn : 1 ≤ n) : (((Server.visits policy l arrivals).filter Visit.reachesWork).map
        fun v => (v.arrival.call, true)).Sublist
      (l.answers ((arrivals.filter Arrival.isCall).map Arrival.call)) := by
  induction arrivals generalizing l with
  | nil => exact List.Sublist.refl _
  | cons a rest ih =>
      have henabled := h.enabled hn
      have hrest := ih (h.after policy a hn)
      rw [Visit.after_eq henabled] at hrest
      rw [Server.visits, Visit.after_eq henabled]
      by_cases hcall : a.isCall = true
      · rw [if_pos hcall] at hrest ⊢
        rw [List.filter_cons_of_pos hcall, List.map_cons, RateLimiter.answers_cons]
        by_cases hwork : Visit.reachesWork ⟨l, a⟩ = true
        · have hok : (l.check a.call.client a.call.moment).1 = true :=
            (Visit.admitted henabled hwork).2
          rw [List.filter_cons_of_pos hwork, List.map_cons, hok]
          exact hrest.cons_cons _
        · rw [List.filter_cons_of_neg hwork]
          exact hrest.cons _
      · rw [if_neg hcall] at hrest ⊢
        have hidle : ¬ Visit.reachesWork ⟨l, a⟩ = true :=
          fun hwork => hcall (Visit.admitted henabled hwork).1
        rw [List.filter_cons_of_neg hidle, List.filter_cons_of_neg hcall]
        exact hrest

/-- **Every working handler is rate limited.**  Let a server with a limit of `n` requests within a
window, not zero, take any requests from any sockets, at moments that never go back.  Moments
and window may be counted in any unit.

* In a closed interval as long as the window at most `n` requests that are counted under one
  name reach a handler other than that of the health check.
* Sockets that differ in their ports only are counted under one name; so are all requests
  whose sockets are not known.
* A request that reaches a handler at all is answered by the plan of that handler, and every
  other one is answered without asking anything.
* A request that reaches a working handler was asked of the limiter, which admitted it and
  remembers it. -/
theorem handlers_rate_limited (policy : ServerPolicy) (window : Nat) (hn : 1 ≤ n)
    (h : arrivals.Pairwise fun a b => a.now ≤ b.now) :
    let visits := visits policy (.withWindow n window) arrivals
    (∀ client first, visits.countP (fun v => v.reachesWork && v.arrival.client == client &&
      first ≤ v.arrival.now && v.arrival.now ≤ first + window) ≤ n) ∧
    (∀ a b : Arrival, (∃ host port port', Address.isPort port = true ∧
        Address.isPort port' = true ∧ a.peer = some (host ++ ":" ++ port) ∧
        b.peer = some (host ++ ":" ++ port')) ∨ a.peer = none ∧ b.peer = none →
      a.client = b.client) ∧
    ∀ v ∈ visits,
      (match v.reached? with
      | some route => v.plan policy = do
          return finish policy v.arrival.freshId v.arrival.request
            (← Api.handle policy.api route v.arrival.request)
      | none => ∃ response, v.plan policy = .done response) ∧
      (v.reachesWork = true → v.checked.1 = true ∧ v.after policy = v.checked.2 ∧
        v.arrival.now ∈ (v.after policy).hitsOf v.arrival.client) := by
  intro visits
  have hmeets : Meets n (.withWindow n window) := ⟨rfl, List.nodup_nil⟩
  refine ⟨fun client first => ?_, ?_, fun v hv => ⟨respond_eq _ _ _ _ _, fun hwork => ?_⟩⟩
  · have hcalls : RateLimiter.InOrder ((arrivals.filter Arrival.isCall).map Arrival.call) :=
      List.Pairwise.map _ (fun _ _ hle => hle) (h.filter _)
    -- the calls of one name in the interval that were admitted
    let isHit : LimiterCall × Bool → Bool := fun e =>
      (first ≤ e.1.moment && e.1.moment ≤ first + window) &&
        (e.2 && e.1.client == client)
    have hsublist := hmeets.reaching_sublist policy arrivals hn
    calc visits.countP _
        = ((visits.filter Visit.reachesWork).map fun v => (v.arrival.call, true)).countP isHit := by
          rw [List.countP_map, List.countP_filter]
          refine List.countP_congr fun v _ => ?_
          simp only [Function.comp, isHit, Arrival.call, Bool.and_eq_true, decide_eq_true_eq]
          tauto
      _ ≤ _ := hsublist.countP_le
      _ = LimiterLog.between client first (first + window) (slidingAnswers n window [] _) := by
          rw [← RateLimiter.answers_withWindow n window hcalls, LimiterLog.between_eq]
      _ ≤ n := slidingAnswers_between client first
  · rintro a b (⟨host, port, port', hport, hport', ha, hb⟩ | ⟨ha, hb⟩)
    · rw [Arrival.client, Arrival.request, Arrival.client, Arrival.request, ha, hb,
        Option.bind_some, Option.bind_some, Address.ofSocket?_port_eq host hport hport']
    · rw [Arrival.client, Arrival.request, Arrival.client, Arrival.request, ha, hb]
  · have hv := hmeets.visits hn v hv
    obtain ⟨hcall, hok⟩ := Visit.admitted (hv.enabled hn) hwork
    have hafter : v.after policy = v.checked.2 := by
      rw [Visit.after_eq (hv.enabled hn), if_pos hcall]
    refine ⟨hok, hafter, ?_⟩
    rw [hafter]
    exact hv.2.mem_hitsOf_check hok

/-- A policy without a language model. -/
def plainPolicy : ServerPolicy := ⟨⟨"none", "none", .low⟩, .any⟩

/-- A client asks for a job, from another port for a render, beforehand for a render, for
something like the health check, and for the job again when a minute is over. -/
def hurriedArrivals : List Arrival := [
  ⟨0, some "1.2.3.4:1", "a", { method := "GET", target := "/status/x", headers := [], body := "" }⟩,
  ⟨7, some "1.2.3.4:2", "b", { method := "POST", target := "/render", headers := [], body := "" }⟩,
  ⟨7, some "1.2.3.4:2", "c",
    { method := "OPTIONS", target := "/render", headers := [], body := "" }⟩,
  ⟨60000, some "1.2.3.4:1", "d",
    { method := "GET", target := "/healthy", headers := [], body := "" }⟩,
  ⟨60001, some "1.2.3.4:3", "e",
    { method := "HEAD", target := "/status/x", headers := [], body := "" }⟩]

/-- Of the hurried requests the first and the last one reach a handler. -/
theorem hurried_arrivals_limited :
    let visits := visits plainPolicy (.perMinute 1) hurriedArrivals
    visits.map Visit.reachesWork = [true, false, false, false, true] ∧
      visits.countP (fun v => v.reachesWork && v.arrival.client == "1.2.3.4" &&
        1 ≤ v.arrival.now && v.arrival.now ≤ 1 + RateLimiter.minute) ≤ 1 := by
  have hordered : hurriedArrivals.Pairwise fun a b => a.now ≤ b.now := by
    unfold hurriedArrivals
    decide
  obtain ⟨hbound, -⟩ := handlers_rate_limited plainPolicy RateLimiter.minute (n := 1) (by decide)
    hordered
  exact ⟨by decide +kernel, hbound "1.2.3.4" 1⟩

end Server

end SceneRender
