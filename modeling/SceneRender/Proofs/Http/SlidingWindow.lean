import Mathlib.Data.List.Induction
import Mathlib.Data.List.Nodup
import Mathlib.Data.List.TakeWhile
import SceneRender.Http.RateLimiter

/-!
# The window of the rate limiter

The limiter keeps a list of moments for each client, from which it drops what is too old when
the client calls again, and it forgets clients altogether now and then.  None of this shows:
a call is admitted exactly if fewer than the limit of the client's admitted calls lie within
the window before it (`slidingAnswers`), which is said of the calls and their answers alone.

What carries this is `Remembers`: of the admitted calls of each client the limiter holds all
but some that are already out of the window.  A sweep keeps it, because a client whose newest
call is out of the window has only such calls.  `exact_window` then reads everything else from
`slidingAnswers`: a sweep never changes an answer, clients do not touch each other, refused
calls leave no trace, and no interval as long as the window holds more admitted calls of a
client than the limit.
-/

namespace SceneRender

/-- A call of the limiter: who calls, and when. -/
structure LimiterCall where
  client : String
  moment : Nat
  deriving DecidableEq, Repr

/-- Calls with their answers, in order. -/
abbrev LimiterLog := List (LimiterCall × Bool)

/-! ## What the calls alone say -/

namespace LimiterLog

/-- The admitted calls of a client. -/
def admittedOf (client : String) (log : LimiterLog) : LimiterLog :=
  log.filter fun e => e.2 && e.1.client == client

/-- The moments of the admitted calls of a client. -/
def moments (client : String) (log : LimiterLog) : List Nat :=
  (admittedOf client log).map (·.1.moment)

/-- How many admitted calls of the same client lie within the window before a call. -/
def within (window : Nat) (log : LimiterLog) (call : LimiterCall) : Nat :=
  (moments call.client log).countP fun hit => call.moment - hit ≤ window

/-- How many admitted calls of a client lie in an interval. -/
def between (client : String) (first last : Nat) (log : LimiterLog) : Nat :=
  (moments client log).countP fun hit => first ≤ hit && hit ≤ last

variable {client other : String} {log earlier later : LimiterLog} {call : LimiterCall} {ok : Bool}

/-- The admitted calls of a client in an interval, counted at once. -/
theorem between_eq {first last : Nat} : between client first last log =
    log.countP fun e => (first ≤ e.1.moment && e.1.moment ≤ last) &&
      (e.2 && e.1.client == client) := by
  rw [between, moments, admittedOf, List.countP_map, List.countP_filter]
  rfl

/-- The moments of a longer log follow each other. -/
theorem moments_append : moments client (earlier ++ later) =
    moments client earlier ++ moments client later := by
  rw [moments, admittedOf, List.filter_append, List.map_append]
  rfl

/-- An admitted call adds its moment. -/
theorem moments_admitted : moments call.client [(call, true)] = [call.moment] := by
  simp [moments, admittedOf]

/-- A refused call adds nothing. -/
theorem moments_refused : moments client [(call, false)] = [] := by
  simp [moments, admittedOf]

/-- The calls of another client add nothing. -/
theorem moments_other (h : call.client ≠ client) : moments client [(call, ok)] = [] := by
  simp [moments, admittedOf, h]

/-- Refused calls are not counted. -/
theorem within_refused {window : Nat} {refused : LimiterCall} :
    within window (earlier ++ (refused, false) :: later) call =
      within window (earlier ++ later) call := by
  have hcons : (refused, false) :: later = [(refused, false)] ++ later := rfl
  rw [within, within, hcons, moments_append, moments_append, moments_append, moments_refused,
    List.nil_append]

/-- Calls of other clients are not counted. -/
theorem within_filter {window : Nat} (h : call.client = client) :
    within window (log.filter fun e => e.1.client == client) call = within window log call := by
  have hsame : ∀ e : LimiterCall × Bool,
      ((e.2 && e.1.client == client) && e.1.client == client) = (e.2 && e.1.client == client) := by
    intro e
    rw [Bool.and_assoc, Bool.and_self]
  rw [within, within, h, moments, moments, admittedOf, admittedOf, List.filter_filter]
  simp only [hsame]

end LimiterLog

open LimiterLog

/-- The answers of an exact sliding window: a call is admitted if fewer than `limit` of the
client's admitted calls lie within the window before it. -/
def slidingAnswers (limit window : Nat) (log : LimiterLog) : List LimiterCall → LimiterLog
  | [] => []
  | call :: rest =>
    let answer := (call, decide (within window log call < limit))
    answer :: slidingAnswers limit window (log ++ [answer]) rest

section Sliding

variable {limit window : Nat} {log : LimiterLog} {calls : List LimiterCall}

/-- Every call is answered, in order. -/
theorem slidingAnswers_calls (limit window : Nat) (log : LimiterLog) (calls : List LimiterCall) :
    (slidingAnswers limit window log calls).map (·.1) = calls := by
  induction calls generalizing log with
  | nil => rfl
  | cons call calls ih => rw [slidingAnswers, List.map_cons, ih]

/-- The answers to more calls go on from the log so far. -/
theorem slidingAnswers_append {later : List LimiterCall} :
    slidingAnswers limit window log (calls ++ later) =
      slidingAnswers limit window log calls ++
        slidingAnswers limit window (log ++ slidingAnswers limit window log calls) later := by
  induction calls generalizing log with
  | nil => simp [slidingAnswers]
  | cons call calls ih =>
      rw [List.cons_append, slidingAnswers, slidingAnswers, ih, List.cons_append,
        List.append_assoc, List.singleton_append]

/-- The answers from one call on are determined by those before it. -/
theorem slidingAnswers_split {earlier later : LimiterLog} {call : LimiterCall} {ok : Bool}
    (h : slidingAnswers limit window log calls = earlier ++ (call, ok) :: later) :
    slidingAnswers limit window log (earlier.map (·.1)) = earlier ∧
      ok = decide (within window (log ++ earlier) call < limit) ∧
      slidingAnswers limit window (log ++ earlier ++ [(call, ok)]) (later.map (·.1)) = later := by
  have hcalls : calls = earlier.map (·.1) ++ call :: later.map (·.1) := by
    rw [← slidingAnswers_calls limit window log calls, h]
    simp
  rw [hcalls, slidingAnswers_append] at h
  have hlength : (slidingAnswers limit window log (earlier.map (·.1))).length = earlier.length := by
    simpa using congrArg List.length
      (slidingAnswers_calls limit window log (earlier.map (·.1)))
  obtain ⟨hearlier, hrest⟩ := List.append_inj h hlength
  rw [hearlier, slidingAnswers, List.cons.injEq, Prod.mk.injEq] at hrest
  obtain ⟨⟨-, hok⟩, hlater⟩ := hrest
  refine ⟨hearlier, hok.symm, ?_⟩
  rw [← hok]
  exact hlater

/-- Two logs that count alike for every later call lead to the same answers. -/
theorem slidingAnswers_congr {log' : LimiterLog}
    (h : ∀ rest call, within window (log ++ rest) call = within window (log' ++ rest) call) :
    slidingAnswers limit window log calls = slidingAnswers limit window log' calls := by
  induction calls generalizing log log' with
  | nil => rfl
  | cons call calls ih =>
      have hnow : within window log call = within window log' call := by simpa using h [] call
      rw [slidingAnswers, slidingAnswers, hnow]
      refine congrArg _ (ih fun rest call => ?_)
      rw [List.append_assoc, List.append_assoc]
      exact h _ call

/-- A call that is refused might as well not have been made. -/
theorem slidingAnswers_refused {earlier later : LimiterLog} {call : LimiterCall}
    (h : slidingAnswers limit window log calls = earlier ++ (call, false) :: later) :
    slidingAnswers limit window log ((earlier ++ later).map (·.1)) = earlier ++ later := by
  obtain ⟨hearlier, -, hlater⟩ := slidingAnswers_split h
  rw [List.map_append, slidingAnswers_append, hearlier]
  refine congrArg _ ((slidingAnswers_congr fun rest next => ?_).trans hlater)
  rw [List.append_assoc (log ++ earlier), List.singleton_append, within_refused]

/-- The answers of a client are those that it would get alone. -/
theorem slidingAnswers_alone (client : String) :
    (slidingAnswers limit window log calls).filter (fun e => e.1.client == client) =
      slidingAnswers limit window (log.filter fun e => e.1.client == client)
        (calls.filter fun call => call.client == client) := by
  induction calls generalizing log with
  | nil => rfl
  | cons call calls ih =>
      rw [slidingAnswers, List.filter_cons, List.filter_cons, ih, List.filter_append]
      by_cases h : call.client = client
      · simp [h, slidingAnswers, within_filter h]
      · simp [h]

/-- **No interval as long as the window** holds more admitted calls of a client than the
limit.  The last one of them was admitted when all others were within its window. -/
theorem slidingAnswers_between (client : String) (first : Nat) :
    between client first (first + window) (slidingAnswers limit window [] calls) ≤ limit := by
  induction calls using List.reverseRecOn with
  | nil => simp [slidingAnswers, between, moments, admittedOf]
  | append_singleton calls call ih =>
      rw [slidingAnswers_append, List.nil_append, slidingAnswers, slidingAnswers]
      generalize slidingAnswers limit window [] calls = log at ih ⊢
      rw [between, moments_append, List.countP_append, ← between]
      by_cases hclient : call.client = client
      · subst hclient
        by_cases hok : within window log call < limit
        · rw [decide_eq_true hok, moments_admitted, List.countP_singleton]
          split
          · next hinside =>
            simp only [Bool.and_eq_true, decide_eq_true_eq] at hinside
            -- what lies in the interval is within the window of its last call
            have hle : between call.client first (first + window) log ≤ within window log call := by
              refine List.countP_mono_left fun hit _ hhit => ?_
              simp only [Bool.and_eq_true, decide_eq_true_eq] at hhit ⊢
              omega
            omega
          · exact ih
        · rw [decide_eq_false hok, moments_refused]
          exact ih
      · rw [moments_other hclient]
        exact ih

end Sliding

/-! ## What the limiter remembers -/

namespace RateLimiter

variable {l : RateLimiter} {client other : String} {hits : List Nat} {now t : Nat}

/-- No client is remembered twice. -/
def Distinct (l : RateLimiter) : Prop := (l.clients.map (·.client)).Nodup

variable {c : ClientHits}

/-- Nothing is remembered of a client without an entry. -/
theorem hitsOf_eq_nil (h : ∀ c ∈ l.clients, c.client ≠ client) : l.hitsOf client = [] := by
  have hnone : l.clients.find? (·.client == client) = none := by
    rw [List.find?_eq_none]
    intro c hc hname
    exact h c hc (beq_iff_eq.mp hname)
  rw [hitsOf, hnone]

/-- What is remembered of a client is what its entry says. -/
theorem Distinct.hitsOf (h : l.Distinct) (hc : c ∈ l.clients) : l.hitsOf c.client = c.hits := by
  rw [RateLimiter.hitsOf]
  split
  · next found hfound =>
    have hmem := List.mem_of_find?_eq_some hfound
    have hname : found.client = c.client := by simpa using List.find?_some hfound
    rw [List.inj_on_of_nodup_map h hmem hc hname]
  · next hnone =>
    rw [List.find?_eq_none] at hnone
    exact absurd (beq_self_eq_true c.client) (hnone c hc)

/-- The names of the clients after the moments of one were replaced. -/
theorem clients_setHits (l : RateLimiter) (client : String) (hits : List Nat) :
    (l.setHits client hits).clients.map (·.client) =
      if client ∈ l.clients.map (·.client) then l.clients.map (·.client)
      else l.clients.map (·.client) ++ [client] := by
  have hany : l.clients.any (·.client == client) = true ↔ client ∈ l.clients.map (·.client) := by
    simp
  rw [setHits]
  split
  · next hknown =>
    rw [if_pos (hany.mp hknown), List.map_map]
    refine List.map_congr_left fun c _ => ?_
    by_cases hc : c.client = client <;> simp [hc]
  · next hnew =>
    rw [if_neg fun hmem => hnew (hany.mpr hmem), List.map_append]
    rfl

/-- Noting hits keeps the clients distinct. -/
theorem Distinct.setHits (h : l.Distinct) (client : String) (hits : List Nat) :
    (l.setHits client hits).Distinct := by
  rw [Distinct, clients_setHits]
  split
  · exact h
  · next hnew =>
    rw [List.nodup_append]
    refine ⟨h, List.nodup_singleton client, fun name hname last hlast heq => ?_⟩
    rw [List.mem_singleton.mp hlast] at heq
    exact hnew (heq ▸ hname)

/-- The entry of a client after its moments were replaced. -/
theorem mem_setHits_self (l : RateLimiter) (client : String) (hits : List Nat) :
    ⟨client, hits⟩ ∈ (l.setHits client hits).clients := by
  rw [setHits]
  split
  · next hknown =>
    obtain ⟨c, hc, hname⟩ := List.any_eq_true.mp hknown
    exact List.mem_map.mpr ⟨c, hc, if_pos hname⟩
  · exact List.mem_append_right _ List.mem_cons_self

/-- The entries of other clients stay. -/
theorem mem_setHits_of_ne (hc : c.client ≠ client) :
    c ∈ (l.setHits client hits).clients ↔ c ∈ l.clients := by
  rw [setHits]
  split
  · rw [List.mem_map]
    constructor
    · rintro ⟨c', hc', rfl⟩
      split at hc
      · exact absurd rfl hc
      · next hother => rwa [if_neg hother]
    · intro hmem
      exact ⟨c, hmem, if_neg (by simpa using hc)⟩
  · have hnew : c ≠ ⟨client, hits⟩ := fun heq => hc (heq ▸ rfl)
    simp [hnew]

/-- What was noted of a client is remembered. -/
theorem Distinct.hitsOf_setHits (h : l.Distinct) (client : String) (hits : List Nat) :
    (l.setHits client hits).hitsOf client = hits :=
  (h.setHits client hits).hitsOf (mem_setHits_self l client hits)

/-- What is noted of a client changes nothing for the others. -/
theorem Distinct.hitsOf_setHits_ne (h : l.Distinct) (hits : List Nat) (hne : other ≠ client) :
    (l.setHits client hits).hitsOf other = l.hitsOf other := by
  by_cases hknown : ∃ c ∈ l.clients, c.client = other
  · obtain ⟨c, hc, rfl⟩ := hknown
    rw [h.hitsOf hc, (h.setHits client hits).hitsOf ((mem_setHits_of_ne hne).mpr hc)]
  · have hnone : ∀ c ∈ l.clients, c.client ≠ other := fun c hc hname => hknown ⟨c, hc, hname⟩
    rw [hitsOf_eq_nil hnone]
    refine hitsOf_eq_nil fun c hc hname => ?_
    exact hnone c ((mem_setHits_of_ne (hname ▸ hne)).mp hc) hname

/-- A sweep does nothing, or it keeps the clients that called within the window. -/
theorem sweep_cases (l : RateLimiter) (now : Nat) :
    l.sweep now = l ∨ (l.sweep now).clients = l.clients.filter (ClientHits.recent l.window now) := by
  rw [sweep]
  split
  · exact Or.inl rfl
  · exact Or.inr rfl

/-- A sweep keeps the clients distinct. -/
theorem Distinct.sweep (h : l.Distinct) (now : Nat) : (l.sweep now).Distinct := by
  rcases l.sweep_cases now with hsame | hkept
  · rwa [hsame]
  · rw [Distinct, hkept]
    exact h.sublist (List.Sublist.map _ List.filter_sublist)

/-- A sweep leaves a client alone, or forgets it because its newest call is too old. -/
theorem Distinct.hitsOf_sweep (h : l.Distinct) (now : Nat) (client : String) :
    (l.sweep now).hitsOf client = l.hitsOf client ∨
      (l.sweep now).hitsOf client = [] ∧
        ∀ newest ∈ (l.hitsOf client).getLast?, l.window < now - newest := by
  rcases l.sweep_cases now with hsame | hkept
  · exact Or.inl (congrArg (RateLimiter.hitsOf · client) hsame)
  · have hmem : ∀ {c : ClientHits}, c ∈ (l.sweep now).clients ↔
        c ∈ l.clients ∧ ClientHits.recent l.window now c = true := by
      rw [hkept]
      exact List.mem_filter
    by_cases hknown : ∃ c ∈ l.clients, c.client = client
    · obtain ⟨c, hc, rfl⟩ := hknown
      rw [h.hitsOf hc]
      by_cases hrecent : ClientHits.recent l.window now c = true
      · exact Or.inl ((h.sweep now).hitsOf (hmem.mpr ⟨hc, hrecent⟩))
      · refine Or.inr ⟨hitsOf_eq_nil fun c' hc' hname => ?_, fun newest hnewest => ?_⟩
        · -- the entry of the client is the only one of its name
          obtain ⟨hbefore, hstays⟩ := hmem.mp hc'
          rw [List.inj_on_of_nodup_map h hbefore hc hname] at hstays
          exact hrecent hstays
        · rw [ClientHits.recent, Option.mem_def.mp hnewest, Option.any_some,
            decide_eq_true_eq] at hrecent
          exact Nat.lt_of_not_le hrecent
    · have hnone : ∀ c ∈ l.clients, c.client ≠ client := fun c hc hname => hknown ⟨c, hc, hname⟩
      left
      rw [hitsOf_eq_nil hnone]
      exact hitsOf_eq_nil fun c hc => hnone c (hmem.mp hc).1

/-- A sweep keeps the window. -/
theorem sweep_window (l : RateLimiter) (now : Nat) : (l.sweep now).window = l.window := by
  rw [sweep]
  split <;> rfl

/-- A sweep keeps the limit. -/
theorem sweep_limit (l : RateLimiter) (now : Nat) : (l.sweep now).limit = l.limit := by
  rw [sweep]
  split <;> rfl

/-- Noting hits keeps the window. -/
theorem setHits_window (l : RateLimiter) (client : String) (hits : List Nat) :
    (l.setHits client hits).window = l.window := by
  rw [setHits]
  split <;> rfl

/-- Noting hits keeps the limit. -/
theorem setHits_limit (l : RateLimiter) (client : String) (hits : List Nat) :
    (l.setHits client hits).limit = l.limit := by
  rw [setHits]
  split <;> rfl

/-- A call that is answered without a sweep before it. -/
def answer (l : RateLimiter) (client : String) (now : Nat) : Bool × RateLimiter :=
  let recent := (l.hitsOf client).dropWhile fun oldest => l.window < now - oldest
  if l.limit ≤ recent.length then (false, l.setHits client recent)
  else (true, l.setHits client (recent ++ [now]))

/-- A check is a sweep and the answer after it. -/
theorem check_eq_answer (l : RateLimiter) (client : String) (now : Nat) :
    l.check client now = (l.sweep now).answer client now := by
  simp only [check, answer, sweep_window, sweep_limit]

/-- The calls with their answers, when one after the other is answered by `step`. -/
def answersBy (step : RateLimiter → String → Nat → Bool × RateLimiter) (l : RateLimiter) :
    List LimiterCall → LimiterLog
  | [] => []
  | call :: rest =>
    let (ok, l') := step l call.client call.moment
    (call, ok) :: answersBy step l' rest

/-- The calls with the limiter's answers. -/
def answers : RateLimiter → List LimiterCall → LimiterLog := answersBy check

/-- The first call is checked first. -/
theorem answers_cons (l : RateLimiter) (call : LimiterCall) (calls : List LimiterCall) :
    l.answers (call :: calls) =
      (call, (l.check call.client call.moment).1) ::
        (l.check call.client call.moment).2.answers calls := rfl

/-- The calls with the answers of a limiter that never sweeps. -/
def unsweptAnswers : RateLimiter → List LimiterCall → LimiterLog := answersBy answer

/-- What the limiter remembers after the calls of a log: of the admitted calls of each client
all but some that are out of the window. -/
structure Remembers (l : RateLimiter) (log : LimiterLog) (now : Nat) : Prop where
  distinct : l.Distinct
  kept : ∀ client, ∃ old, moments client log = old ++ l.hitsOf client ∧
    ∀ hit ∈ old, l.window < now - hit
  ordered : ∀ client, (moments client log).Pairwise (· ≤ ·)
  past : ∀ client, ∀ hit ∈ moments client log, hit ≤ now

variable {log : LimiterLog} {call : LimiterCall}

/-- A limiter without memory remembers an empty log. -/
theorem remembers_nothing (limit window now : Nat) :
    (withWindow limit window).Remembers [] now where
  distinct := List.nodup_nil
  kept _ := ⟨[], rfl, nofun⟩
  ordered _ := List.Pairwise.nil
  past _ := nofun

/-- Time may pass. -/
theorem Remembers.later (h : l.Remembers log now) (hle : now ≤ t) : l.Remembers log t where
  distinct := h.distinct
  kept client := by
    obtain ⟨old, hall, hold⟩ := h.kept client
    refine ⟨old, hall, fun hit hhit => ?_⟩
    have := hold hit hhit
    omega
  ordered := h.ordered
  past client hit hhit := Nat.le_trans (h.past client hit hhit) hle

/-- **A sweep forgets only what is out of the window.** -/
theorem Remembers.sweep (h : l.Remembers log now) : (l.sweep now).Remembers log now where
  distinct := h.distinct.sweep now
  kept client := by
    obtain ⟨old, hall, hold⟩ := h.kept client
    rw [sweep_window]
    rcases h.distinct.hitsOf_sweep now client with hsame | ⟨hgone, hnewest⟩
    · exact ⟨old, by rw [hsame, hall], hold⟩
    · refine ⟨moments client log, by rw [hgone, List.append_nil], fun hit hhit => ?_⟩
      have hordered := h.ordered client
      rw [hall] at hhit hordered
      rcases List.mem_append.mp hhit with hhit | hhit
      · exact hold hit hhit
      · -- no call of the client is younger than its newest one
        obtain ⟨front, newest, hfront⟩ :=
          List.eq_nil_or_concat (l.hitsOf client) |>.resolve_left (List.ne_nil_of_mem hhit)
        have hlast := hnewest newest (by simp [hfront])
        have hle : hit ≤ newest := by
          rw [hfront] at hhit
          have hpairs := (List.pairwise_append.mp hordered).2.1
          rw [hfront, List.concat_eq_append, List.pairwise_append] at hpairs
          rcases List.mem_append.mp (List.concat_eq_append ▸ hhit) with hhit | hhit
          · exact hpairs.2.2 hit hhit newest (by simp)
          · exact Nat.le_of_eq (by simpa using hhit)
        omega
  ordered := h.ordered
  past := h.past

/-- In a list that grows, dropping what is too old from the front keeps exactly what is not. -/
theorem dropWhile_old {window : Nat} {hits : List Nat} (h : hits.Pairwise (· ≤ ·)) :
    hits.dropWhile (fun hit => window < now - hit) = hits.filter (now - · ≤ window) := by
  induction hits with
  | nil => rfl
  | cons hit hits ih =>
      obtain ⟨hle, hrest⟩ := List.pairwise_cons.mp h
      rw [List.dropWhile_cons, List.filter_cons]
      by_cases hold : window < now - hit
      · rw [if_pos (decide_eq_true hold), if_neg (by simpa only [decide_eq_true_eq, Nat.not_le]),
          ih hrest]
      · rw [if_neg (by simpa only [decide_eq_true_eq]),
          if_pos (by simpa only [decide_eq_true_eq, Nat.not_lt] using hold)]
        -- what is younger than a call that is kept is kept as well
        have hkeep : hits.filter (now - · ≤ window) = hits := by
          rw [List.filter_eq_self]
          intro later hlater
          have := hle later hlater
          simp only [decide_eq_true_eq]
          omega
        rw [hkeep]

/-- **The calls that count** are exactly those that the limiter still holds and that are not
too old. -/
theorem Remembers.recent (h : l.Remembers log now) (client : String) :
    (l.hitsOf client).dropWhile (fun oldest => l.window < now - oldest) =
      (moments client log).filter (now - · ≤ l.window) := by
  obtain ⟨old, hall, hold⟩ := h.kept client
  have hordered := h.ordered client
  rw [hall] at hordered ⊢
  have hnone : old.filter (now - · ≤ l.window) = [] := by
    rw [List.filter_eq_nil_iff]
    intro hit hhit
    have := hold hit hhit
    simp only [decide_eq_true_eq]
    omega
  rw [dropWhile_old (List.pairwise_append.mp hordered).2.1, List.filter_append, hnone,
    List.nil_append]

/-- What is remembered after the moments of one client are brought up to date. -/
theorem Remembers.setHits {hits : List Nat} {ok : Bool} (h : l.Remembers log call.moment)
    (hhits : ∃ old, moments call.client (log ++ [(call, ok)]) = old ++ hits ∧
      ∀ hit ∈ old, l.window < call.moment - hit) :
    (l.setHits call.client hits).Remembers (log ++ [(call, ok)]) call.moment where
  distinct := h.distinct.setHits call.client hits
  kept client := by
    rw [setHits_window]
    by_cases hclient : call.client = client
    · subst hclient
      rw [h.distinct.hitsOf_setHits]
      exact hhits
    · rw [h.distinct.hitsOf_setHits_ne hits (Ne.symm hclient), moments_append, moments_other hclient,
        List.append_nil]
      exact h.kept client
  ordered client := by
    rw [moments_append, List.pairwise_append]
    refine ⟨h.ordered client, ?_, fun hit hhit last hlast => ?_⟩
    · exact List.Pairwise.map _ (fun _ _ h => h) (List.Pairwise.filter _ (by simp))
    · obtain ⟨e, he, rfl⟩ := List.mem_map.mp hlast
      obtain rfl : e = (call, ok) := by simpa using (List.mem_filter.mp he).1
      exact h.past client hit hhit
  past client hit hhit := by
    rw [moments_append] at hhit
    rcases List.mem_append.mp hhit with hhit | hhit
    · exact h.past client hit hhit
    · obtain ⟨e, he, rfl⟩ := List.mem_map.mp hhit
      obtain rfl : e = (call, ok) := by simpa using (List.mem_filter.mp he).1
      exact Nat.le_refl _

/-- **One call.**  The answer is that of the sliding window, and the limiter remembers it. -/
theorem Remembers.answer (h : l.Remembers log call.moment) :
    (l.answer call.client call.moment).1 = decide (within l.window log call < l.limit) ∧
      (l.answer call.client call.moment).2.Remembers
        (log ++ [(call, (l.answer call.client call.moment).1)]) call.moment := by
  have hcount : ((moments call.client log).filter (call.moment - · ≤ l.window)).length =
      within l.window log call := by
    rw [within, List.countP_eq_length_filter]
  -- dropping what is too old from the front splits the client's calls
  obtain ⟨old, hall, hold⟩ := h.kept call.client
  have hsplit := List.takeWhile_append_dropWhile
    (p := fun oldest => decide (l.window < call.moment - oldest)) (l := l.hitsOf call.client)
  have hdropped : ∀ hit ∈ (l.hitsOf call.client).takeWhile
      (fun oldest => decide (l.window < call.moment - oldest)), l.window < call.moment - hit := by
    intro hit hhit
    simpa using List.mem_takeWhile_imp hhit
  have hforgotten : ∀ hit ∈ old ++ (l.hitsOf call.client).takeWhile
      (fun oldest => decide (l.window < call.moment - oldest)), l.window < call.moment - hit := by
    intro hit hhit
    rcases List.mem_append.mp hhit with hhit | hhit
    · exact hold hit hhit
    · exact hdropped hit hhit
  have hmoments : moments call.client log =
      (old ++ (l.hitsOf call.client).takeWhile
        (fun oldest => decide (l.window < call.moment - oldest))) ++
      (l.hitsOf call.client).dropWhile (fun oldest => l.window < call.moment - oldest) := by
    rw [List.append_assoc, hsplit, hall]
  rw [RateLimiter.answer]
  split
  · next hfull =>
    rw [h.recent, hcount] at hfull
    refine ⟨by simpa using hfull, h.setHits ⟨_, ?_, hforgotten⟩⟩
    rw [moments_append, moments_refused, List.append_nil]
    exact hmoments
  · next hfree =>
    rw [h.recent, hcount] at hfree
    refine ⟨by simpa using hfree, h.setHits ⟨_, ?_, hforgotten⟩⟩
    rw [moments_append, moments_admitted, ← List.append_assoc, ← hmoments]

/-- An answer keeps the clients distinct. -/
theorem Distinct.answer (h : l.Distinct) (client : String) (now : Nat) :
    (l.answer client now).2.Distinct := by
  rw [RateLimiter.answer]
  split <;> exact h.setHits _ _

/-- A check keeps the clients distinct. -/
theorem Distinct.check (h : l.Distinct) (client : String) (now : Nat) :
    (l.check client now).2.Distinct := by
  rw [check_eq_answer]
  exact (h.sweep now).answer client now

/-- A call that is admitted is remembered. -/
theorem Distinct.mem_hitsOf_check (h : l.Distinct) (hok : (l.check client now).1 = true) :
    now ∈ (l.check client now).2.hitsOf client := by
  rw [check_eq_answer, RateLimiter.answer] at hok ⊢
  split at hok
  · cases hok
  · next hfree =>
    rw [if_neg hfree, (h.sweep now).hitsOf_setHits]
    exact List.mem_append_right _ List.mem_cons_self

/-- An answer keeps the window. -/
theorem answer_window (l : RateLimiter) (client : String) (now : Nat) :
    (l.answer client now).2.window = l.window := by
  rw [answer]
  split <;> exact setHits_window _ _ _

/-- An answer keeps the limit. -/
theorem answer_limit (l : RateLimiter) (client : String) (now : Nat) :
    (l.answer client now).2.limit = l.limit := by
  rw [answer]
  split <;> exact setHits_limit _ _ _

/-- A check keeps the limit. -/
theorem check_limit (l : RateLimiter) (client : String) (now : Nat) :
    (l.check client now).2.limit = l.limit := by
  rw [check_eq_answer, answer_limit, sweep_limit]

/-- Calls that come one after the other. -/
def InOrder (calls : List LimiterCall) : Prop := calls.Pairwise fun a b => a.moment ≤ b.moment

/-- Calls that come one after the other, none of them before `now`. -/
def ComeAfter (now : Nat) (calls : List LimiterCall) : Prop :=
  InOrder calls ∧ ∀ call ∈ calls, now ≤ call.moment

variable {calls : List LimiterCall}

/-- What one call has to do: it is answered as the sliding window says, and the limiter, whose
bounds stay, remembers the answer. -/
def Slides (step : RateLimiter → String → Nat → Bool × RateLimiter) : Prop :=
  ∀ {l : RateLimiter} {log : LimiterLog} {call : LimiterCall}, l.Remembers log call.moment →
    let (ok, l') := step l call.client call.moment
    ok = decide (within l.window log call < l.limit) ∧
      l'.Remembers (log ++ [(call, ok)]) call.moment ∧ l'.limit = l.limit ∧ l'.window = l.window

/-- Without sweeps the window slides. -/
theorem slides_answer : Slides answer :=
  fun h => ⟨h.answer.1, h.answer.2, answer_limit _ _ _, answer_window _ _ _⟩

/-- With sweeps the window slides just the same. -/
theorem slides_check : Slides check := by
  intro l log call h
  have hswept := slides_answer h.sweep
  rw [check_eq_answer]
  rwa [sweep_window, sweep_limit] at hswept

/-- **A run** of calls that are each answered as the sliding window says. -/
theorem Slides.answersBy {step : RateLimiter → String → Nat → Bool × RateLimiter}
    (hstep : Slides step) (h : l.Remembers log now) (hcalls : ComeAfter now calls) :
    answersBy step l calls = slidingAnswers l.limit l.window log calls := by
  induction calls generalizing l log now with
  | nil => rfl
  | cons call calls ih =>
      obtain ⟨horder, hafter⟩ := hcalls
      obtain ⟨hfirst, hrest⟩ := List.pairwise_cons.mp horder
      obtain ⟨hanswer, hnext, hlimit, hwindow⟩ := hstep (h.later (hafter call List.mem_cons_self))
      have htail := ih hnext ⟨hrest, hfirst⟩
      rw [hlimit, hwindow, hanswer] at htail
      rw [slidingAnswers, ← htail, ← hanswer]
      rfl

/-- The answers of a new limiter are those of the sliding window. -/
theorem answers_withWindow (limit window : Nat) (h : InOrder calls) :
    (withWindow limit window).answers calls = slidingAnswers limit window [] calls :=
  slides_check.answersBy (remembers_nothing limit window 0) ⟨h, fun _ _ => Nat.zero_le _⟩

/-- **The limiter is an exact sliding window.**  Let a new limiter be called by any clients, at
moments that never go back.

* Every call is answered, and it is admitted exactly if fewer than `limit` of the client's
  earlier admitted calls are not older than the window.
* The answers are those of a limiter that never sweeps.
* The answers of a client are those that it would get if nobody else called.
* A call that is refused changes no other answer.
* No closed interval as long as the window holds more than `limit` admitted calls of a
  client. -/
theorem exact_window (limit window : Nat) (h : InOrder calls) :
    let log := (withWindow limit window).answers calls
    log.map (·.1) = calls ∧
    (∀ earlier call ok later, log = earlier ++ (call, ok) :: later →
      (ok = true ↔ within window earlier call < limit)) ∧
    log = (withWindow limit window).unsweptAnswers calls ∧
    (∀ client, log.filter (fun e => e.1.client == client) =
      (withWindow limit window).answers (calls.filter fun call => call.client == client)) ∧
    (∀ earlier call later, log = earlier ++ (call, false) :: later →
      (withWindow limit window).answers ((earlier ++ later).map (·.1)) = earlier ++ later) ∧
    ∀ client first, between client first (first + window) log ≤ limit := by
  intro log
  have hlog : log = slidingAnswers limit window [] calls := answers_withWindow limit window h
  have hunswept := slides_answer.answersBy (remembers_nothing limit window 0)
    ⟨h, fun _ _ => Nat.zero_le _⟩
  rw [hlog]
  refine ⟨slidingAnswers_calls limit window [] calls, ?_, hunswept.symm, ?_, ?_, ?_⟩
  · intro earlier call ok later hsplit
    obtain ⟨-, hok, -⟩ := slidingAnswers_split hsplit
    rw [hok, List.nil_append, decide_eq_true_eq]
  · intro client
    rw [answers_withWindow limit window (List.Pairwise.filter _ h), slidingAnswers_alone]
    rfl
  · intro earlier call later hsplit
    have hcalls : calls = earlier.map (·.1) ++ call :: later.map (·.1) := by
      rw [← slidingAnswers_calls limit window [] calls, hsplit]
      simp
    have hrest : InOrder ((earlier ++ later).map (·.1)) := by
      rw [InOrder, hcalls] at h
      rw [List.map_append]
      exact h.sublist (List.Sublist.append (List.Sublist.refl _) (List.sublist_cons_self _ _))
    rw [answers_withWindow limit window hrest]
    exact slidingAnswers_refused hsplit
  · exact fun client first => slidingAnswers_between client first

/-- Two clients at a limiter of two calls in sixty moments. -/
def windowEdgeCalls : List LimiterCall :=
  [⟨"a", 0⟩, ⟨"a", 1⟩, ⟨"a", 60⟩, ⟨"b", 60⟩, ⟨"a", 61⟩, ⟨"a", 61⟩, ⟨"a", 62⟩]

/-- A call exactly at the edge of the window is counted, one moment later it is not. -/
theorem window_edge_exact :
    let log := (withWindow 2 60).answers windowEdgeCalls
    log.map (·.2) = [true, true, false, true, true, false, true] ∧
    log = (withWindow 2 60).unsweptAnswers windowEdgeCalls ∧
      between "a" 1 61 log ≤ 2 := by
  have horder : InOrder windowEdgeCalls := by
    unfold InOrder windowEdgeCalls
    decide
  obtain ⟨-, -, hunswept, -, -, hbetween⟩ := exact_window 2 60 horder
  exact ⟨by decide, hunswept, hbetween "a" 1⟩

end RateLimiter

end SceneRender
