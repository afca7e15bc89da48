import Mathlib.Data.List.Dedup
import Mathlib.Data.List.Perm.Subperm
import SceneRender.Proofs.Http.SlidingWindow

/-!
# The memory of the rate limiter

A sweep runs at most once per window and looks only at the newest moment of each client, so a
client may stay for a while after its last call.  How long is what `Current` says: every client
that is remembered called at most one window before the last sweep, and the last sweep lies less
than a window back.  `memory_follows_traffic` adds the two: whoever is remembered called within
the last two windows, however many clients there were before.
-/

namespace SceneRender

namespace RateLimiter

variable {l : RateLimiter} {calls : List LimiterCall} {call : LimiterCall} {c : ClientHits}
  {now t : Nat}

/-- The limiter after some calls. -/
def after (l : RateLimiter) (calls : List LimiterCall) : RateLimiter :=
  calls.foldl (fun l call => (l.check call.client call.moment).2) l

/-- The last call is checked after the others. -/
theorem after_concat (l : RateLimiter) (calls : List LimiterCall) (call : LimiterCall) :
    l.after (calls ++ [call]) = ((l.after calls).check call.client call.moment).2 := by
  rw [after, after, List.foldl_append]
  rfl

/-- The clients that called at most `span` before a moment, each once. -/
def callersWithin (span now : Nat) (calls : List LimiterCall) : List String :=
  ((calls.filter fun call => now - call.moment ≤ span).map (·.client)).dedup

/-- What the memory of a limiter has to do with the calls up to a moment. -/
structure Current (l : RateLimiter) (calls : List LimiterCall) (now : Nat) : Prop where
  distinct : l.Distinct
  /-- Every moment that is remembered of a client is one of its calls. -/
  called : ∀ c ∈ l.clients, ∀ hit ∈ c.hits, ⟨c.client, hit⟩ ∈ calls
  bounded : ∀ c ∈ l.clients, c.hits.length ≤ l.limit
  /-- Every client called since a window before the last sweep. -/
  awake : ∀ c ∈ l.clients, ∃ call ∈ calls, call.client = c.client ∧
    ∀ last ∈ l.lastSweep, last ≤ call.moment + l.window
  swept : ∀ last ∈ l.lastSweep, last ≤ now
  past : ∀ call ∈ calls, call.moment ≤ now

/-- A limiter without memory is current. -/
theorem current_nothing (limit window now : Nat) :
    (withWindow limit window).Current [] now where
  distinct := List.nodup_nil
  called := nofun
  bounded := nofun
  awake := nofun
  swept := nofun
  past := nofun

/-- Time may pass. -/
theorem Current.later (h : l.Current calls now) (hle : now ≤ t) : l.Current calls t where
  distinct := h.distinct
  called := h.called
  bounded := h.bounded
  awake := h.awake
  swept last hlast := Nat.le_trans (h.swept last hlast) hle
  past call hcall := Nat.le_trans (h.past call hcall) hle

/-- A sweep is not due, or it is done now and keeps the clients that called within the window. -/
theorem sweep_parts (l : RateLimiter) (now : Nat) :
    (l.sweep now = l ∧ ∃ last ∈ l.lastSweep, now - last < l.window) ∨
      (l.sweep now).lastSweep = some now ∧
        (l.sweep now).clients = l.clients.filter (ClientHits.recent l.window now) := by
  rw [sweep]
  split
  · next hearly =>
    obtain ⟨last, hlast, hless⟩ := (Option.any_eq_true _ _).mp hearly
    exact Or.inl ⟨rfl, last, hlast, of_decide_eq_true hless⟩
  · exact Or.inr ⟨rfl, rfl⟩

/-- **After a sweep** or without one, the last sweep is less than a window ago or was done now. -/
theorem sweep_due (l : RateLimiter) (now : Nat) :
    ∃ last ∈ (l.sweep now).lastSweep, now - last < l.window ∨ last = now := by
  rcases l.sweep_parts now with ⟨hsame, last, hlast, hless⟩ | ⟨hnow, -⟩
  · exact ⟨last, hsame.symm ▸ hlast, Or.inl hless⟩
  · exact ⟨now, hnow, Or.inr rfl⟩

/-- A sweep forgets nobody who is still about. -/
theorem Current.sweep (h : l.Current calls now) : (l.sweep now).Current calls now := by
  have hwindow := l.sweep_window now
  have hlimit := l.sweep_limit now
  rcases l.sweep_parts now with ⟨hsame, -⟩ | ⟨hnow, hkept⟩
  · rwa [hsame]
  · have hmem : ∀ c ∈ (l.sweep now).clients,
        c ∈ l.clients ∧ ClientHits.recent l.window now c = true := by
      intro c hc
      rwa [hkept, List.mem_filter] at hc
    have hlast : ∀ last ∈ (l.sweep now).lastSweep, last = now := by
      intro last hlast
      rw [hnow] at hlast
      exact (Option.some.inj hlast).symm
    refine ⟨h.distinct.sweep now, fun c hc => h.called c (hmem c hc).1, fun c hc => ?_,
      fun c hc => ?_, fun last h => Nat.le_of_eq (hlast last h), h.past⟩
    · rw [hlimit]
      exact h.bounded c (hmem c hc).1
    · -- the newest moment that kept the client is one of its calls
      obtain ⟨hbefore, hrecent⟩ := hmem c hc
      obtain ⟨newest, hnewest, hyoung⟩ := (Option.any_eq_true _ _).mp hrecent
      have hcall := h.called c hbefore newest (List.mem_of_getLast? hnewest)
      refine ⟨_, hcall, rfl, fun last h => ?_⟩
      have hyoung : now - newest ≤ l.window := of_decide_eq_true hyoung
      rw [hlast last h, hwindow]
      exact Nat.sub_le_iff_le_add'.mp hyoung

/-- The entries after the moments of one client were replaced: its own, and the others. -/
theorem mem_setHits_cases {client : String} {hits : List Nat}
    (hc : c ∈ (l.setHits client hits).clients) : c = ⟨client, hits⟩ ∨ c ∈ l.clients := by
  rw [setHits] at hc
  split at hc
  · obtain ⟨c', hc', rfl⟩ := List.mem_map.mp hc
    split
    · exact Or.inl rfl
    · exact Or.inr hc'
  · rcases List.mem_append.mp hc with hc | hc
    · exact Or.inr hc
    · exact Or.inl (List.mem_singleton.mp hc)

/-- Noting a hit is no sweep. -/
theorem setHits_lastSweep (l : RateLimiter) (client : String) (hits : List Nat) :
    (l.setHits client hits).lastSweep = l.lastSweep := by
  rw [setHits]
  split <;> rfl

/-- Bringing the moments of the calling client up to date. -/
theorem Current.setHits {hits : List Nat} (h : l.Current calls call.moment)
    (hhits : ∀ hit ∈ hits, ⟨call.client, hit⟩ ∈ calls ++ [call]) (hcount : hits.length ≤ l.limit) :
    (l.setHits call.client hits).Current (calls ++ [call]) call.moment where
  distinct := h.distinct.setHits call.client hits
  called c hc hit hhit := by
    rcases mem_setHits_cases hc with rfl | hc
    · exact hhits hit hhit
    · exact List.mem_append_left _ (h.called c hc hit hhit)
  bounded c hc := by
    rw [setHits_limit]
    rcases mem_setHits_cases hc with rfl | hc
    · exact hcount
    · exact h.bounded c hc
  awake c hc := by
    rw [setHits_lastSweep, setHits_window]
    rcases mem_setHits_cases hc with rfl | hc
    · refine ⟨call, List.mem_append_right _ List.mem_cons_self, rfl, fun last hlast => ?_⟩
      exact Nat.le_add_right_of_le (h.swept last hlast)
    · obtain ⟨earlier, hearlier, hname, hawake⟩ := h.awake c hc
      exact ⟨earlier, List.mem_append_left _ hearlier, hname, hawake⟩
  swept last hlast := h.swept last (setHits_lastSweep l _ _ ▸ hlast)
  past earlier hearlier := by
    rcases List.mem_append.mp hearlier with hearlier | hearlier
    · exact h.past earlier hearlier
    · rw [List.mem_singleton.mp hearlier]

/-- Nothing is remembered of a client, or its entry is there. -/
theorem hitsOf_cases (l : RateLimiter) (client : String) :
    l.hitsOf client = [] ∨ ∃ c ∈ l.clients, c.client = client ∧ l.hitsOf client = c.hits := by
  rw [hitsOf]
  split
  · next c hfound =>
    exact Or.inr ⟨c, List.mem_of_find?_eq_some hfound, by simpa using List.find?_some hfound, rfl⟩
  · exact Or.inl rfl

/-- **One call without a sweep.**  Of a client that is refused no more is kept than before; one
that is admitted had fewer moments than the limit. -/
theorem Current.answer (h : l.Current calls call.moment) :
    (l.answer call.client call.moment).2.Current (calls ++ [call]) call.moment := by
  obtain ⟨hheld, hcount⟩ : (∀ hit ∈ l.hitsOf call.client, ⟨call.client, hit⟩ ∈ calls) ∧
      (l.hitsOf call.client).length ≤ l.limit := by
    rcases l.hitsOf_cases call.client with hnone | ⟨c, hc, hname, hhits⟩
    · rw [hnone]
      exact ⟨nofun, Nat.zero_le _⟩
    · rw [hhits, ← hname]
      exact ⟨h.called c hc, h.bounded c hc⟩
  have hkept := List.dropWhile_sublist (fun oldest => decide (l.window < call.moment - oldest))
    (l := l.hitsOf call.client)
  have hrecent : ∀ hit ∈ (l.hitsOf call.client).dropWhile
      (fun oldest => decide (l.window < call.moment - oldest)),
      ⟨call.client, hit⟩ ∈ calls ++ [call] :=
    fun hit hhit => List.mem_append_left _ (hheld hit (hkept.subset hhit))
  rw [RateLimiter.answer]
  split
  · exact h.setHits hrecent (Nat.le_trans hkept.length_le hcount)
  · next hfree =>
    refine h.setHits (fun hit hhit => ?_) ?_
    · rcases List.mem_append.mp hhit with hhit | hhit
      · exact hrecent hit hhit
      · rw [List.mem_singleton.mp hhit]
        exact List.mem_append_right _ List.mem_cons_self
    · rw [List.length_append, List.length_singleton]
      exact Nat.lt_of_not_le hfree

/-- **One call** keeps the memory current. -/
theorem Current.check (h : l.Current calls call.moment) :
    (l.check call.client call.moment).2.Current (calls ++ [call]) call.moment := by
  rw [check_eq_answer]
  exact h.sweep.answer

/-- Answering a call is no sweep. -/
theorem answer_lastSweep (l : RateLimiter) (client : String) (now : Nat) :
    (l.answer client now).2.lastSweep = l.lastSweep := by
  rw [answer]
  split <;> exact setHits_lastSweep _ _ _

/-- After a call the last sweep is less than a window ago, or it was done for this call. -/
theorem check_due (l : RateLimiter) (client : String) (now : Nat) :
    ∃ last ∈ (l.check client now).2.lastSweep, now - last < l.window ∨ last = now := by
  rw [check_eq_answer, answer_lastSweep]
  exact l.sweep_due now

/-- A check keeps the window. -/
theorem check_window (l : RateLimiter) (client : String) (now : Nat) :
    (l.check client now).2.window = l.window := by
  rw [check_eq_answer, answer_window, sweep_window]

/-- The bounds of a limiter do not change. -/
theorem after_bounds (l : RateLimiter) (calls : List LimiterCall) :
    (l.after calls).limit = l.limit ∧ (l.after calls).window = l.window := by
  induction calls generalizing l with
  | nil => exact ⟨rfl, rfl⟩
  | cons call calls ih =>
      have hrest := ih (l.check call.client call.moment).2
      rwa [check_limit, check_window] at hrest

/-- **A run** of calls in order keeps the memory current. -/
theorem current_after (limit window : Nat) (h : InOrder calls)
    (hnow : ∀ call ∈ calls, call.moment ≤ now) :
    ((withWindow limit window).after calls).Current calls now := by
  induction calls using List.reverseRecOn generalizing now with
  | nil => exact current_nothing limit window now
  | append_singleton calls call ih =>
      obtain ⟨horder, -, hbefore⟩ := List.pairwise_append.mp h
      have hpast := ih horder fun earlier hearlier => hbefore earlier hearlier call (by simp)
      rw [after_concat]
      exact hpast.check.later (hnow call (by simp))

/-- The client that called last is remembered. -/
theorem caller_mem_check (l : RateLimiter) (client : String) (now : Nat) :
    ∃ c ∈ (l.check client now).2.clients, c.client = client := by
  rw [check_eq_answer, answer]
  split <;> exact ⟨_, mem_setHits_self _ _ _, rfl⟩

/-- **The memory follows the traffic.**  Let a new limiter be called by any clients, at moments
that never go back, and look at it after the last of these calls.

* Every client that is remembered called within the last two windows, and no more than `limit`
  moments are remembered of it; the client that called last is one of them.
* So there are at most as many of them as clients that called within the last two windows. -/
theorem memory_follows_traffic (limit window : Nat) (earlier : List LimiterCall)
    (call : LimiterCall) (h : InOrder (earlier ++ [call])) :
    let calls := earlier ++ [call]
    let l := (withWindow limit window).after calls
    (∀ c ∈ l.clients,
      (∃ seen ∈ calls, seen.client = c.client ∧ call.moment ≤ seen.moment + 2 * window ∧
        seen.moment ≤ call.moment) ∧
      c.hits.length ≤ limit) ∧
    (∃ c ∈ l.clients, c.client = call.client) ∧
    l.trackedClients ≤ (callersWithin (2 * window) call.moment calls).length := by
  intro calls l
  have hpast : ∀ seen ∈ calls, seen.moment ≤ call.moment := by
    intro seen hseen
    rcases List.mem_append.mp hseen with hseen | hseen
    · exact (List.pairwise_append.mp h).2.2 seen hseen call (by simp)
    · rw [List.mem_singleton.mp hseen]
  have hcurrent : l.Current calls call.moment := current_after limit window h hpast
  have hlimit : l.limit = limit := (after_bounds _ calls).1
  have hwindow : ∀ calls, ((withWindow limit window).after calls).window = window :=
    fun calls => (after_bounds _ calls).2
  have hl : l = (((withWindow limit window).after earlier).check call.client call.moment).2 :=
    after_concat _ _ _
  obtain ⟨last, hlast, hdue⟩ := check_due ((withWindow limit window).after earlier) call.client
    call.moment
  have hseen : ∀ c ∈ l.clients, ∃ seen ∈ calls, seen.client = c.client ∧
      call.moment ≤ seen.moment + 2 * window ∧ seen.moment ≤ call.moment := by
    intro c hc
    obtain ⟨seen, hseen, hname, hawake⟩ := hcurrent.awake c hc
    have hsweep := hawake last (hl ▸ hlast)
    rw [hwindow] at hsweep hdue
    exact ⟨seen, hseen, hname, by omega, hpast seen hseen⟩
  refine ⟨fun c hc => ⟨hseen c hc, ?_⟩, ?_, ?_⟩
  · rw [← hlimit]
    exact hcurrent.bounded c hc
  · rw [hl]
    exact caller_mem_check _ _ _
  · -- no client is remembered twice, and each is among the callers
    have hsubset : l.clients.map (·.client) ⊆ callersWithin (2 * window) call.moment calls := by
      intro name hmem
      obtain ⟨c, hc, rfl⟩ := List.mem_map.mp hmem
      obtain ⟨seen, hcall, hname, hlate, -⟩ := hseen c hc
      refine List.mem_dedup.mpr (List.mem_map.mpr ⟨seen, List.mem_filter.mpr ⟨hcall, ?_⟩, hname⟩)
      exact decide_eq_true (Nat.sub_le_iff_le_add'.mpr hlate)
    calc l.trackedClients = (l.clients.map (·.client)).length := (List.length_map _).symm
      _ ≤ _ := (List.subperm_of_subset hcurrent.distinct hsubset).length_le

/-- Clients at a limiter of one call in ten moments. -/
def idleClientCalls : List LimiterCall := [⟨"a", 0⟩, ⟨"b", 10⟩, ⟨"c", 19⟩, ⟨"d", 20⟩]

/-- A client that fell silent is remembered for almost two windows; the next sweep forgets it. -/
theorem idle_client_forgotten :
    let lingering := (withWindow 1 10).after (idleClientCalls.take 3)
    let swept := (withWindow 1 10).after idleClientCalls
    lingering.clients.map (·.client) = ["a", "b", "c"] ∧
    swept.clients.map (·.client) = ["b", "c", "d"] ∧
    swept.trackedClients ≤ (callersWithin (2 * 10) 20 idleClientCalls).length := by
  have horder : InOrder idleClientCalls := by
    unfold InOrder idleClientCalls
    decide
  exact ⟨by decide, by decide, (memory_follows_traffic 1 10 (idleClientCalls.take 3) ⟨"d", 20⟩
    horder).2.2⟩

end RateLimiter

end SceneRender
