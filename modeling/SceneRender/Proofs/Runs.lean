import SceneRender.Proofs.Stages

/-!
# Runs taken apart

A run of a plan is a course of it whose exchanges happen one after the other: each
begins in the state in which the last one ended.  Such a *chain* of exchanges can be cut
anywhere, and a run of two plans can be cut where the first goes over into the second.

`Plan.Follows.runs` sharpens `Plan.Follows.run`: when a fact about stages and states is
kept by every turn, what the fact tells about each exchange holds of the whole run.
-/

namespace SceneRender

namespace Plan

variable {V : Vocabulary} {α β ε τ σ : Type} {exchange exchange' : σ → Answered V → σ → Prop}
  {p : Plan V α} {s s' s'' : σ} {a : α}

/-! ## Cutting a run -/

/-- A plan that asks nothing changes nothing. -/
@[simp] theorem runs_done {b : α} :
    Runs exchange (.done a) s b s' ↔ b = a ∧ s' = s := by
  constructor
  · intro h
    cases h
    exact ⟨rfl, rfl⟩
  · rintro ⟨rfl, rfl⟩
    exact .done _ _

/-- The first exchange of a run is that of the plan's first question. -/
theorem runs_ask {q : V.Question} {next : V.Reply q → Plan V α} :
    Runs exchange (.ask q next) s a s'' ↔
      ∃ r s', exchange s ⟨q, r⟩ s' ∧ Runs exchange (next r) s' a s'' := by
  constructor
  · intro h
    cases h with
    | ask first rest => exact ⟨_, _, first, rest⟩
  · rintro ⟨r, s', first, rest⟩
    exact .ask first rest

/-- One question alone: one exchange. -/
theorem runs_question {q : V.Question} {r : V.Reply q} :
    Runs exchange (Plan.question q) s r s' ↔ exchange s ⟨q, r⟩ s' := by
  simp only [Plan.question, runs_ask, runs_done]
  constructor
  · rintro ⟨r', s'', first, rfl, rfl⟩
    exact first
  · intro first
    exact ⟨r, s', first, rfl, rfl⟩

/-- A run of two plans is a run of the first and then one of the second. -/
theorem runs_bind {f : α → Plan V β} {b : β} :
    Runs exchange (p >>= f) s b s'' ↔
      ∃ a s', Runs exchange p s a s' ∧ Runs exchange (f a) s' b s'' := by
  change Runs exchange (p.andThen f) s b s'' ↔ _
  induction p generalizing s with
  | done a =>
      simp only [andThen, runs_done]
      constructor
      · intro h
        exact ⟨a, s, ⟨rfl, rfl⟩, h⟩
      · rintro ⟨a', s', ⟨rfl, rfl⟩, h⟩
        exact h
  | ask q next ih =>
      simp only [andThen, runs_ask, ih]
      constructor
      · rintro ⟨r, s', first, a, middle, hp, hf⟩
        exact ⟨a, middle, ⟨r, s', first, hp⟩, hf⟩
      · rintro ⟨a, middle, ⟨r, s', first, hp⟩, hf⟩
        exact ⟨r, s', first, a, middle, hp, hf⟩

/-- With faults, either the first plan ends well and the second one follows, or its
fault is the end of both. -/
theorem runs_bind_run {x : ExceptT ε (Plan V) α} {f : α → ExceptT ε (Plan V) β}
    {r : Except ε β} :
    Runs exchange (x >>= f).run s r s'' ↔
      (∃ a s', Runs exchange x.run s (.ok a) s' ∧ Runs exchange (f a).run s' r s'') ∨
      ∃ e, Runs exchange x.run s (.error e) s'' ∧ r = .error e := by
  rw [ExceptT.run_bind, runs_bind]
  constructor
  · rintro ⟨a | a, s', hx, hf⟩
    · obtain ⟨rfl, rfl⟩ := runs_done.mp hf
      exact Or.inr ⟨a, hx, rfl⟩
    · exact Or.inl ⟨a, s', hx, hf⟩
  · rintro (⟨a, s', hx, hf⟩ | ⟨e, hx, rfl⟩)
    · exact ⟨.ok a, s', hx, hf⟩
    · exact ⟨.error e, s'', hx, .done _ _⟩

/-- A fact that every exchange preserves holds where a run ends. -/
theorem Runs.invariant {fact : σ → Prop} (h : Runs exchange p s a s') (hs : fact s)
    (hstep : ∀ s e s', exchange s e s' → fact s → fact s') : fact s' := by
  induction h with
  | done a s => exact hs
  | ask first rest ih => exact ih (hstep _ _ _ first hs)

/-- A run over states seen through a part of them. -/
theorem Runs.map {σ' : Type} {exchange' : σ' → Answered V → σ' → Prop} (view : σ → σ')
    (h : Runs exchange p s a s')
    (hview : ∀ s e s', exchange s e s' → exchange' (view s) e (view s')) :
    Runs exchange' p (view s) a (view s') := by
  induction h with
  | done a s => exact .done a _
  | ask first rest ih => exact .ask (hview _ _ _ first) ih

/-! ## Chains -/

/-- Exchanges that happen one after the other. -/
inductive Chain (exchange : σ → Answered V → σ → Prop) : σ → List (Answered V) → σ → Prop
  | nil (s : σ) : Chain exchange s [] s
  | cons {s s' s'' : σ} {e : Answered V} {calls : List (Answered V)}
      (first : exchange s e s') (rest : Chain exchange s' calls s'') :
      Chain exchange s (e :: calls) s''

/-- Without calls nothing changes. -/
@[simp] theorem chain_nil : Chain exchange s [] s' ↔ s' = s := by
  constructor
  · intro h
    cases h
    rfl
  · rintro rfl
    exact .nil _

/-- A chain begins with its first exchange. -/
@[simp] theorem chain_cons {e : Answered V} {calls : List (Answered V)} :
    Chain exchange s (e :: calls) s'' ↔
      ∃ s', exchange s e s' ∧ Chain exchange s' calls s'' := by
  constructor
  · intro h
    cases h with
    | cons first rest => exact ⟨_, first, rest⟩
  · rintro ⟨s', first, rest⟩
    exact .cons first rest

/-- A chain can be cut anywhere. -/
theorem chain_append {before after : List (Answered V)} :
    Chain exchange s (before ++ after) s'' ↔
      ∃ s', Chain exchange s before s' ∧ Chain exchange s' after s'' := by
  induction before generalizing s with
  | nil =>
      simp only [List.nil_append, chain_nil]
      constructor
      · intro h
        exact ⟨s, rfl, h⟩
      · rintro ⟨s', rfl, h⟩
        exact h
  | cons e before ih =>
      simp only [List.cons_append, chain_cons, ih]
      constructor
      · rintro ⟨s', first, middle, hbefore, hafter⟩
        exact ⟨middle, ⟨s', first, hbefore⟩, hafter⟩
      · rintro ⟨middle, ⟨s', first, hbefore⟩, hafter⟩
        exact ⟨s', first, middle, hbefore, hafter⟩

/-- **A run is a course whose exchanges are a chain.** -/
theorem Runs.course (h : Runs exchange p s a s') :
    ∃ calls, Course p calls a ∧ Chain exchange s calls s' := by
  induction h with
  | done a s => exact ⟨[], .done a, .nil s⟩
  | ask first rest ih =>
      obtain ⟨calls, hcourse, hchain⟩ := ih
      exact ⟨_ :: calls, .ask _ hcourse, .cons first hchain⟩

/-- A chain of exchanges is one of more permissive exchanges. -/
theorem Chain.mono {calls : List (Answered V)} (h : Chain exchange s calls s')
    (hmore : ∀ s e s', exchange s e s' → exchange' s e s') : Chain exchange' s calls s' := by
  induction h with
  | nil s => exact .nil s
  | cons first rest ih => exact .cons (hmore _ _ _ first) ih

/-- The transcript of a run over a state is the chain of its exchanges. -/
theorem chain_transcript (reply : (q : V.Question) → σ → V.Reply q × σ) (p : Plan V α) (s : σ) :
    Chain (fun s e s' => reply e.question s = (e.reply, s')) s (p.transcript reply s)
      (p.run reply s).2 := by
  induction p generalizing s with
  | done a => exact .nil s
  | ask q next ih => exact .cons rfl (ih _ _)

/-- A course whose exchanges are a chain is a run. -/
theorem Course.runs {calls : List (Answered V)} (h : Course p calls a)
    (hchain : Chain exchange s calls s') : Runs exchange p s a s' := by
  induction h generalizing s with
  | done a =>
      obtain rfl := chain_nil.mp hchain
      exact .done a _
  | ask r rest ih =>
      obtain ⟨middle, first, hrest⟩ := chain_cons.mp hchain
      exact .ask first (ih hrest)

/-- What a plan does when it is run over a state is a run. -/
theorem runs_run (reply : (q : V.Question) → σ → V.Reply q × σ) (p : Plan V α) (s : σ) :
    Runs (fun s e s' => reply e.question s = (e.reply, s')) p s (p.run reply s).1
      (p.run reply s).2 :=
  (course_transcript reply p s).runs (chain_transcript reply p s)

/-- An exchange that is also written down, the latest at the end. -/
def Logged (exchange : σ → Answered V → σ → Prop) (x : σ × List (Answered V)) (e : Answered V)
    (x' : σ × List (Answered V)) : Prop :=
  exchange x.1 e x'.1 ∧ x'.2 = x.2 ++ [e]

/-- A course whose exchanges are a chain is a run that writes them down. -/
theorem Course.logged {calls : List (Answered V)} (h : Course p calls a)
    (hchain : Chain exchange s calls s') (log : List (Answered V)) :
    Runs (Logged exchange) p (s, log) a (s', log ++ calls) := by
  induction h generalizing s log with
  | done a =>
      obtain rfl := chain_nil.mp hchain
      rw [List.append_nil]
      exact .done a _
  | @ask q next r calls a rest ih =>
      obtain ⟨middle, first, hrest⟩ := chain_cons.mp hchain
      have hsplit : log ++ ⟨q, r⟩ :: calls = (log ++ [⟨q, r⟩]) ++ calls := by simp
      rw [hsplit]
      exact .ask ⟨first, rfl⟩ (ih hrest (log ++ [⟨q, r⟩]))

/-! ## Facts along a run -/

variable {turn : τ → Answered V → τ → Prop} {ends : τ → α → Prop} {stage : τ}

/-- **From turns to the exchanges of a run.**  Under a fact that every turn preserves,
each exchange of the run has the properties that the fact gives it. -/
theorem Follows.runs {fact : τ → σ → Prop} (hp : p.Follows turn ends stage)
    (hrun : Runs exchange p s a s') (hs : fact stage s)
    (hstep : ∀ {stage e stage' s s'}, turn stage e stage' → exchange s e s' →
      fact stage s → fact stage' s' ∧ exchange' s e s') :
    Runs exchange' p s a s' ∧ ∃ stage', ends stage' a ∧ fact stage' s' := by
  induction hrun generalizing stage with
  | done a s => exact ⟨.done a s, stage, hp, hs⟩
  | ask first rest ih =>
      obtain ⟨stage', hturn, hrest⟩ := hp _
      obtain ⟨hfact, hexchange⟩ := hstep hturn first hs
      obtain ⟨hruns, hend⟩ := ih hrest hfact
      exact ⟨.ask hexchange hruns, hend⟩

end Plan

end SceneRender
