import SceneRender.Proofs.Course

/-!
# Plans in stages

Where a plan stands between two questions can be told by a *stage*: what it has
learned and promised so far.  A relation of turns says which exchange leads from which
stage to which.  A plan follows the turns from a stage on if, whatever is replied, each
of its exchanges is a turn and its answer fits the stage in which it ends.

A fact about states that each turn preserves is then a fact about every run of the plan
(`Plan.Follows.run`).  A plan that is stopped between two questions still follows the
turns from the stage that it has reached, so that plans can also be run side by side.

What a plan *promises* (`Plan.Promises`) is what it does as long as it is told the truth.
-/

namespace SceneRender

namespace Plan

variable {V : Vocabulary} {α β γ ε τ σ : Type}

/-- The plan follows the turns from a stage on. -/
def Follows (turn : τ → Answered V → τ → Prop) (ends : τ → α → Prop) : Plan V α → τ → Prop
  | done a, stage => ends stage a
  | ask q next, stage =>
    ∀ r, ∃ stage', turn stage ⟨q, r⟩ stage' ∧ (next r).Follows turn ends stage'

/-- A run of a plan over states, with exchanges of a given kind. -/
inductive Runs (exchange : σ → Answered V → σ → Prop) : Plan V α → σ → α → σ → Prop
  | done (a : α) (s : σ) : Runs exchange (.done a) s a s
  | ask {q : V.Question} {next : V.Reply q → Plan V α} {r : V.Reply q} {s s' s'' : σ} {a : α}
      (first : exchange s ⟨q, r⟩ s') (rest : Runs exchange (next r) s' a s'') :
      Runs exchange (.ask q next) s a s''

variable {turn : τ → Answered V → τ → Prop} {ends ends' : τ → α → Prop} {p : Plan V α}
  {stage : τ}

/-! ## Following turns -/

/-- A plan that is done follows its turns if it may end where it stands. -/
@[simp] theorem follows_done {a : α} : (Plan.done a).Follows turn ends stage ↔ ends stage a :=
  Iff.rfl

/-- A plan that follows its turns to an end follows them to a weaker one. -/
theorem Follows.mono (h : p.Follows turn ends stage)
    (hends : ∀ stage a, ends stage a → ends' stage a) : p.Follows turn ends' stage := by
  induction p generalizing stage with
  | done a => exact hends stage a h
  | ask q next ih =>
      intro r
      obtain ⟨stage', hturn, hrest⟩ := h r
      exact ⟨stage', hturn, ih r hrest⟩

/-- One plan after another: the second follows the turns from where the first ends. -/
theorem follows_andThen {f : α → Plan V β} {ends : τ → β → Prop} :
    (p.andThen f).Follows turn ends stage ↔
      p.Follows turn (fun stage' a => (f a).Follows turn ends stage') stage := by
  induction p generalizing stage with
  | done a => exact Iff.rfl
  | ask q next ih =>
      simp only [andThen, Follows, ih]

/-- A plan and its sequel follow the turns one after the other. -/
theorem follows_bind {f : α → Plan V β} {ends : τ → β → Prop} :
    (p >>= f).Follows turn ends stage ↔
      p.Follows turn (fun stage' a => (f a).Follows turn ends stage') stage :=
  follows_andThen

/-- With faults, the second plan follows the turns where the first ends well, and a
fault is the end of both. -/
theorem follows_bind_run {x : ExceptT ε (Plan V) α} {f : α → ExceptT ε (Plan V) β}
    {ends : τ → Except ε β → Prop} :
    (x >>= f).run.Follows turn ends stage ↔
      x.run.Follows turn (fun stage' r =>
        match r with
        | .ok a => (f a).run.Follows turn ends stage'
        | .error e => ends stage' (.error e)) stage := by
  rw [ExceptT.run_bind, follows_bind]
  constructor <;> intro h <;> refine h.mono fun stage' r hr => ?_
  · cases r <;> exact hr
  · cases r <;> exact hr

/-- A plan without faults, taken as one that may have them, ends well. -/
theorem follows_lift_run {ends : τ → Except ε α → Prop} :
    (monadLift p : ExceptT ε (Plan V) α).run.Follows turn ends stage ↔
      p.Follows turn (fun stage' a => ends stage' (.ok a)) stage := by
  change (p.andThen fun a => .done (.ok a)).Follows turn ends stage ↔ _
  exact follows_andThen

/-! ## Runs -/

variable {exchange exchange' : σ → Answered V → σ → Prop} {s s' : σ} {a : α}

/-- Does every question of a run pass a check, in the state in which it is asked? -/
def holdsAlong (reply : (q : V.Question) → σ → V.Reply q × σ) (check : σ → V.Question → Bool) :
    Plan V α → σ → Bool
  | done _, _ => true
  | ask q next, s =>
    check s q && (next (reply q s).1).holdsAlong reply check (reply q s).2

/-- A run whose questions pass a check is a run of exchanges that do. -/
theorem runs_run_of_holdsAlong {reply : (q : V.Question) → σ → V.Reply q × σ}
    {check : σ → V.Question → Bool} {p : Plan V α} {s : σ}
    (h : p.holdsAlong reply check s = true) :
    Runs (fun s e s' => check s e.question = true ∧ reply e.question s = (e.reply, s')) p s
      (p.run reply s).1 (p.run reply s).2 := by
  induction p generalizing s with
  | done a => exact .done a s
  | ask q next ih =>
      rw [holdsAlong, Bool.and_eq_true] at h
      exact .ask ⟨h.1, rfl⟩ (ih _ h.2)

/-- A run whose exchanges all have a property is a run of exchanges that have it. -/
theorem runs_run_of_transcript {reply : (q : V.Question) → σ → V.Reply q × σ}
    {P : Answered V → Prop} {p : Plan V α} {s : σ} (h : ∀ e ∈ p.transcript reply s, P e) :
    Runs (fun s e s' => P e ∧ reply e.question s = (e.reply, s')) p s
      (p.run reply s).1 (p.run reply s).2 := by
  induction p generalizing s with
  | done a => exact .done a s
  | ask q next ih =>
      exact .ask ⟨h _ (List.mem_cons_self ..), rfl⟩
        (ih _ fun e he => h e (List.mem_cons_of_mem _ he))

/-- A run of exchanges is one of more permissive exchanges. -/
theorem Runs.mono (h : Runs exchange p s a s')
    (hmore : ∀ s e s', exchange s e s' → exchange' s e s') : Runs exchange' p s a s' := by
  induction h with
  | done a s => exact .done a s
  | ask first rest ih => exact .ask (hmore _ _ _ first) ih

/-- **From turns to runs.**  A fact about stages and states that every turn preserves
holds where the run ends, at a stage that fits the answer. -/
theorem Follows.run {fact : τ → σ → Prop} (hp : p.Follows turn ends stage)
    (hrun : Runs exchange p s a s') (hs : fact stage s)
    (hstep : ∀ {stage e stage' s s'}, turn stage e stage' → exchange s e s' →
      fact stage s → fact stage' s') :
    ∃ stage', ends stage' a ∧ fact stage' s' := by
  induction hrun generalizing stage with
  | done a s => exact ⟨stage, hp, hs⟩
  | ask first rest ih =>
      obtain ⟨stage', hturn, hrest⟩ := hp _
      exact ih hrest (hstep hturn first hs)

end Plan

/-!
## What a plan promises

What a plan does may depend on what it is told: it can only hand on good data if it was
given good data.  A plan *promises* that, as long as every reply is honest, each of its
exchanges is fair and its answer is as it should be.  Nothing is said of what comes after
a reply that is not honest.

A promise is about what is left of a plan, so it survives every exchange.  Plans that run
side by side, question by question, can therefore rely upon each other: what makes the
replies honest for one of them may be that the exchanges of all others were fair.
-/

namespace Plan

variable {V : Vocabulary} {α β ε τ : Type} {honest fair : Answered V → Prop} {ends : α → Prop}

/-- As long as every reply is honest, each exchange is fair and the answer fits. -/
def Promises (honest fair : Answered V → Prop) (ends : α → Prop) : Plan V α → Prop
  | done a => ends a
  | ask q next =>
    ∀ r, honest ⟨q, r⟩ → fair ⟨q, r⟩ ∧ (next r).Promises honest fair ends

/-- A plan that is done has kept its promises if it ends well. -/
@[simp] theorem promises_done {a : α} : (Plan.done a).Promises honest fair ends ↔ ends a :=
  Iff.rfl

/-- A plan that keeps its promises keeps them for a weaker end. -/
theorem Promises.mono {ends' : α → Prop} {p : Plan V α} (h : p.Promises honest fair ends)
    (hends : ∀ a, ends a → ends' a) : p.Promises honest fair ends' := by
  induction p with
  | done a => exact hends a h
  | ask q next ih =>
      intro r hr
      obtain ⟨hfair, hrest⟩ := h r hr
      exact ⟨hfair, ih r hrest⟩

/-- One plan after another: the first promises an answer from which on the second one keeps
its promise. -/
theorem promises_bind {p : Plan V α} {f : α → Plan V β} {ends : β → Prop} :
    (p >>= f).Promises honest fair ends ↔
      p.Promises honest fair fun a => (f a).Promises honest fair ends := by
  change (p.andThen f).Promises honest fair ends ↔ _
  induction p with
  | done a => exact Iff.rfl
  | ask q next ih => simp only [andThen, Promises, ih]

/-- With faults, the second plan goes on where the first ends well, and a fault is the end
of both. -/
theorem promises_bind_run {x : ExceptT ε (Plan V) α} {f : α → ExceptT ε (Plan V) β}
    {ends : Except ε β → Prop} :
    (x >>= f).run.Promises honest fair ends ↔
      x.run.Promises honest fair fun r =>
        match r with
        | .ok a => (f a).run.Promises honest fair ends
        | .error e => ends (.error e) := by
  rw [ExceptT.run_bind, promises_bind]
  constructor <;> intro h <;> refine h.mono fun r hr => ?_
  · cases r <;> exact hr
  · cases r <;> exact hr

/-- A plan whose turns are all fair promises nothing less, whatever it is told. -/
theorem Follows.promises {turn : τ → Answered V → τ → Prop} {ends : τ → α → Prop} {p : Plan V α}
    {stage : τ} (h : p.Follows turn ends stage)
    (hfair : ∀ stage e stage', turn stage e stage' → fair e) :
    p.Promises honest fair fun a => ∃ stage', ends stage' a := by
  induction p generalizing stage with
  | done a => exact ⟨stage, h⟩
  | ask q next ih =>
      intro r _
      obtain ⟨stage', hturn, hrest⟩ := h r
      exact ⟨hfair _ _ _ hturn, ih r hrest⟩

end Plan

end SceneRender
