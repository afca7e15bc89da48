import SceneRender.Plan

/-!
# Courses of a plan

A plan does not say what it is replied.  A *course* of a plan is one way in which
it can go: the questions that it asks, in order, each with some reply, and the
answer that it ends with.  The replies are not restricted at all, so what holds in
every course holds whatever the surroundings do.

* `course_andThen`, `course_bind_run` split a course where one plan goes over into
  the next; with faults, the second plan may never be reached.
* `course_transcript` says that a run over a state is one of the courses, so that a
  fact about all courses is a fact about every run.
-/

namespace SceneRender

/-- A question that was asked, with the reply to it. -/
structure Answered (V : Vocabulary) where
  question : V.Question
  reply : V.Reply question

namespace Plan

variable {V : Vocabulary} {α β ε σ : Type}

/-- The courses of a plan, with any replies at all. -/
inductive Course : Plan V α → List (Answered V) → α → Prop
  | done (a : α) : Course (.done a) [] a
  | ask {q : V.Question} {next : V.Reply q → Plan V α} (r : V.Reply q)
      {h : List (Answered V)} {a : α} (rest : Course (next r) h a) :
      Course (.ask q next) (⟨q, r⟩ :: h) a

/-- A plan that asks nothing has one course. -/
@[simp] theorem course_done {a b : α} {h : List (Answered V)} :
    Course (.done a) h b ↔ h = [] ∧ b = a := by
  constructor
  · intro hc
    cases hc
    exact ⟨rfl, rfl⟩
  · rintro ⟨rfl, rfl⟩
    exact .done _

/-- The first exchange of a plan that asks is its own question. -/
theorem course_ask {q : V.Question} {next : V.Reply q → Plan V α}
    {h : List (Answered V)} {a : α} :
    Course (.ask q next) h a ↔ ∃ r rest, h = ⟨q, r⟩ :: rest ∧ Course (next r) rest a := by
  constructor
  · intro hc
    cases hc with
    | ask r rest => exact ⟨r, _, rfl, rest⟩
  · rintro ⟨r, rest, rfl, hc⟩
    exact .ask r hc

/-- One question alone: one exchange, answered by its reply. -/
theorem course_question {q : V.Question} {h : List (Answered V)} {a : V.Reply q} :
    Course (Plan.question q) h a ↔ h = [⟨q, a⟩] := by
  simp only [Plan.question, course_ask, course_done]
  constructor
  · rintro ⟨r, rest, rfl, rfl, rfl⟩
    rfl
  · rintro rfl
    exact ⟨a, [], rfl, rfl, rfl⟩

/-- A course of two plans is a course of the first and then one of the second. -/
theorem course_andThen {p : Plan V α} {f : α → Plan V β} {h : List (Answered V)} {b : β} :
    Course (p.andThen f) h b ↔
      ∃ before after a, h = before ++ after ∧ Course p before a ∧ Course (f a) after b := by
  induction p generalizing h with
  | done a =>
      constructor
      · intro hc
        exact ⟨[], h, a, rfl, .done a, hc⟩
      · rintro ⟨before, after, a', rfl, hp, hf⟩
        obtain ⟨rfl, rfl⟩ := course_done.mp hp
        exact hf
  | ask q next ih =>
      simp only [andThen, course_ask]
      constructor
      · rintro ⟨r, rest, rfl, hc⟩
        obtain ⟨before, after, a, rfl, hp, hf⟩ := (ih r).mp hc
        exact ⟨_ :: before, after, a, rfl, ⟨r, before, rfl, hp⟩, hf⟩
      · rintro ⟨before, after, a, rfl, ⟨r, rest, rfl, hp⟩, hf⟩
        exact ⟨r, rest ++ after, rfl, (ih r).mpr ⟨rest, after, a, rfl, hp, hf⟩⟩

/-- The monad's way to put two plans one after the other. -/
theorem course_bind {p : Plan V α} {f : α → Plan V β} {h : List (Answered V)} {b : β} :
    Course (p >>= f) h b ↔
      ∃ before after a, h = before ++ after ∧ Course p before a ∧ Course (f a) after b :=
  course_andThen

/-- **A plan stops where it stops**: what was replied tells where its course ends. -/
theorem Course.split_unique {p : Plan V α} {before before' after after' : List (Answered V)}
    {a a' : α} (h : Course p before a) (h' : Course p before' a')
    (heq : before ++ after = before' ++ after') : before = before' ∧ after = after' := by
  induction h generalizing before' with
  | done a =>
      obtain ⟨rfl, -⟩ := course_done.mp h'
      exact ⟨rfl, heq⟩
  | @ask q next r before a rest ih =>
      obtain ⟨r', rest', rfl, hrest⟩ := course_ask.mp h'
      obtain ⟨hfirst, hlast⟩ := List.cons.inj heq
      cases hfirst
      obtain ⟨rfl, rfl⟩ := ih hrest hlast
      exact ⟨rfl, rfl⟩

/-! ## Plans that may end in a fault -/

/-- **Faults cut a course short.**  Either the first plan ends well and the second
one follows, or its fault is the end of both. -/
theorem course_bind_run {x : ExceptT ε (Plan V) α} {f : α → ExceptT ε (Plan V) β}
    {h : List (Answered V)} {r : Except ε β} :
    Course (x >>= f).run h r ↔
      (∃ before after a, h = before ++ after ∧ Course x.run before (.ok a) ∧
        Course (f a).run after r) ∨
      ∃ e, Course x.run h (.error e) ∧ r = .error e := by
  rw [ExceptT.run_bind, course_bind]
  constructor
  · rintro ⟨before, after, a | a, rfl, hx, hf⟩
    · obtain ⟨rfl, rfl⟩ := course_done.mp hf
      exact Or.inr ⟨a, by simpa using hx, rfl⟩
    · exact Or.inl ⟨before, after, a, rfl, hx, hf⟩
  · rintro (⟨before, after, a, rfl, hx, hf⟩ | ⟨e, hx, rfl⟩)
    · exact ⟨before, after, .ok a, rfl, hx, hf⟩
    · exact ⟨h, [], .error e, by simp, hx, .done _⟩

/-- A plan without faults, taken as one that may have them, ends well. -/
theorem course_lift_run {p : Plan V α} {h : List (Answered V)} {r : Except ε α} :
    Course (monadLift p : ExceptT ε (Plan V) α).run h r ↔ ∃ a, Course p h a ∧ r = .ok a := by
  change Course (p.andThen fun a => .done (.ok a)) h r ↔ _
  rw [course_andThen]
  constructor
  · rintro ⟨before, after, a, rfl, hp, hf⟩
    obtain ⟨rfl, rfl⟩ := course_done.mp hf
    exact ⟨a, by simpa using hp, rfl⟩
  · rintro ⟨a, hp, rfl⟩
    exact ⟨h, [], a, by simp, hp, .done _⟩

/-! ## Runs -/

/-- What is asked and replied while a plan runs over a state. -/
def transcript (reply : (q : V.Question) → σ → V.Reply q × σ) :
    Plan V α → σ → List (Answered V)
  | done _, _ => []
  | ask q next, s => ⟨q, (reply q s).1⟩ :: (next (reply q s).1).transcript reply (reply q s).2

/-- **A run is a course.**  The transcript of a run, with its answer, is one of the
courses of the plan. -/
theorem course_transcript (reply : (q : V.Question) → σ → V.Reply q × σ) (p : Plan V α) (s : σ) :
    Course p (p.transcript reply s) (p.run reply s).1 := by
  induction p generalizing s with
  | done a => exact .done a
  | ask q next ih => exact .ask _ (ih _ _)

/-- Each exchange of a run got its reply from some state. -/
theorem reply_of_mem_transcript {reply : (q : V.Question) → σ → V.Reply q × σ} {p : Plan V α}
    {s : σ} {q : V.Question} {r : V.Reply q} (he : ⟨q, r⟩ ∈ p.transcript reply s) :
    ∃ s', r = (reply q s').1 := by
  induction p generalizing s with
  | done a => simp [transcript] at he
  | ask q' next ih =>
      rcases List.mem_cons.mp he with heq | hrest
      · cases heq
        exact ⟨s, rfl⟩
      · exact ih _ hrest

end Plan

end SceneRender
