/-!
# Plans

A plan is a program seen from outside: it is done with an answer, or it asks its
surroundings one thing and goes on with the reply.  What can be asked, and the
type of each reply, is a vocabulary.  A plan says nothing about how a question is
answered: that is the part of whoever runs it, over a state of its own.  Two plans
can also be run side by side, question by question.
-/

namespace SceneRender

/-- What a plan may ask, and what is replied. -/
structure Vocabulary where
  Question : Type
  Reply : Question → Type

/-- A program that asks its surroundings. -/
inductive Plan (V : Vocabulary) (α : Type) where
  | done (answer : α)
  | ask (question : V.Question) (next : V.Reply question → Plan V α)

namespace Plan

variable {V : Vocabulary} {α β : Type}

/-- Asks one thing and answers with the reply. -/
def question (q : V.Question) : Plan V (V.Reply q) := .ask q .done

/-- Goes on with the answer of a plan. -/
def andThen : Plan V α → (α → Plan V β) → Plan V β
  | done a, f => f a
  | ask q next, f => .ask q fun r => (next r).andThen f

instance : Monad (Plan V) where
  pure := .done
  bind := andThen

/-- Runs a plan: each question is replied to from the state, which it may change. -/
def run {σ : Type} (reply : (q : V.Question) → σ → V.Reply q × σ) : Plan V α → σ → α × σ
  | done a, s => (a, s)
  | ask q next, s => (next (reply q s).1).run reply (reply q s).2

/-- Runs a plan in a monad. -/
def runIn {m : Type → Type} [Monad m] (reply : (q : V.Question) → m (V.Reply q)) :
    Plan V α → m α
  | done a => pure a
  | ask q next => do (next (← reply q)).runIn reply

end Plan

end SceneRender
