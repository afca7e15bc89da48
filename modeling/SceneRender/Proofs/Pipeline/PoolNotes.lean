import Mathlib.Data.List.Basic
import SceneRender.Pipeline.Pool
import SceneRender.Pipeline.Studio

/-!
# What is noted of a worker pool

A run of the pool leaves notes: what each dispatcher was answered, and which
worker began and ended which task.  The notes are read off the events alone; the
tasks that the pool itself counts play no part in them.

One step of the pool is taken apart once (`move_of_step`).  The invariant `Kept`
ties a pool to the notes of its run: the accepted tasks are the begun ones, in the
order in which they were begun, and after them the waiting ones; and what a worker
has begun is what it has ended and the task in its hands.
-/

namespace SceneRender

/-- What is noted of an event of the pool. -/
inductive PoolNote where
  /-- A dispatcher was answered. -/
  | answered (task : RenderTask) (reply : Except PipelineFault Unit)
  /-- A worker began a task. -/
  | begun (worker : Nat) (task : RenderTask)
  /-- A worker ended a task. -/
  | ended (worker : Nat) (task : RenderTask)

namespace PoolNote

/-- The answers that dispatchers got, in order. -/
def answers (notes : List PoolNote) : List (RenderTask × Except PipelineFault Unit) :=
  notes.filterMap fun
    | .answered task reply => some (task, reply)
    | _ => none

/-- The tasks that were promised to be worked off, in order. -/
def promised (notes : List PoolNote) : List RenderTask :=
  (answers notes).filterMap fun (task, reply) => if reply.isOk then some task else none

/-- The tasks that were begun, in order, each with its worker. -/
def beginnings (notes : List PoolNote) : List (Nat × RenderTask) :=
  notes.filterMap fun
    | .begun worker task => some (worker, task)
    | _ => none

/-- The tasks that were ended, in order, each with its worker. -/
def endings (notes : List PoolNote) : List (Nat × RenderTask) :=
  notes.filterMap fun
    | .ended worker task => some (worker, task)
    | _ => none

/-- The tasks of one worker among the noted ones. -/
def ofWorker (worker : Nat) (noted : List (Nat × RenderTask)) : List RenderTask :=
  noted.filterMap fun (w, task) => if w = worker then some task else none

/-- The answers in two parts follow each other. -/
@[simp] theorem answers_append (xs ys : List PoolNote) :
    answers (xs ++ ys) = answers xs ++ answers ys := List.filterMap_append

/-- The beginnings in two parts follow each other. -/
@[simp] theorem beginnings_append (xs ys : List PoolNote) :
    beginnings (xs ++ ys) = beginnings xs ++ beginnings ys := List.filterMap_append

/-- The endings in two parts follow each other. -/
@[simp] theorem endings_append (xs ys : List PoolNote) :
    endings (xs ++ ys) = endings xs ++ endings ys := List.filterMap_append

/-- What one worker did in two parts follows each other. -/
@[simp] theorem ofWorker_append (w : Nat) (xs ys : List (Nat × RenderTask)) :
    ofWorker w (xs ++ ys) = ofWorker w xs ++ ofWorker w ys := List.filterMap_append

/-- Tasks of one worker are no tasks of another. -/
theorem ofWorker_map (w v : Nat) (tasks : List RenderTask) :
    ofWorker v (tasks.map (w, ·)) = if v = w then tasks else [] := by
  by_cases h : v = w
  · simp [ofWorker, List.filterMap_map, h]
  · simp [ofWorker, List.filterMap_map, h, Ne.symm h]

end PoolNote

/-- Does a worker move? -/
def PoolEvent.isWorkers : PoolEvent → Bool
  | .take _ | .finish _ | .close _ | .leave _ => true
  | .dispatch _ | .signal => false

/-- The task in a worker's hands. -/
def WorkerState.task? : WorkerState → Option RenderTask
  | .busy task => some task
  | _ => none

namespace WorkerPool

open PoolNote

/-- What is noted of an event: a dispatcher is answered as the queue answers, a
worker begins the task in front of the queue and ends the one in its hands. -/
def noted (p : WorkerPool) : PoolEvent → List PoolNote
  | .dispatch task => [.answered task (TaskQueue.push ⟨p.waiting, p.isOpen⟩ task).1]
  | .take worker => p.waiting.head?.toList.map (.begun worker)
  | .finish worker => (p.workers[worker]?.bind WorkerState.task?).toList.map (.ended worker)
  | .signal | .close _ | .leave _ => []

/-- The notes of a run. -/
def notes (p : WorkerPool) : List PoolEvent → List PoolNote
  | [] => []
  | e :: rest => p.noted e ++ ((p.step? e).map (·.notes rest)).getD []

/-- The task in the hands of a worker, if there is one. -/
def inHand (p : WorkerPool) (worker : Nat) : List RenderTask :=
  (p.workers[worker]?.bind WorkerState.task?).toList

/-! ## One step -/

/-- All that one step can do. -/
inductive Move (p : WorkerPool) : PoolEvent → WorkerPool → Prop
  | accepted (task : RenderTask) (isOpen : p.isOpen = true)
      (room : p.waiting.length < p.capacity) :
      Move p (.dispatch task)
        { p with waiting := p.waiting ++ [task], accepted := p.accepted ++ [task] }
  | refused (task : RenderTask) (isClosed : p.isOpen = false) :
      Move p (.dispatch task) { p with refused := p.refused ++ [task] }
  | taken (worker : Nat) (task : RenderTask) (rest : List RenderTask)
      (idle : p.workers[worker]? = some .idle) (front : p.waiting = task :: rest) :
      Move p (.take worker) { p with
        waiting := rest, workers := p.workers.set worker (.busy task),
        started := p.started ++ [task] }
  | ended (worker : Nat) (task : RenderTask) (busy : p.workers[worker]? = some (.busy task)) :
      Move p (.finish worker) { p with
        workers := p.workers.set worker .idle, finished := p.finished ++ [task] }
  | signalled : Move p .signal { p with isSignalled := true }
  | closed (worker : Nat) (idle : p.workers[worker]? = some .idle)
      (isSignalled : p.isSignalled = true) : Move p (.close worker) { p with isOpen := false }
  | left (worker : Nat) (idle : p.workers[worker]? = some .idle) (isClosed : p.isOpen = false)
      (isEmpty : p.waiting = []) :
      Move p (.leave worker) { p with workers := p.workers.set worker .gone }

/-- A step that can be taken is a move. -/
theorem move_of_step {p q : WorkerPool} {e : PoolEvent} (h : p.step? e = some q) :
    Move p e q := by
  cases e with
  | dispatch task =>
    cases hopen : p.isOpen with
    | false =>
      have hq : q = { p with refused := p.refused ++ [task] } := by
        simpa [step?, hopen] using h.symm
      exact hq ▸ .refused task hopen
    | true =>
      have hroom : p.waiting.length < p.capacity := by
        by_contra hfull
        simp [step?, hopen, Nat.not_lt.mp hfull] at h
      have hq : q =
          { p with waiting := p.waiting ++ [task], accepted := p.accepted ++ [task] } := by
        simpa [step?, hopen, Nat.not_le.mpr hroom] using h.symm
      exact hq ▸ .accepted task hopen hroom
  | take worker =>
    simp only [step?] at h
    split at h
    · next task rest hidle hfront => cases h; exact .taken worker task rest hidle hfront
    · cases h
  | finish worker =>
    simp only [step?] at h
    split at h
    · next task hbusy => cases h; exact .ended worker task hbusy
    · cases h
  | signal => cases h; exact .signalled
  | close worker =>
    simp only [step?] at h
    split at h
    · next hidle =>
      split at h
      · next hsignal => cases h; exact .closed worker hidle hsignal
      · cases h
    · cases h
  | leave worker =>
    simp only [step?] at h
    split at h
    · next hidle =>
      split at h
      · next hend =>
        simp only [Bool.and_eq_true, Bool.not_eq_true', List.isEmpty_iff] at hend
        cases h
        exact .left worker hidle hend.1 hend.2
      · cases h
    · cases h

/-- A move is a step that can be taken. -/
theorem step_of_move {p q : WorkerPool} {e : PoolEvent} (h : Move p e q) :
    p.step? e = some q := by
  cases h with
  | accepted task isOpen room => simp [step?, isOpen, Nat.not_le.mpr room]
  | refused task isClosed => simp [step?, isClosed]
  | taken w task rest idle front => simp [step?, idle, front]
  | ended w task busy => simp [step?, busy]
  | signalled => rfl
  | closed w idle isSignalled => simp [step?, idle, isSignalled]
  | left w idle isClosed isEmpty => simp [step?, idle, isClosed, isEmpty]

/-! ## A run -/

/-- A run takes its first step first. -/
theorem run?_cons_eq_some {p q : WorkerPool} {e : PoolEvent} {rest : List PoolEvent}
    (h : p.run? (e :: rest) = some q) : ∃ m, p.step? e = some m ∧ m.run? rest = some q :=
  Option.bind_eq_some_iff.mp h

/-- The notes of the first step come first. -/
theorem notes_cons {p m : WorkerPool} {e : PoolEvent} (rest : List PoolEvent)
    (h : p.step? e = some m) : p.notes (e :: rest) = p.noted e ++ m.notes rest := by
  simp [notes, h]

/-- A dispatch is answered as the queue does. -/
theorem answers_noted (p : WorkerPool) (e : PoolEvent) :
    PoolNote.answers (p.noted e) = match e with
      | .dispatch task => [(task, (TaskQueue.push ⟨p.waiting, p.isOpen⟩ task).1)]
      | _ => [] := by
  cases e with
  | dispatch => rfl
  | take w => cases hfront : p.waiting <;> simp [noted, hfront, PoolNote.answers]
  | finish w =>
    cases hw : p.workers[w]?.bind WorkerState.task? <;> simp [noted, hw, PoolNote.answers]
  | signal | close | leave => rfl

/-- What holds at the start and outlasts every step, with its notes, holds along a
run. -/
theorem run?_induction (Holds : WorkerPool → List PoolNote → Prop)
    (step : ∀ p e q log, p.step? e = some q → Holds p log → Holds q (log ++ p.noted e))
    {events : List PoolEvent} : ∀ {p q : WorkerPool} (log : List PoolNote),
      p.run? events = some q → Holds p log → Holds q (log ++ p.notes events) := by
  induction events with
  | nil =>
    intro p q log h hp
    cases h
    simpa [notes] using hp
  | cons e rest ih =>
    intro p q log h hp
    obtain ⟨m, hm, hrest⟩ := run?_cons_eq_some h
    rw [notes_cons rest hm, ← List.append_assoc]
    exact ih (log ++ p.noted e) hrest (step p e m log hm hp)

/-- A run is cut where its events are cut. -/
theorem run?_append {before after : List PoolEvent} : ∀ {p q : WorkerPool},
    p.run? (before ++ after) = some q →
      ∃ m, p.run? before = some m ∧ m.run? after = some q ∧
        p.notes (before ++ after) = p.notes before ++ m.notes after := by
  induction before with
  | nil =>
    intro p q h
    exact ⟨p, rfl, h, rfl⟩
  | cons e rest ih =>
    intro p q h
    obtain ⟨m, hm, hrest⟩ := run?_cons_eq_some h
    obtain ⟨n, hn, hq, hnotes⟩ := ih hrest
    refine ⟨n, by simpa [run?, hm] using hn, hq, ?_⟩
    rw [List.cons_append, notes_cons _ hm, notes_cons _ hm, hnotes, List.append_assoc]

/-! ## The books of the pool -/

/-- What a pool and the notes of its run so far have in common. -/
structure Kept (p : WorkerPool) (log : List PoolNote) : Prop where
  /-- The accepted tasks are begun in order; the rest waits. -/
  accepted : p.accepted = (beginnings log).map Prod.snd ++ p.waiting
  started : p.started = (beginnings log).map Prod.snd
  finished : p.finished = (endings log).map Prod.snd
  /-- Each worker ends what it began, one task after the other. -/
  worker : ∀ w, ofWorker w (beginnings log) = ofWorker w (endings log) ++ p.inHand w
  /-- The accepted tasks were answered so, and after them the refused ones. -/
  answers : PoolNote.answers log =
    p.accepted.map (·, .ok ()) ++ p.refused.map (·, .error .queueClosed)
  /-- Nothing is refused while the queue is open. -/
  refused : p.isOpen = true → p.refused = []
  room : p.waiting.length ≤ p.capacity

/-- A worker has in hand what the new state says, and the others what they had. -/
theorem inHand_set (p : WorkerPool) {w : Nat} (state : WorkerState) (v : Nat)
    (h : w < p.workers.length) :
    { p with workers := p.workers.set w state : WorkerPool }.inHand v =
      if v = w then state.task?.toList else p.inHand v := by
  by_cases hv : v = w
  · subst hv
    simp [inHand, h]
  · simp [inHand, List.getElem?_set_ne (Ne.symm hv), hv]

/-- What a worker has in hand is in its state. -/
theorem inHand_eq {p : WorkerPool} {w : Nat} {state : WorkerState}
    (h : p.workers[w]? = some state) : p.inHand w = state.task?.toList := by
  simp [inHand, h]

/-- The account of every worker stays right where one worker begins what comes into
its hands and ends what leaves them. -/
theorem account_set {p : WorkerPool} {w : Nat} {old : WorkerState}
    {bs es : List (Nat × RenderTask)} (h : p.workers[w]? = some old) (new : WorkerState)
    (begun ended : List RenderTask)
    (change : old.task?.toList ++ begun = ended ++ new.task?.toList)
    (account : ∀ v, ofWorker v bs = ofWorker v es ++ p.inHand v) (v : Nat) :
    ofWorker v (bs ++ begun.map (w, ·)) = ofWorker v (es ++ ended.map (w, ·)) ++
      { p with workers := p.workers.set w new : WorkerPool }.inHand v := by
  have hlt : w < p.workers.length := (List.getElem?_eq_some_iff.mp h).1
  rw [ofWorker_append, ofWorker_append, ofWorker_map, ofWorker_map, account v,
    inHand_set p new v hlt]
  by_cases hv : v = w
  · subst hv
    rw [inHand_eq h]
    simp [change]
  · simp [hv]

/-- The books are kept through every step. -/
theorem Kept.step {p q : WorkerPool} {e : PoolEvent} {log : List PoolNote}
    (h : p.step? e = some q) (kept : Kept p log) : Kept q (log ++ p.noted e) := by
  obtain ⟨accepted, started, finished, worker, answers, refused, room⟩ := kept
  cases move_of_step h with
  | accepted task isOpen hasRoom =>
    have hnone := refused isOpen
    have hnoted : p.noted (.dispatch task) = [.answered task (.ok ())] := by
      simp [noted, TaskQueue.push, isOpen]
    rw [hnoted]
    refine ⟨?_, ?_, ?_, ?_, ?_, fun _ => hnone, ?_⟩
    · simp [accepted, beginnings]
    · simpa [beginnings] using started
    · simpa [endings] using finished
    · simpa [beginnings, endings, inHand] using worker
    · rw [answers_append, answers]
      simp [hnone, PoolNote.answers]
    · simpa using Nat.succ_le_of_lt hasRoom
  | refused task isClosed =>
    have hnoted : p.noted (.dispatch task) = [.answered task (.error .queueClosed)] := by
      simp [noted, TaskQueue.push, isClosed]
    rw [hnoted]
    refine ⟨?_, ?_, ?_, ?_, ?_, ?_, room⟩
    · simpa [beginnings] using accepted
    · simpa [beginnings] using started
    · simpa [endings] using finished
    · simpa [beginnings, endings, inHand] using worker
    · rw [answers_append, answers]
      simp [PoolNote.answers]
    · intro hopen
      rw [isClosed] at hopen
      cases hopen
  | taken w task rest idle front =>
    have hnoted : p.noted (.take w) = [.begun w task] := by simp [noted, front]
    rw [hnoted]
    refine ⟨?_, ?_, ?_, ?_, ?_, refused, ?_⟩
    · simp [accepted, beginnings, front]
    · simp [started, beginnings]
    · simpa [endings] using finished
    · intro v
      rw [beginnings_append, endings_append]
      exact account_set idle (.busy task) [task] [] rfl worker v
    · simpa [PoolNote.answers] using answers
    · rw [front] at room
      exact Nat.le_of_succ_le room
  | ended w task busy =>
    have hnoted : p.noted (.finish w) = [.ended w task] := by
      simp [noted, busy, WorkerState.task?]
    rw [hnoted]
    refine ⟨?_, ?_, ?_, ?_, ?_, refused, room⟩
    · simpa [beginnings] using accepted
    · simpa [beginnings] using started
    · simp [finished, endings]
    · intro v
      rw [beginnings_append, endings_append]
      exact account_set busy .idle [] [task] rfl worker v
    · simpa [PoolNote.answers] using answers
  | signalled =>
    rw [noted, List.append_nil]
    exact ⟨accepted, started, finished, worker, answers, refused, room⟩
  | closed w idle isSignalled =>
    rw [noted, List.append_nil]
    exact ⟨accepted, started, finished, worker, answers, nofun, room⟩
  | left w idle isClosed isEmpty =>
    rw [noted, List.append_nil]
    refine ⟨accepted, started, finished, ?_, answers, refused, room⟩
    intro v
    simpa using account_set idle .gone [] [] rfl worker v

/-- A pool that was started has nothing to keep. -/
theorem kept_start (workers capacity : Nat) : Kept (start workers capacity) [] := by
  refine ⟨rfl, rfl, rfl, ?_, rfl, fun _ => rfl, Nat.zero_le _⟩
  intro w
  have hnone : (start workers capacity).inHand w = [] := by
    simp only [inHand, start, List.getElem?_replicate]
    split <;> rfl
  rw [hnone]
  rfl

/-- A run keeps its log. -/
theorem kept_run {workers capacity : Nat} {events : List PoolEvent} {p : WorkerPool}
    (h : (start workers capacity).run? events = some p) :
    Kept p ((start workers capacity).notes events) :=
  run?_induction Kept (fun _ _ _ _ hstep kept => kept.step hstep) [] h (kept_start workers capacity)

/-- The promised tasks are the accepted ones. -/
theorem promised_of_kept {p : WorkerPool} {log : List PoolNote} (kept : Kept p log) :
    promised log = p.accepted := by
  have hsome : ∀ tasks : List RenderTask,
      (tasks.map fun task => (task, (.ok () : Except PipelineFault Unit))).filterMap
        (fun (task, reply) => if reply.isOk then some task else none) = tasks := by
    intro tasks
    simp [List.filterMap_map, Except.isOk, Except.toBool]
  have hnone : ∀ tasks : List RenderTask,
      (tasks.map fun task => (task, (.error .queueClosed : Except PipelineFault Unit))).filterMap
        (fun (task, reply) => if reply.isOk then some task else none) = [] := by
    intro tasks
    simp [List.filterMap_map, Except.isOk, Except.toBool]
  rw [promised, kept.answers, List.filterMap_append, hsome, hnone, List.append_nil]

/-- A run does not change the capacity. -/
theorem capacity_run {workers capacity : Nat} {events : List PoolEvent} {p : WorkerPool}
    (h : (start workers capacity).run? events = some p) : p.capacity = max capacity 1 := by
  refine run?_induction (fun m _ => m.capacity = max capacity 1) ?_ [] h rfl
  intro m e n log hstep hm
  cases move_of_step hstep <;> exact hm

end WorkerPool

end SceneRender
