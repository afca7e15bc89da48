import SceneRender.Pipeline.Task

/-!
# The worker pool

A fixed number of workers share one bounded queue.  Dispatchers add tasks at the
end while the queue is open and not full; an idle worker takes the task in front
and works it off.  When the pool is told to shut down, the first idle worker to
notice closes the queue.  A closed queue refuses new tasks but still hands out the
accepted ones, and a worker leaves when a closed queue is empty.

The pool moves by events, one at a time and in any order in which each is
possible.  Every course of a real pool is such a sequence of events.
-/

namespace SceneRender

/-- What a worker does. -/
inductive WorkerState where
  | idle
  | busy (task : RenderTask)
  | gone
  deriving DecidableEq, Repr

/-- A pool of workers around a queue. -/
structure WorkerPool where
  capacity : Nat
  workers : List WorkerState
  waiting : List RenderTask := []
  isOpen : Bool := true
  /-- Was the pool told to shut down? -/
  isSignalled : Bool := false
  /-- The tasks that were accepted, in order. -/
  accepted : List RenderTask := []
  /-- The tasks that were refused, in order. -/
  refused : List RenderTask := []
  /-- The tasks that were begun, in order. -/
  started : List RenderTask := []
  /-- The tasks that were worked off, in order. -/
  finished : List RenderTask := []
  deriving DecidableEq, Repr, Inhabited

/-- What can happen to a pool. -/
inductive PoolEvent where
  /-- A dispatcher hands a task over. -/
  | dispatch (task : RenderTask)
  /-- A worker takes the task in front. -/
  | take (worker : Nat)
  /-- A worker is through with its task. -/
  | finish (worker : Nat)
  /-- The pool is told to shut down. -/
  | signal
  /-- A worker notices and closes the queue. -/
  | close (worker : Nat)
  /-- A worker leaves. -/
  | leave (worker : Nat)
  deriving DecidableEq, Repr

namespace WorkerPool

/-- A new pool: at least one worker, and room for at least one task. -/
def start (workers capacity : Nat) : WorkerPool where
  capacity := max capacity 1
  workers := List.replicate (max workers 1) .idle

/-- The pool after an event, if the event is possible.  A full queue makes
dispatchers wait: handing over is then not possible yet. -/
def step? (p : WorkerPool) : PoolEvent → Option WorkerPool
  | .dispatch task =>
    if !p.isOpen then some { p with refused := p.refused ++ [task] }
    else if p.capacity ≤ p.waiting.length then none
    else some { p with waiting := p.waiting ++ [task], accepted := p.accepted ++ [task] }
  | .take worker =>
    match p.workers[worker]?, p.waiting with
    | some .idle, task :: waiting =>
      some { p with
        waiting, workers := p.workers.set worker (.busy task), started := p.started ++ [task] }
    | _, _ => none
  | .finish worker =>
    match p.workers[worker]? with
    | some (.busy task) =>
      some { p with workers := p.workers.set worker .idle, finished := p.finished ++ [task] }
    | _ => none
  | .signal => some { p with isSignalled := true }
  | .close worker =>
    match p.workers[worker]? with
    | some .idle => if p.isSignalled then some { p with isOpen := false } else none
    | _ => none
  | .leave worker =>
    match p.workers[worker]? with
    | some .idle =>
      if !p.isOpen && p.waiting.isEmpty then
        some { p with workers := p.workers.set worker .gone }
      else none
    | _ => none

/-- The pool after a sequence of events, if each is possible in its turn. -/
def run? (p : WorkerPool) : List PoolEvent → Option WorkerPool
  | [] => some p
  | e :: rest => do (← p.step? e).run? rest

/-- Have all workers left? -/
def isDown (p : WorkerPool) : Bool := p.workers.all (· == .gone)

/-- One worker works off the task in front. -/
def workOne (p : WorkerPool) : WorkerPool := (p.run? [.take 0, .finish 0]).getD p

/-- Hands a task over as soon as there is room for it; one worker makes room. -/
def handOver (p : WorkerPool) (task : RenderTask) : WorkerPool :=
  match p.step? (.dispatch task) with
  | some p => p
  | none => (p.workOne.step? (.dispatch task)).getD p

/-- The events by which one worker brings an idle pool to rest. -/
def shutDownEvents (p : WorkerPool) : List PoolEvent :=
  [.signal, .close 0] ++ (p.waiting.map fun _ => [PoolEvent.take 0, .finish 0]).flatten ++
    (List.range p.workers.length).map .leave

/-- Shuts an idle pool down. -/
def shutDown (p : WorkerPool) : WorkerPool := (p.run? p.shutDownEvents).getD p

end WorkerPool

end SceneRender
