import SceneRender.Pipeline.Pool
import SceneRender.Pipeline.Process
import SceneRender.Pipeline.Studio

/-!
# Shifts

A shift is a studio with a pool of workers.  Tasks are handed over one by one;
what the workers begin is worked off in the studio, in the order in which it was
begun.  At the end of the shift the pool is shut down.
-/

namespace SceneRender

/-- Works tasks off in order, with what becomes of each. -/
def Studio.workOff (crew : Crew) (maxRetries : Nat) :
    List RenderTask → Studio → List (Except PipelineFault JobStatus) × Studio
  | [], s => ([], s)
  | task :: rest, s =>
    let (r, s) := s.runPlan crew (Pipeline.process maxRetries task)
    let (more, s) := Studio.workOff crew maxRetries rest s
    (r :: more, s)

/-- Works off what waits in the studio's queue. -/
def Studio.workOffQueue (crew : Crew) (maxRetries : Nat) (s : Studio) :
    List (Except PipelineFault JobStatus) × Studio :=
  Studio.workOff crew maxRetries s.queue.waiting { s with queue.waiting := [] }

/-- A shift. -/
structure Shift where
  studio : Studio
  pool : WorkerPool
  deriving Inhabited

namespace Shift

/-- Lets the pool move on, and works off what its workers begin. -/
def advance (crew : Crew) (maxRetries : Nat) (shift : Shift) (move : WorkerPool → WorkerPool) :
    Shift :=
  let pool := move shift.pool
  let begun := pool.started.drop shift.pool.started.length
  ⟨(Studio.workOff crew maxRetries begun shift.studio).2, pool⟩

/-- Submits code, and hands the task over if there is one. -/
def submit (crew : Crew) (maxRetries : Nat) (shift : Shift) (code : String) (quality : Quality)
    (allowRetry : Bool) : Except PipelineFault Submission × Shift :=
  let (r, studio) := shift.studio.runPlan crew (Pipeline.submit code quality allowRetry).run
  let shift := { shift with studio }
  match r with
  | .ok (.enqueued _ task) => (r, shift.advance crew maxRetries (·.handOver task))
  | _ => (r, shift)

/-- Shuts the pool down. -/
def close (crew : Crew) (maxRetries : Nat) (shift : Shift) : Shift :=
  shift.advance crew maxRetries WorkerPool.shutDown

/-- Is a task refused from now on? -/
def isClosed (shift : Shift) : Bool := !shift.pool.isOpen

end Shift

end SceneRender
