import Mathlib.Algebra.GroupWithZero.Nat
import Mathlib.Data.List.Count
import SceneRender.Proofs.Pipeline.PoolNotes

/-!
# Delivery by a worker pool

The books of a pool (`Kept`) say where the accepted tasks are.  When the last worker
has left, no hand is full and nothing waits, so that every accepted task was ended;
after the close nobody is promised anything more.  That the last worker can always
leave is the subject of the section on the way down: while the pool is signalled and
not down, some worker has a move, and `work` falls with it.
-/

namespace SceneRender

namespace WorkerPool

open PoolNote

/-! ## The close -/

/-- The queue is closed where some worker has closed it. -/
theorem isOpen_run {events : List PoolEvent} : ∀ {p q : WorkerPool}, p.run? events = some q →
    (q.isOpen = false ↔ p.isOpen = false ∨ ∃ w, .close w ∈ events) := by
  induction events with
  | nil =>
    intro p q h
    cases h
    simp
  | cons e rest ih =>
    intro p q h
    obtain ⟨m, hm, hrest⟩ := run?_cons_eq_some h
    rw [ih hrest]
    cases move_of_step hm with
    | closed w => simp
    | accepted | refused | taken | ended | signalled | left => simp

/-- After the close every dispatcher is refused and the accepted tasks stay what
they are. -/
theorem closed_run {events : List PoolEvent} {p q : WorkerPool} (h : p.run? events = some q)
    (isClosed : p.isOpen = false) :
    q.accepted = p.accepted ∧
      ∀ a ∈ PoolNote.answers (p.notes events), a.2 = .error .queueClosed := by
  have hrun := run?_induction (fun m log => m.isOpen = false ∧ m.accepted = p.accepted ∧
    ∀ a ∈ PoolNote.answers log, a.2 = .error .queueClosed) ?_ [] h
    ⟨isClosed, rfl, by simp [PoolNote.answers]⟩
  · exact hrun.2
  · rintro m e n log hstep ⟨hclosed, haccepted, hanswers⟩
    rw [answers_append, answers_noted]
    cases move_of_step hstep with
    | accepted task isOpen =>
      rw [hclosed] at isOpen
      cases isOpen
    | refused task =>
      refine ⟨hclosed, haccepted, ?_⟩
      intro a ha
      rcases List.mem_append.mp ha with ha | ha
      · exact hanswers a ha
      · rw [List.mem_singleton.mp ha, hclosed]
        rfl
    | closed =>
      rw [List.append_nil]
      exact ⟨rfl, haccepted, hanswers⟩
    | taken | ended | signalled | left =>
      rw [List.append_nil]
      exact ⟨hclosed, haccepted, hanswers⟩

/-! ## The last worker -/

/-- There are workers, and one that has left has left nothing behind. -/
structure Manned (p : WorkerPool) : Prop where
  workers : p.workers ≠ []
  gone : .gone ∈ p.workers → p.isOpen = false ∧ p.waiting = []

/-- Every step keeps the pool manned. -/
theorem Manned.step {p q : WorkerPool} {e : PoolEvent} (h : p.step? e = some q)
    (manned : Manned p) : Manned q := by
  obtain ⟨workers, gone⟩ := manned
  cases move_of_step h with
  | accepted task isOpen =>
    refine ⟨workers, fun hgone => ?_⟩
    rw [(gone hgone).1] at isOpen
    cases isOpen
  | refused | signalled => exact ⟨workers, gone⟩
  | taken w task rest idle front =>
    refine ⟨by simpa using workers, fun hgone => ?_⟩
    rcases List.mem_or_eq_of_mem_set hgone with hgone | hgone
    · rw [(gone hgone).2] at front
      cases front
    · cases hgone
  | ended w task busy =>
    refine ⟨by simpa using workers, fun hgone => ?_⟩
    rcases List.mem_or_eq_of_mem_set hgone with hgone | hgone
    · exact gone hgone
    · cases hgone
  | closed => exact ⟨workers, fun hgone => ⟨rfl, (gone hgone).2⟩⟩
  | left w idle isClosed isEmpty =>
    exact ⟨by simpa using workers, fun _ => ⟨isClosed, isEmpty⟩⟩

/-- A pool that was started is manned. -/
theorem manned_run {workers capacity : Nat} {events : List PoolEvent} {p : WorkerPool}
    (h : (start workers capacity).run? events = some p) : Manned p := by
  have hstart : Manned (start workers capacity) := by
    constructor <;> simp [start]
  exact run?_induction (fun m _ => Manned m) (fun _ _ _ _ hstep manned => manned.step hstep) []
    h hstart

/-- When a pool is down, all its workers are gone. -/
theorem state_of_isDown {p : WorkerPool} (h : p.isDown = true) {state : WorkerState}
    (hmem : state ∈ p.workers) : state = .gone := by
  have hall := List.all_eq_true.mp h state hmem
  exact beq_iff_eq.mp hall

/-- When a pool is down, nobody has a task in hand. -/
theorem inHand_of_isDown {p : WorkerPool} (h : p.isDown = true) (w : Nat) : p.inHand w = [] := by
  cases hw : p.workers[w]? with
  | none => simp [inHand, hw]
  | some state =>
    have hgone := state_of_isDown h (List.mem_of_getElem? hw)
    subst hgone
    rw [inHand_eq hw]
    rfl

/-- When a manned pool is down, no task waits. -/
theorem waiting_of_isDown {p : WorkerPool} (manned : Manned p) (h : p.isDown = true) :
    p.waiting = [] := by
  obtain ⟨state, hmem⟩ := List.exists_mem_of_ne_nil _ manned.workers
  have hgone := state_of_isDown h hmem
  exact (manned.gone (hgone ▸ hmem)).2

/-- Equal accounts of every worker are equal accounts. -/
theorem perm_of_ofWorker {bs es : List (Nat × RenderTask)}
    (h : ∀ w, ofWorker w bs = ofWorker w es) : es.Perm bs := by
  have hcount : ∀ (xs : List (Nat × RenderTask)) w task,
      xs.count (w, task) = (ofWorker w xs).count task := by
    intro xs w task
    induction xs with
    | nil => rfl
    | cons x xs ih =>
      obtain ⟨v, other⟩ := x
      have hcons : ofWorker w ((v, other) :: xs) = ofWorker w [(v, other)] ++ ofWorker w xs :=
        ofWorker_append w [(v, other)] xs
      have hone : ofWorker w [(v, other)] = if w = v then [other] else [] :=
        ofWorker_map v w [other]
      rw [hcons, hone, List.count_append, List.count_cons, ih]
      by_cases hv : w = v
      · subst hv
        simp [List.count_cons, Nat.add_comm]
      · simp [hv, Ne.symm hv]
  rw [List.perm_iff_count]
  rintro ⟨w, task⟩
  rw [hcount, hcount, h]

/-! ## The way down -/

/-- What a worker has still to do: end its task, if it has one, and leave. -/
def load : WorkerState → Nat
  | .gone => 0
  | .idle => 1
  | .busy _ => 2

/-- What is still to be done before the last worker has left. -/
def work (p : WorkerPool) : Nat :=
  2 * p.waiting.length + (p.workers.map load).sum + p.isOpen.toNat

/-- The load of the workers changes by that of one worker. -/
theorem sum_load_set {states : List WorkerState} {w : Nat} {old : WorkerState}
    (h : states[w]? = some old) (new : WorkerState) :
    ((states.set w new).map load).sum + load old = (states.map load).sum + load new := by
  induction states generalizing w with
  | nil => cases h
  | cons state states ih =>
    cases w with
    | zero =>
      cases h
      simp only [List.set_cons_zero, List.map_cons, List.sum_cons]
      omega
    | succ w =>
      have hrest := ih (w := w) h
      simp only [List.set_cons_succ, List.map_cons, List.sum_cons]
      omega

/-- While a signalled pool is not down, some worker has a move after which less is
to be done. -/
theorem exists_move {p : WorkerPool} (isSignalled : p.isSignalled = true)
    (h : p.isDown = false) :
    ∃ e q, e.isWorkers = true ∧ p.step? e = some q ∧ q.isSignalled = true ∧ q.work < p.work := by
  obtain ⟨state, hmem, hstate⟩ : ∃ state ∈ p.workers, state ≠ .gone := by
    by_contra hall
    have hdown : p.isDown = true := by
      simp only [isDown, List.all_eq_true, beq_iff_eq]
      intro state hmem
      by_contra hstate
      exact hall ⟨state, hmem, hstate⟩
    rw [h] at hdown
    cases hdown
  obtain ⟨w, hw⟩ := List.mem_iff_getElem?.mp hmem
  cases state with
  | gone => exact absurd rfl hstate
  | busy task =>
    refine ⟨.finish w, _, rfl, step_of_move (.ended w task hw), isSignalled, ?_⟩
    have hload := sum_load_set hw .idle
    simp only [load] at hload
    simp only [work]
    omega
  | idle =>
    cases hopen : p.isOpen with
    | true =>
      refine ⟨.close w, _, rfl, step_of_move (.closed w hw isSignalled), isSignalled, ?_⟩
      simp [work, hopen]
    | false =>
      cases hfront : p.waiting with
      | nil =>
        refine ⟨.leave w, _, rfl, step_of_move (.left w hw hopen hfront), isSignalled, ?_⟩
        have hload := sum_load_set hw .gone
        simp only [load] at hload
        simp only [work]
        omega
      | cons task rest =>
        refine ⟨.take w, _, rfl, step_of_move (.taken w task rest hw hfront), isSignalled, ?_⟩
        have hload := sum_load_set hw (.busy task)
        simp only [load] at hload
        simp only [work, hfront, List.length_cons]
        omega

/-- The workers of a signalled pool can bring it down by themselves. -/
theorem exists_way_down (p : WorkerPool) (isSignalled : p.isSignalled = true) :
    ∃ rest q, (∀ e ∈ rest, PoolEvent.isWorkers e = true) ∧ p.run? rest = some q ∧
      q.isDown = true := by
  generalize hn : p.work = n
  induction n using Nat.strongRecOn generalizing p with
  | ind n ih =>
    cases hdown : p.isDown with
    | true => exact ⟨[], p, by simp, rfl, hdown⟩
    | false =>
      obtain ⟨e, m, he, hm, hsignal, hless⟩ := exists_move isSignalled hdown
      obtain ⟨rest, q, hrest, hq, hend⟩ := ih m.work (hn ▸ hless) m hsignal rfl
      refine ⟨e :: rest, q, ?_, by simpa [run?, hm] using hq, hend⟩
      intro d hd
      rcases List.mem_cons.mp hd with rfl | hd
      · exact he
      · exact hrest d hd

/-! ## Delivery -/

/-- **Every accepted task is delivered once.**  Whatever the number of workers, the
room of the queue and the order of events:

* the pool's own lists are those that its notes give;
* the tasks that were promised to be worked off are the begun ones, in the order in
  which they were begun, and the waiting ones, of which there are never more than
  there is room for;
* each worker has ended what it began, one task after the other, but for the task in
  its hands;
* before a worker closes the queue every dispatcher is promised its task, and from
  then on every one is refused and no task joins the promised ones;
* when the last worker has left, nothing waits, and what was ended is what was begun:
  all the promised tasks;
* and once told to shut down, the workers can always come to that point by
  themselves. -/
theorem tasks_delivered_once (workers capacity : Nat) (events : List PoolEvent) (p : WorkerPool)
    (h : (start workers capacity).run? events = some p) :
    let log := (start workers capacity).notes events
    (p.accepted = promised log ∧ p.started = (beginnings log).map Prod.snd ∧
      p.finished = (endings log).map Prod.snd) ∧
    promised log = (beginnings log).map Prod.snd ++ p.waiting ∧
    p.waiting.length ≤ max capacity 1 ∧
    (∀ w, ofWorker w (beginnings log) = ofWorker w (endings log) ++ p.inHand w) ∧
    (∀ before after m, events = before ++ after → (start workers capacity).run? before = some m →
      (m.isOpen = false ↔ ∃ w, .close w ∈ before) ∧
      (m.isOpen = true →
        ∀ a ∈ answers ((start workers capacity).notes before), a.2 = .ok ()) ∧
      (m.isOpen = false →
        (∀ a ∈ answers (m.notes after), a.2 = .error .queueClosed) ∧
        promised log = promised ((start workers capacity).notes before))) ∧
    (p.isDown = true →
      promised log = (beginnings log).map Prod.snd ∧ (endings log).Perm (beginnings log)) ∧
    ∃ rest q, (∀ e ∈ rest, PoolEvent.isWorkers e = true) ∧
      p.run? (.signal :: rest) = some q ∧ q.isDown = true := by
  intro log
  have kept : Kept p log := kept_run h
  have hpromised : promised log = p.accepted := promised_of_kept kept
  refine ⟨⟨hpromised.symm, kept.started, kept.finished⟩, hpromised.trans kept.accepted, ?_,
    kept.worker, ?_, ?_, ?_⟩
  · exact capacity_run h ▸ kept.room
  · intro before after m hevents hbefore
    have keptBefore := kept_run hbefore
    obtain ⟨m', hm', hafter, hnotes⟩ := run?_append (hevents ▸ h)
    obtain rfl : m' = m := Option.some.inj (hm'.symm.trans hbefore)
    refine ⟨?_, ?_, ?_⟩
    · simpa [start] using isOpen_run hbefore
    · intro hopen a ha
      rw [keptBefore.answers, keptBefore.refused hopen] at ha
      obtain ⟨task, -, rfl⟩ := by simpa using ha
      rfl
    · intro hclosed
      obtain ⟨haccepted, hanswers⟩ := closed_run hafter hclosed
      exact ⟨hanswers, by rw [hpromised, haccepted, promised_of_kept keptBefore]⟩
  · intro hdown
    have hempty := waiting_of_isDown (manned_run h) hdown
    refine ⟨by rw [hpromised, kept.accepted, hempty, List.append_nil], ?_⟩
    apply perm_of_ofWorker
    intro w
    rw [kept.worker w, inHand_of_isDown hdown w, List.append_nil]
  · obtain ⟨rest, q, hrest, hq, hdown⟩ := exists_way_down { p with isSignalled := true } rfl
    exact ⟨rest, q, hrest, hq, hdown⟩

/-- A task of the last shift. -/
def shiftTask (id : String) : RenderTask := ⟨id, "", .low, false⟩

/-- The last shift of two workers around a queue with room for one task.  The second
task still waits when the queue is closed; the third one comes too late. -/
def lastShift : List PoolEvent :=
  [.dispatch (shiftTask "a"), .take 1, .dispatch (shiftTask "b"), .signal, .close 0,
    .dispatch (shiftTask "c"), .take 0, .finish 0, .leave 0, .finish 1, .close 1, .leave 1]

/-- The two tasks of the last shift are worked off before the pool is down. -/
theorem last_shift_delivered :
    ∃ p, (start 2 1).run? lastShift = some p ∧ p.isDown = true ∧
      promised ((start 2 1).notes lastShift) = [shiftTask "a", shiftTask "b"] ∧
      beginnings ((start 2 1).notes lastShift) = [(1, shiftTask "a"), (0, shiftTask "b")] ∧
      (endings ((start 2 1).notes lastShift)).Perm [(1, shiftTask "a"), (0, shiftTask "b")] ∧
      p.refused = [shiftTask "c"] := by
  have hbegun : beginnings ((start 2 1).notes lastShift) =
      [(1, shiftTask "a"), (0, shiftTask "b")] := by decide
  obtain ⟨-, -, -, -, -, hdelivered, -⟩ := tasks_delivered_once 2 1 lastShift _ rfl
  obtain ⟨hpromised, hended⟩ := hdelivered (by decide)
  rw [hbegun] at hpromised hended
  exact ⟨_, rfl, by decide, hpromised, hbegun, hended, by decide⟩

end WorkerPool

end SceneRender
