import SceneRender.Proofs.Job.Stored
import SceneRender.Proofs.Job.TimestampText

/-!
# The two stores answer alike

One store keeps records, the other rows of cells.  `Mirrors` says that a table has the
row of every record and no other row, and that the records can be written down: their
progress is a number of eight bits, and their moments are those of a clock in the years
0 to 9999, so that a row is read back as its record (`toJob_ofJob`).

Each call keeps the two stores mirrors of each other and is answered alike
(`Mirrors.perform`); by induction the same calls get the same answers
(`answers_eq_of_backends`).  The one promise that the ids need is that no two jobs are
made under the same one: there the table refuses and the memory forgets.
-/

namespace SceneRender

/-- A call of a job store, with the moment that the clock shows. -/
inductive TimedCall where
  | create (id : String) (now : Timestamp)
  | get (id : String)
  | update (id : String) (change : JobUpdate) (now : Timestamp)
  deriving DecidableEq, Repr

namespace TimedCall

/-- The id of the job that a call makes. -/
def made? : TimedCall → Option String
  | create id _ => some id
  | get _ | update .. => none

/-- The reading of the clock. -/
def now? : TimedCall → Option Timestamp
  | create _ now | update _ _ now => some now
  | get _ => none

end TimedCall

/-- May a record stand in a row? -/
structure Job.Writable (job : Job) : Prop where
  progress : job.progress ≤ 255
  createdAt : job.createdAt.Clocked
  updatedAt : job.updatedAt.Clocked

namespace Job.Writable

variable {job : Job} {id : String} {now : Timestamp}

/-- A fresh job can be written. -/
theorem fresh (h : now.Clocked) : (Job.fresh id now).Writable := ⟨Nat.zero_le _, h, h⟩

/-- An updated job can be written, if the old one could. -/
theorem apply (h : job.Writable) (u : JobUpdate) (hnow : now.Clocked) :
    (job.apply u now).Writable :=
  ⟨Job.progress_apply_le h.progress u now, h.createdAt, hnow⟩

/-- **A row is read back as its record.** -/
theorem toJob_ofJob (h : job.Writable) : (JobRow.ofJob job).toJob = .ok job :=
  JobRow.toJob_eq_ok.mpr ⟨rfl, rfl, rfl, h.progress, rfl, rfl, rfl,
    ⟨_, rfl, Timestamp.ofString_stored h.createdAt⟩,
    ⟨_, rfl, Timestamp.ofString_stored h.updatedAt⟩⟩

end Job.Writable

namespace JobStore

/-- The answer to a call, and the store after it. -/
def perform (store : JobStore) : TimedCall → Except StoreFault (Option Job) × JobStore
  | .create id now => ((store.create id now).1.map some, (store.create id now).2)
  | .get id => (store.get id, store)
  | .update id change now => store.update id change now

/-- The answers to a sequence of calls. -/
def answers (store : JobStore) : List TimedCall → List (Except StoreFault (Option Job))
  | [] => []
  | call :: rest => (store.perform call).1 :: (store.perform call).2.answers rest

/-- A table that has the row of every record and no other row. -/
structure Mirrors (jobs : List (String × Job)) (t : JobTable) : Prop where
  row : ∀ id, t.row? id = (jobs.lookup id).map .ofJob
  id : ∀ {id job}, jobs.lookup id = some job → job.id = id
  writable : ∀ {id job}, jobs.lookup id = some job → job.Writable

namespace Mirrors

variable {jobs : List (String × Job)} {t : JobTable}

/-- The empty stores mirror each other. -/
theorem empty : Mirrors [] .empty := ⟨fun _ => rfl, nofun, nofun⟩

/-- What is found in one store is found in the other. -/
theorem get (h : Mirrors jobs t) (id : String) : t.get id = .ok (jobs.lookup id) := by
  cases hjob : jobs.lookup id with
  | none => rw [JobTable.get, h.row id, hjob, Option.map_none]
  | some job =>
    simp only [JobTable.get, h.row id, hjob, Option.map_some, (h.writable hjob).toJob_ofJob]

/-- A job under an id that is free. -/
theorem create (h : Mirrors jobs t) {id : String} {now : Timestamp}
    (hfree : jobs.lookup id = none) (hnow : now.Clocked) :
    ∃ t', t.insert (.fresh id now) = .ok t' ∧
      Mirrors ((id, .fresh id now) :: jobs.filter (·.1 != id)) t' := by
  have hrow : t.row? (Job.fresh id now).id = none := by
    change t.row? id = none
    rw [h.row id, hfree, Option.map_none]
  obtain ⟨t', ht'⟩ : ∃ t', t.insert (.fresh id now) = .ok t' := by
    rw [JobTable.insert, hrow]
    exact ⟨_, rfl⟩
  refine ⟨t', ht', ?_, ?_, ?_⟩
  · intro id'
    rw [JobTable.row?_insert ht', lookup_cons_filter_bne]
    by_cases hid : id' = id
    · simp [hid, Job.fresh]
    · simpa [hid, Job.fresh] using h.row id'
  · intro id' job hjob
    rw [lookup_cons_filter_bne] at hjob
    split at hjob
    · next hid =>
      cases hjob
      exact hid.symm
    · exact h.id hjob
  · intro id' job hjob
    rw [lookup_cons_filter_bne] at hjob
    split at hjob
    · cases hjob
      exact .fresh hnow
    · exact h.writable hjob

/-- The update of a job that is there. -/
theorem save (h : Mirrors jobs t) {id : String} {job : Job} (hjob : jobs.lookup id = some job)
    (u : JobUpdate) {now : Timestamp} (hnow : now.Clocked) :
    Mirrors (jobs.map fun entry => if entry.1 == id then (id, job.apply u now) else entry)
      (t.save (job.apply u now)) := by
  have hold : job.id = id := h.id hjob
  have hid : (job.apply u now).id = id := hold
  have hlookup : ∀ id', (jobs.map fun entry =>
      if entry.1 == id then (id, job.apply u now) else entry).lookup id' =
        if id' = id then some (job.apply u now) else jobs.lookup id' := by
    intro id'
    rw [lookup_map_replace]
    by_cases hid' : id' = id
    · simp [hid', hjob]
    · simp [hid']
  refine ⟨?_, ?_, ?_⟩
  · intro id'
    rw [JobTable.row?_save, hlookup, h.row id', hid]
    by_cases hid' : id' = id
    · rw [if_pos hid', hid', hjob]
      -- the row keeps its time of creation, and so does the record
      simp [JobRow.ofJob, Job.apply]
    · cases jobs.lookup id' <;> simp [hid']
  · intro id' job' hjob'
    rw [hlookup] at hjob'
    split at hjob'
    · next hid' =>
      cases hjob'
      exact hid.trans hid'.symm
    · exact h.id hjob'
  · intro id' job' hjob'
    rw [hlookup] at hjob'
    split at hjob'
    · cases hjob'
      exact (h.writable hjob).apply u hnow
    · exact h.writable hjob'

/-- **One call**: mirrored stores give the same answer, which is no fault, and mirror
each other after it. -/
theorem perform (h : Mirrors jobs t) {call : TimedCall}
    (hfree : ∀ id, call.made? = some id → jobs.lookup id = none)
    (hclock : ∀ now, call.now? = some now → now.Clocked) :
    ∃ reply jobs' t', (memory jobs).perform call = (.ok reply, memory jobs') ∧
      (table t).perform call = (.ok reply, table t') ∧ Mirrors jobs' t' ∧
      ∀ id, jobs.lookup id = none → call.made? ≠ some id → jobs'.lookup id = none := by
  cases call with
  | create id now =>
    obtain ⟨t', hinsert, hmirrors⟩ := h.create (hfree id rfl) (hclock now rfl)
    refine ⟨_, _, t', rfl, ?_, hmirrors, ?_⟩
    · simp [JobStore.perform, JobStore.create, hinsert, Except.map]
    · intro id' hnone hother
      have hne : id' ≠ id := fun heq => hother (by rw [heq]; rfl)
      rw [lookup_cons_filter_bne, if_neg hne, hnone]
  | get id =>
    refine ⟨jobs.lookup id, jobs, t, rfl, ?_, h, fun _ hnone _ => hnone⟩
    simp only [JobStore.perform, JobStore.get, h.get id]
  | update id change now =>
    cases hjob : jobs.lookup id with
    | none =>
      refine ⟨none, jobs, t, ?_, ?_, h, fun _ hnone _ => hnone⟩
      · simp only [JobStore.perform, JobStore.update, hjob]
      · simp only [JobStore.perform, JobStore.update, h.get id, hjob]
    | some job =>
      refine ⟨some (job.apply change now), _, _, ?_, ?_, h.save hjob change (hclock now rfl), ?_⟩
      · simp only [JobStore.perform, JobStore.update, hjob]
      · simp only [JobStore.perform, JobStore.update, h.get id, hjob]
      · intro id' hnone _
        rw [lookup_map_replace]
        have hne : id' ≠ id := by
          rintro rfl
          rw [hjob] at hnone
          cases hnone
        rw [if_neg hne, hnone]

/-- Mirrored stores answer a sequence of calls alike, and without a fault. -/
theorem answers {calls : List TimedCall} : ∀ {jobs : List (String × Job)} {t : JobTable},
    Mirrors jobs t → (calls.filterMap TimedCall.made?).Nodup →
    (∀ id ∈ calls.filterMap TimedCall.made?, jobs.lookup id = none) →
    (∀ now ∈ calls.filterMap TimedCall.now?, now.Clocked) →
    (memory jobs).answers calls = (table t).answers calls ∧
      ∀ answer ∈ (table t).answers calls, ∃ reply, answer = .ok reply := by
  induction calls with
  | nil =>
    intro jobs t h hdistinct hfree hclock
    exact ⟨rfl, nofun⟩
  | cons call rest ih =>
    intro jobs t h hdistinct hfree hclock
    obtain ⟨reply, jobs', t', hmemory, htable, hmirrors, hstill⟩ := h.perform
      (fun id hid => hfree id (List.mem_filterMap.mpr ⟨call, List.mem_cons_self, hid⟩))
      (fun now hnow => hclock now (List.mem_filterMap.mpr ⟨call, List.mem_cons_self, hnow⟩))
    have hmade : ∀ id ∈ rest.filterMap TimedCall.made?, call.made? ≠ some id := by
      intro id hid hcall
      rw [List.filterMap_cons_some hcall, List.nodup_cons] at hdistinct
      exact hdistinct.1 hid
    have hsub : (rest.filterMap TimedCall.made?).Sublist
        ((call :: rest).filterMap TimedCall.made?) :=
      (List.sublist_cons_self call rest).filterMap _
    have hclocks : (rest.filterMap TimedCall.now?).Sublist
        ((call :: rest).filterMap TimedCall.now?) :=
      (List.sublist_cons_self call rest).filterMap _
    obtain ⟨halike, hok⟩ := ih hmirrors (hdistinct.sublist hsub)
      (fun id hid => hstill id (hfree id (hsub.subset hid)) (hmade id hid))
      (fun now hnow => hclock now (hclocks.subset hnow))
    simp only [JobStore.answers, hmemory, htable]
    refine ⟨by rw [halike], ?_⟩
    intro answer hanswer
    rcases List.mem_cons.mp hanswer with rfl | hanswer
    · exact ⟨reply, rfl⟩
    · exact hok answer hanswer

end Mirrors

/-- **The two stores are interchangeable.**  Whatever jobs are made, looked up and
updated, under ids that are made once and by a clock in the years 0 to 9999: both stores,
empty at first, give the same answer to every call, record for record and moment for
moment, and never a fault. -/
theorem answers_eq_of_backends (calls : List TimedCall)
    (hdistinct : (calls.filterMap TimedCall.made?).Nodup)
    (hclock : ∀ now ∈ calls.filterMap TimedCall.now?, now.Clocked) :
    (empty .memory).answers calls = (empty .table).answers calls ∧
      ∀ answer ∈ (empty .table).answers calls, ∃ reply, answer = .ok reply :=
  Mirrors.empty.answers hdistinct (fun _ _ => rfl) hclock

/-- A job that is made on a leap day, gets a leap second for its update, an error and a
path, and loses the error again. -/
def leapDayCalls : List TimedCall := [
  .create "job_a" ⟨1709164800, 5⟩,
  .create "" ⟨-62167219200, 0⟩,
  .update "job_a" { status := some .failed, progress := some 250, error := some (some "ü\n\"") }
    ⟨253402300799, 1999999999⟩,
  .update "job_a" { error := some none, videoPath := some (some ""), stage := some "日" }
    ⟨1709251199, 120000000⟩,
  .get "job_a",
  .update "job_b" {} ⟨0, 0⟩,
  .get ""]

/-- Two jobs on a leap day get the same answers from both stores. -/
theorem leap_day_answered_alike :
    (leapDayCalls.filterMap TimedCall.made?).Nodup ∧
      (∀ now ∈ leapDayCalls.filterMap TimedCall.now?, now.Clocked) ∧
      (empty .memory).answers leapDayCalls = (empty .table).answers leapDayCalls ∧
      ((empty .table).answers leapDayCalls)[4]? = some (.ok (some ⟨"job_a", .failed, 100, "日",
        none, some "", ⟨1709164800, 5⟩, ⟨1709251199, 120000000⟩⟩)) := by
  have hdistinct : (leapDayCalls.filterMap TimedCall.made?).Nodup := by decide
  have hclock : ∀ now ∈ leapDayCalls.filterMap TimedCall.now?, now.Clocked := by decide
  have halike := (answers_eq_of_backends leapDayCalls hdistinct hclock).1
  refine ⟨hdistinct, hclock, halike, ?_⟩
  rw [← halike]
  rfl

end JobStore

end SceneRender
