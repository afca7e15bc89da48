import SceneRender.Proofs.Job.Records

/-!
# What a job store keeps

`JobStore.record?` tells what can be read from a store.  A row of the table can be out of
reach for one reason that has nothing to do with the job: a moment that the clock gave
need not be a moment that can be read back.  Here the store is looked at from within.
`JobStore.held?` is what it keeps under an id, moments included, and `JobStore.stored?`
is the record that the entry stands for, moments aside.

No call that succeeds needs any promise of the clock then: a job that was made is stored
as a fresh one, and a job that was updated is stored as the old one with the update.
-/

namespace SceneRender

/-! ## Rows without moments -/

namespace JobRow

/-- The row with the beginning of 1970 for both of its moments. -/
def undated (row : JobRow) : JobRow :=
  { row with
    createdAt := .text Timestamp.epoch.stored, updatedAt := .text Timestamp.epoch.stored }

/-- The text of the epoch is read as the epoch. -/
theorem ofString_epoch : Timestamp.ofString Timestamp.epoch.stored = .ok .epoch := by
  rfl

/-- A row whose cells are those of a job stands for the job, moments aside. -/
theorem toJob_undated {row : JobRow} {job : Job} (hid : row.id = .text job.id)
    (hstatus : row.status = .text job.status.name) (hprogress : row.progress = .whole job.progress)
    (hbyte : job.progress ≤ 255) (hstage : row.stage = .text job.stage)
    (herror : row.error = textOrNull job.error) (hvideo : row.videoPath = textOrNull job.videoPath) :
    row.undated.toJob = .ok job.undated :=
  toJob_eq_ok.mpr ⟨hid, hstatus, hprogress, hbyte, hstage, herror, hvideo,
    ⟨_, rfl, ofString_epoch⟩, ⟨_, rfl, ofString_epoch⟩⟩

/-- What can be read stands in the row, moments aside. -/
theorem undated_toJob {row : JobRow} {job : Job} (h : row.toJob = .ok job) :
    row.undated.toJob = .ok job.undated := by
  have hcells := toJob_eq_ok.mp h
  exact toJob_undated hcells.id hcells.status hcells.progress hcells.byte hcells.stage hcells.error
    hcells.videoPath

end JobRow

/-! ## Entries -/

/-- What a store keeps under an id. -/
inductive JobEntry where
  | record (job : Job)
  | row (row : JobRow)
  deriving DecidableEq

namespace JobEntry

/-- The record that an entry stands for, moments aside. -/
def undated? : JobEntry → Option Job
  | record job => some job.undated
  | row r => r.undated.toJob.toOption

/-- What is read from an entry. -/
def read : JobEntry → Except StoreFault (Option Job)
  | record job => .ok (some job)
  | row r =>
    match r.toJob with
    | .ok job => .ok (some job)
    | .error fault => .error (.badRow fault)

/-- What can be read of an entry is what it is without dates. -/
theorem undated?_of_read {entry : JobEntry} {job : Job} (h : entry.read = .ok (some job)) :
    entry.undated? = some job.undated := by
  cases entry with
  | record job' =>
      cases h
      rfl
  | row r =>
      cases hjob : r.toJob with
      | error fault => simp [read, hjob] at h
      | ok job' =>
          obtain rfl : job' = job := by simpa [read, hjob] using h
          rw [undated?, JobRow.undated_toJob hjob]
          rfl

/-- An entry that can be read is a job. -/
theorem read_ne_none (entry : JobEntry) : entry.read ≠ .ok none := by
  cases entry with
  | record job => nofun
  | row r => cases hjob : r.toJob <;> simp [read, hjob]

end JobEntry

namespace JobStore

/-- The entry that a store holds under an id. -/
def held? : JobStore → String → Option JobEntry
  | memory jobs, id => (jobs.lookup id).map .record
  | table t, id => (t.row? id).map .row

/-- The record that is kept under an id, moments aside. -/
def stored? (store : JobStore) (id : String) : Option Job :=
  (store.held? id).bind JobEntry.undated?

variable {store store' : JobStore} {id id' : String} {now : Timestamp} {u : JobUpdate} {job : Job}

/-- Stores that hold the same have stored the same. -/
theorem stored?_congr (h : store'.held? id = store.held? id) :
    store'.stored? id = store.stored? id := by
  rw [stored?, stored?, h]

/-- What a store says of a job is read from its entry. -/
theorem get_eq_held (store : JobStore) (id : String) :
    store.get id = match store.held? id with
      | none => .ok none
      | some entry => entry.read := by
  cases store with
  | memory jobs => cases hjob : jobs.lookup id <;> simp [get, held?, hjob, JobEntry.read]
  | table t =>
      cases hrow : t.row? id with
      | none => simp [get, JobTable.get, held?, hrow]
      | some r => cases hjob : r.toJob <;> simp [get, JobTable.get, held?, hrow, hjob, JobEntry.read]

/-- Stores that hold the same give the same. -/
theorem get_congr (h : store'.held? id = store.held? id) : store'.get id = store.get id := by
  rw [get_eq_held, get_eq_held, h]

/-- There is something under an id if there is an entry. -/
theorem has_iff_held : store.Has id ↔ ∃ entry, store.held? id = some entry := by
  rw [Has, get_eq_held]
  cases hentry : store.held? id with
  | none => simp
  | some entry => simp [entry.read_ne_none]

/-- What is stored is there. -/
theorem has_of_stored? (h : store.stored? id = some job) : store.Has id := by
  cases hentry : store.held? id with
  | none =>
      rw [stored?, hentry] at h
      cases h
  | some entry => exact has_iff_held.mpr ⟨entry, hentry⟩

/-- **What can be read is stored.** -/
theorem stored?_of_get (h : store.get id = .ok (some job)) :
    store.stored? id = some job.undated := by
  rw [get_eq_held] at h
  cases hentry : store.held? id with
  | none =>
      rw [hentry] at h
      cases h
  | some entry =>
      rw [hentry] at h
      rw [stored?, hentry]
      exact JobEntry.undated?_of_read h

/-- A table holds its rows. -/
theorem held?_table {t : JobTable} : (table t).held? id = (t.row? id).map .row := rfl

/-- What a table has stored is read from the row, dates aside. -/
theorem stored?_table {t : JobTable} {row : JobRow} (h : t.row? id = some row) :
    (table t).stored? id = row.undated.toJob.toOption := by
  rw [stored?, held?_table, h]
  rfl

/-! ## Calls that succeed -/

/-- **A job that was made is stored as a fresh one**, and no other entry is changed. -/
theorem stored?_create (h : (store.create id now).1 = .ok job) :
    (store.create id now).2.stored? id = some (.fresh id .epoch) ∧
      ∀ id', id' ≠ id → (store.create id now).2.held? id' = store.held? id' := by
  cases store with
  | memory jobs =>
      have hlookup : ∀ id', ((memory jobs).create id now).2.held? id' =
          (if id' = id then some (.fresh id now) else jobs.lookup id').map .record := by
        intro id'
        rw [create, held?, lookup_cons_filter_bne]
      refine ⟨?_, ?_⟩
      · rw [stored?, hlookup, if_pos rfl]
        rfl
      · intro id' hne
        rw [hlookup, if_neg hne, held?]
  | table t =>
      cases hinsert : t.insert (.fresh id now) with
      | error fault => simp [create, hinsert] at h
      | ok t' =>
          have hrow : ∀ id', t'.row? id' =
              if id' = id then some (.ofJob (.fresh id now)) else t.row? id' :=
            JobTable.row?_insert hinsert
          have hstore : ((table t).create id now).2 = table t' := by simp [create, hinsert]
          rw [hstore]
          refine ⟨?_, ?_⟩
          · have hown : t'.row? id = some (.ofJob (.fresh id now)) := by
              rw [hrow, if_pos rfl]
            have hjob : (JobRow.ofJob (.fresh id now)).undated.toJob =
                .ok (Job.fresh id now).undated :=
              JobRow.toJob_undated rfl rfl rfl (Nat.zero_le _) rfl rfl rfl
            rw [stored?_table hown, hjob]
            rfl
          · intro id' hne
            rw [held?_table, held?_table, hrow, if_neg hne]

/-- **A job that was updated is stored as the old one with the update**, and no other
entry is changed. -/
theorem stored?_update (h : (store.update id u now).1 = .ok (some job)) :
    ∃ old, store.stored? id = some old ∧ job.undated = old.apply u .epoch ∧
      (store.update id u now).2.stored? id = some (old.apply u .epoch) ∧
      ∀ id', id' ≠ id → (store.update id u now).2.held? id' = store.held? id' := by
  cases store with
  | memory jobs =>
      cases hold : jobs.lookup id with
      | none => simp [update, hold] at h
      | some old =>
          obtain rfl : old.apply u now = job := by simpa [update, hold] using h
          have hlookup : ∀ id', ((memory jobs).update id u now).2.held? id' =
              (if id' = id then some (old.apply u now) else jobs.lookup id').map .record := by
            intro id'
            simp only [update, hold, held?, lookup_map_replace]
            by_cases hid : id' = id
            · simp [hid, hold]
            · simp [hid]
          refine ⟨old.undated, ?_, Job.undated_apply old u now, ?_, ?_⟩
          · rw [stored?, held?, hold]
            rfl
          · rw [stored?, hlookup, if_pos rfl]
            rfl
          · intro id' hne
            rw [hlookup, if_neg hne, held?]
  | table t =>
      rcases hold : t.get id with fault | _ | old
      · simp [update, hold] at h
      · simp [update, hold] at h
      · obtain rfl : old.apply u now = job := by simpa [update, hold] using h
        have hid : old.id = id := JobTable.id_of_get hold
        have hstore : ((table t).update id u now).2 = table (t.save (old.apply u now)) := by
          simp [update, hold]
        have hget : (table t).get id = .ok (some old) := hold
        cases hrow : t.row? id with
        | none => simp [JobTable.get, hrow] at hold
        | some row =>
            have hjob : row.toJob = .ok old := by
              cases hcase : row.toJob with
              | error fault => simp [JobTable.get, hrow, hcase] at hold
              | ok back => simpa [JobTable.get, hrow, hcase] using hold
            have hbyte : (old.apply u now).progress ≤ 255 :=
              Job.progress_apply_le (JobRow.toJob_eq_ok.mp hjob).byte u now
            have hsaved := JobTable.row?_save t (old.apply u now)
            have hown : (t.save (old.apply u now)).row? id =
                some { JobRow.ofJob (old.apply u now) with createdAt := row.createdAt } := by
              have hsame : id = (old.apply u now).id := hid.symm
              rw [hsaved, hrow, Option.map_some, if_pos hsame]
            have hnew : ({ JobRow.ofJob (old.apply u now) with
                createdAt := row.createdAt } : JobRow).undated.toJob =
                  .ok (old.apply u now).undated :=
              JobRow.toJob_undated rfl rfl rfl hbyte rfl rfl rfl
            rw [hstore]
            refine ⟨old.undated, stored?_of_get hget, Job.undated_apply old u now, ?_, ?_⟩
            · rw [stored?_table hown, hnew]
              rfl
            · intro id' hne
              have hother : id' ≠ (old.apply u now).id := fun heq => hne (heq.trans hid)
              have hkept : (t.save (old.apply u now)).row? id' = t.row? id' := by
                simp [hsaved, hother]
              rw [held?_table, held?_table, hkept]

end JobStore

end SceneRender
