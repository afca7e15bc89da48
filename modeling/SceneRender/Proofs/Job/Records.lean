import SceneRender.Job.Store
import SceneRender.Proofs.Entries

/-!
# What a job store knows of a job

Both backends are seen through one view: `JobStore.record?` is the record of a job
without its moments, and `JobStore.Has` says that there is something under an id, be it
readable or not.  A row of the table comes back as the record that was written, but for
its moments, which are stored in shorter form (`JobRow.undated_of_toJob`).

Making a job adds a fresh record under its id; an update that finds its job replaces
the record by the updated one; every other call leaves the store as it was.
-/

namespace SceneRender

/-- The record without its moments. -/
def Job.undated (job : Job) : Job := { job with createdAt := .epoch, updatedAt := .epoch }

/-- Moments play no part in an update. -/
theorem Job.undated_apply (job : Job) (u : JobUpdate) (now : Timestamp) :
    (job.apply u now).undated = (job.undated.apply u .epoch) := rfl

/-- An update leaves the progress a number of eight bits. -/
theorem Job.progress_apply_le {job : Job} (h : job.progress ≤ 255) (u : JobUpdate)
    (now : Timestamp) : (job.apply u now).progress ≤ 255 := by
  cases hprogress : u.progress with
  | none => simpa [Job.apply, hprogress] using h
  | some n =>
      simp only [Job.apply, hprogress, Option.map_some, Option.getD_some, Job.fullProgress]
      omega

/-! ## Reading a row back -/

/-- A computation in two steps succeeds when both do. -/
theorem bind_eq_ok {ε α β : Type} {x : Except ε α} {f : α → Except ε β} {b : β} :
    (x >>= f) = .ok b ↔ ∃ a, x = .ok a ∧ f a = .ok b := by
  cases x with
  | error e =>
      constructor
      · intro h
        cases h
      · rintro ⟨a, ha, -⟩
        cases ha
  | ok a =>
      constructor
      · intro h
        exact ⟨a, rfl, h⟩
      · rintro ⟨a', ha, hf⟩
        cases ha
        exact hf

namespace JobRow

variable {row : JobRow} {job : Job} {column : JobColumn}

/-- A text is read from a cell with that text only. -/
theorem textAt_eq_ok {text : String} :
    row.textAt column = .ok text ↔ row.cell column = .text text := by
  cases hcell : row.cell column <;> simp [textAt, hcell]

/-- An optional text is read from a cell that it was written to. -/
theorem textAt?_eq_ok {text : Option String} :
    row.textAt? column = .ok text ↔ row.cell column = textOrNull text := by
  cases hcell : row.cell column <;> cases text <;> simp [textAt?, hcell, textOrNull]

/-- A byte is read from a cell with a small number only. -/
theorem byteAt_eq_ok {n : Nat} :
    row.byteAt column = .ok n ↔ row.cell column = .whole n ∧ n ≤ 255 := by
  cases hcell : row.cell column with
  | whole m =>
      simp only [byteAt, hcell, Cell.whole.injEq, Bool.and_eq_true, decide_eq_true_eq]
      by_cases hrange : 0 ≤ m ∧ m ≤ 255
      · rw [if_pos hrange, Except.ok.injEq]
        omega
      · rw [if_neg hrange]
        simp only [reduceCtorEq, false_iff]
        omega
  | _ => simp [byteAt, hcell]

/-- A moment is read from a text that spells it. -/
theorem moment_eq_ok {text : String} {t : Timestamp} :
    moment text = .ok t ↔ Timestamp.ofString text = .ok t := by
  cases htext : Timestamp.ofString text <;> simp [moment, htext]

/-- **The cells of a row say what the job is.** -/
structure Says (row : JobRow) (job : Job) : Prop where
  id : row.id = .text job.id
  status : row.status = .text job.status.name
  progress : row.progress = .whole job.progress
  byte : job.progress ≤ 255
  stage : row.stage = .text job.stage
  error : row.error = textOrNull job.error
  videoPath : row.videoPath = textOrNull job.videoPath
  createdAt : ∃ text, row.createdAt = .text text ∧ Timestamp.ofString text = .ok job.createdAt
  updatedAt : ∃ text, row.updatedAt = .text text ∧ Timestamp.ofString text = .ok job.updatedAt

/-- **A row is read as the job that its cells say, and as no other.** -/
theorem toJob_eq_ok : row.toJob = .ok job ↔ row.Says job := by
  constructor
  · intro h
    rw [toJob] at h
    obtain ⟨id, hid, h⟩ := bind_eq_ok.mp h
    obtain ⟨status, hstatus, h⟩ := bind_eq_ok.mp h
    obtain ⟨progress, hprogress, h⟩ := bind_eq_ok.mp h
    obtain ⟨stage, hstage, h⟩ := bind_eq_ok.mp h
    obtain ⟨error, herror, h⟩ := bind_eq_ok.mp h
    obtain ⟨video, hvideo, h⟩ := bind_eq_ok.mp h
    obtain ⟨created, hcreated, h⟩ := bind_eq_ok.mp h
    obtain ⟨updated, hupdated, h⟩ := bind_eq_ok.mp h
    cases hname : JobStatus.ofName? status with
    | none => simp [hname] at h
    | some known =>
        simp only [hname] at h
        obtain ⟨createdAt, hcreatedAt, h⟩ := bind_eq_ok.mp h
        obtain ⟨updatedAt, hupdatedAt, h⟩ := bind_eq_ok.mp h
        have hknown : known.name = status := by
          simpa using List.find?_some hname
        obtain ⟨hprogress, hbyte⟩ := byteAt_eq_ok.mp hprogress
        cases h
        exact ⟨textAt_eq_ok.mp hid, hknown ▸ textAt_eq_ok.mp hstatus, hprogress, hbyte,
          textAt_eq_ok.mp hstage, textAt?_eq_ok.mp herror, textAt?_eq_ok.mp hvideo,
          ⟨created, textAt_eq_ok.mp hcreated, moment_eq_ok.mp hcreatedAt⟩,
          ⟨updated, textAt_eq_ok.mp hupdated, moment_eq_ok.mp hupdatedAt⟩⟩
  · intro h
    obtain ⟨created, hcreated, hcreatedAt⟩ := h.createdAt
    obtain ⟨updated, hupdated, hupdatedAt⟩ := h.updatedAt
    have hid : row.textAt .id = .ok job.id := textAt_eq_ok.mpr h.id
    have hstatus : row.textAt .status = .ok job.status.name := textAt_eq_ok.mpr h.status
    have hprogress : row.byteAt .progress = .ok job.progress :=
      byteAt_eq_ok.mpr ⟨h.progress, h.byte⟩
    have hstage : row.textAt .stage = .ok job.stage := textAt_eq_ok.mpr h.stage
    have herror : row.textAt? .error = .ok job.error := textAt?_eq_ok.mpr h.error
    have hvideo : row.textAt? .videoPath = .ok job.videoPath := textAt?_eq_ok.mpr h.videoPath
    have hcreatedText : row.textAt .createdAt = .ok created := textAt_eq_ok.mpr hcreated
    have hupdatedText : row.textAt .updatedAt = .ok updated := textAt_eq_ok.mpr hupdated
    simp only [toJob, hid, hstatus, hprogress, hstage, herror, hvideo, hcreatedText, hupdatedText,
      bind, Except.bind, JobStatus.ofName?_name, moment_eq_ok.mpr hcreatedAt,
      moment_eq_ok.mpr hupdatedAt]
    rfl

/-- Optional texts are told apart by their cells. -/
theorem textOrNull_inj {a b : Option String} (h : textOrNull a = textOrNull b) : a = b := by
  cases a <;> cases b <;> simp_all [textOrNull]

/-- **A row comes back as the record that was written**, but for its moments; the time
of creation may be that of an older row. -/
theorem undated_of_toJob {job back : Job} {created : Cell}
    (h : ({ ofJob job with createdAt := created } : JobRow).toJob = .ok back) :
    back.undated = job.undated := by
  have hcells := toJob_eq_ok.mp h
  have hname : job.status = back.status := by
    have hsome : JobStatus.ofName? job.status.name = JobStatus.ofName? back.status.name :=
      congrArg _ (Cell.text.inj hcells.status)
    simpa [JobStatus.ofName?_name] using hsome
  have hcount : job.progress = back.progress := Int.ofNat.inj (Cell.whole.inj hcells.progress)
  have hid : job.id = back.id := Cell.text.inj hcells.id
  have hstage : job.stage = back.stage := Cell.text.inj hcells.stage
  rw [Job.undated, Job.undated, hid, hname, hcount, hstage, textOrNull_inj hcells.error,
    textOrNull_inj hcells.videoPath]

end JobRow

/-! ## One view of both stores -/

namespace JobStore

variable {store : JobStore} {id id' : String} {now : Timestamp} {u : JobUpdate} {job old : Job}

/-- The record of a job without its moments, if it can be read. -/
def record? (store : JobStore) (id : String) : Option Job :=
  match store.get id with
  | .ok (some job) => some job.undated
  | _ => none

/-- Is there anything under an id? -/
def Has (store : JobStore) (id : String) : Prop := store.get id ≠ .ok none

/-- What the store gives is the record, dates aside. -/
theorem record?_of_get (h : store.get id = .ok (some job)) :
    store.record? id = some job.undated := by
  rw [record?, h]

/-- A record can be had from the store, with some dates. -/
theorem get_of_record? (h : store.record? id = some job) :
    ∃ back, store.get id = .ok (some back) ∧ back.undated = job := by
  rw [record?] at h
  split at h
  · next back hback => exact ⟨back, hback, Option.some.inj h⟩
  · cases h

/-- A job with a record is there. -/
theorem has_of_record? (h : store.record? id = some job) : store.Has id := by
  obtain ⟨back, hback, -⟩ := get_of_record? h
  rw [Has, hback]
  nofun

/-- Stores that give the same have the same record. -/
theorem record?_congr {store' : JobStore} (h : store'.get id = store.get id) :
    store'.record? id = store.record? id := by
  rw [record?, record?, h]

/-- What can be read is there. -/
theorem has_of_get (h : store.get id = .ok (some job)) : store.Has id := by
  rw [Has, h]
  nofun

/-- Stores that give the same have the same job. -/
theorem has_congr {store' : JobStore} (h : store'.get id = store.get id) :
    store'.Has id ↔ store.Has id := by
  rw [Has, Has, h]

end JobStore

/-! ## The table -/

namespace JobTable

variable {t t' : JobTable} {id : String} {job : Job}

/-- The id of a job that is read is the one that it was looked up by. -/
theorem id_of_get (h : t.get id = .ok (some job)) : job.id = id := by
  rw [get] at h
  cases hrow : t.row? id with
  | none => simp [hrow] at h
  | some row =>
      have hid : row.id = .text id := by
        simpa using List.find?_some hrow
      cases hjob : row.toJob with
      | error fault => simp [hrow, hjob] at h
      | ok back =>
          obtain rfl : back = job := by simpa [hrow, hjob] using h
          have hcell := (JobRow.toJob_eq_ok.mp hjob).id
          rw [hid] at hcell
          exact (Cell.text.inj hcell).symm

/-- Tables with the same row give the same job. -/
theorem get_congr (h : t'.row? id = t.row? id) : t'.get id = t.get id := by
  rw [get, get, h]

/-- Under an id with a row there is something, readable or not. -/
theorem get_ne_none {row : JobRow} (hrow : t.row? id = some row) : t.get id ≠ .ok none := by
  cases hjob : row.toJob <;> simp [get, hrow, hjob]

/-- A job whose row was written comes back as it was written. -/
theorem undated_of_get {back : Job} {created : Cell}
    (hrow : t.row? id = some { JobRow.ofJob job with createdAt := created })
    (h : t.get id = .ok (some back)) : back.undated = job.undated := by
  cases hjob : ({ JobRow.ofJob job with createdAt := created } : JobRow).toJob with
  | error fault =>
      simp only [get, hrow, hjob] at h
      cases h
  | ok found =>
      simp only [get, hrow, hjob] at h
      cases h
      exact JobRow.undated_of_toJob hjob

/-- An inserted job has its row, and the other rows stay. -/
theorem row?_insert (h : t.insert job = .ok t') (id : String) :
    t'.row? id = if id = job.id then some (.ofJob job) else t.row? id := by
  rw [insert] at h
  cases hrow : t.row? job.id with
  | some row => simp [hrow] at h
  | none =>
      obtain rfl : t' = ⟨t.rows ++ [.ofJob job]⟩ := by simpa [hrow] using h.symm
      rw [row?, List.find?_append]
      by_cases hid : id = job.id
      · subst hid
        rw [row?] at hrow
        simp [hrow, JobRow.ofJob]
      · have hother : (JobRow.ofJob job).id ≠ .text id := by
          simpa [JobRow.ofJob] using Ne.symm hid
        simp [hid, hother, row?]

/-- Saving a job changes no id. -/
theorem id_saved (job : Job) (row : JobRow) :
    (if row.id == .text job.id then { JobRow.ofJob job with createdAt := row.createdAt }
      else row).id = row.id := by
  split
  · next hrow => exact (beq_iff_eq.mp hrow).symm
  · rfl

/-- A saved job has its new row with the old date, and the other rows stay. -/
theorem row?_save (t : JobTable) (job : Job) (id : String) :
    (t.save job).row? id = (t.row? id).map fun row =>
      if id = job.id then { JobRow.ofJob job with createdAt := row.createdAt } else row := by
  rw [row?, save, List.find?_map, row?]
  have hsame : ((fun row : JobRow => row.id == .text id) ∘ fun row =>
      if row.id == .text job.id then { JobRow.ofJob job with createdAt := row.createdAt }
        else row) = fun row => row.id == .text id := by
    funext row
    simp only [Function.comp, id_saved]
  rw [hsame]
  cases hrow : t.rows.find? fun row => row.id == .text id with
  | none => rfl
  | some row =>
      have hid : row.id = .text id := by
        simpa using List.find?_some hrow
      simp [hid]

end JobTable

/-! ## Calls of a store -/

namespace JobStore

variable {store : JobStore} {id id' : String} {now : Timestamp} {u : JobUpdate} {job old : Job}

/-- A call that is refused leaves no trace. -/
theorem create_eq_error {fault : StoreFault} (h : (store.create id now).1 = .error fault) :
    (store.create id now).2 = store := by
  cases store with
  | memory jobs => cases h
  | table t =>
      cases hinsert : t.insert (.fresh id now) with
      | error fault => simp [create, hinsert]
      | ok t' => simp [create, hinsert] at h

/-- **Making a job**: a fresh record under its id, and nothing else is changed. -/
theorem create_eq_ok (h : (store.create id now).1 = .ok job) :
    job = .fresh id now ∧ (store.create id now).2.Has id ∧
      (∀ j, (store.create id now).2.record? id = some j → j = job.undated) ∧
      ∀ id', id' ≠ id → (store.create id now).2.get id' = store.get id' := by
  cases store with
  | memory jobs =>
      obtain rfl : Job.fresh id now = job := by simpa [create] using h
      have hget : ∀ id', (memory jobs |>.create id now).2.get id' =
          .ok (if id' = id then some (.fresh id now) else jobs.lookup id') := by
        intro id'
        rw [create, get, lookup_cons_filter_bne]
      have hnew : (memory jobs |>.create id now).2.get id = .ok (some (.fresh id now)) := by
        rw [hget, if_pos rfl]
      refine ⟨rfl, has_of_get hnew, ?_, ?_⟩
      · intro j hj
        rw [record?, hget, if_pos rfl] at hj
        exact (Option.some.inj hj).symm
      · intro id' hne
        rw [hget, if_neg hne, get]
  | table t =>
      cases hinsert : t.insert (.fresh id now) with
      | error fault => simp [create, hinsert] at h
      | ok t' =>
          obtain rfl : Job.fresh id now = job := by simpa [create, hinsert] using h
          have hrow : ∀ id', t'.row? id' =
              if id' = id then some (.ofJob (.fresh id now)) else t.row? id' :=
            JobTable.row?_insert hinsert
          have hstore : ((table t).create id now).2 = table t' := by simp [create, hinsert]
          rw [hstore]
          have hnew : t'.row? id = some (.ofJob (.fresh id now)) := by
            rw [hrow, if_pos rfl]
          refine ⟨rfl, JobTable.get_ne_none hnew, ?_, ?_⟩
          · intro j hj
            obtain ⟨back, hback, rfl⟩ := get_of_record? hj
            exact JobTable.undated_of_get hnew hback
          · intro id' hne
            exact JobTable.get_congr (by rw [hrow, if_neg hne])

/-- An update that does not find its job leaves the store as it was. -/
theorem update_eq_self (h : ∀ job, (store.update id u now).1 ≠ .ok (some job)) :
    (store.update id u now).2 = store := by
  cases store with
  | memory jobs =>
      cases hold : jobs.lookup id with
      | none => simp [update, hold]
      | some old => exact absurd (by simp [update, hold]) (h (old.apply u now))
  | table t =>
      rcases hold : t.get id with fault | _ | old
      · simp [update, hold]
      · simp [update, hold]
      · exact absurd (by simp [update, hold]) (h (old.apply u now))

/-- Only a job that is not there is missing. -/
theorem not_has_of_update (h : (store.update id u now).1 = .ok none) : ¬ store.Has id := by
  rw [Has, Classical.not_not]
  cases store with
  | memory jobs =>
      cases hold : jobs.lookup id with
      | none => rw [get, hold]
      | some old => simp [update, hold] at h
  | table t =>
      rcases hold : t.get id with fault | _ | old
      · simp [update, hold] at h
      · exact hold
      · simp [update, hold] at h

/-- **Updating a job**: its record is the old one with the update, and nothing else is
changed. -/
theorem update_eq_ok (h : (store.update id u now).1 = .ok (some job)) :
    ∃ old, store.get id = .ok (some old) ∧ job = old.apply u now ∧
      (store.update id u now).2.Has id ∧
      (∀ j, (store.update id u now).2.record? id = some j → j = job.undated) ∧
      ∀ id', id' ≠ id → (store.update id u now).2.get id' = store.get id' := by
  cases store with
  | memory jobs =>
      cases hold : jobs.lookup id with
      | none => simp [update, hold] at h
      | some old =>
          obtain rfl : old.apply u now = job := by simpa [update, hold] using h
          have hget : ∀ id', ((memory jobs).update id u now).2.get id' =
              .ok (if id' = id then some (old.apply u now) else jobs.lookup id') := by
            intro id'
            simp only [update, hold, get, lookup_map_replace]
            by_cases hid : id' = id
            · simp [hid, hold]
            · simp [hid]
          have hnew : ((memory jobs).update id u now).2.get id = .ok (some (old.apply u now)) := by
            rw [hget, if_pos rfl]
          refine ⟨old, by rw [get, hold], rfl, has_of_get hnew, ?_, ?_⟩
          · intro j hj
            rw [record?, hget, if_pos rfl] at hj
            exact (Option.some.inj hj).symm
          · intro id' hne
            rw [hget, if_neg hne, get]
  | table t =>
      rcases hold : t.get id with fault | _ | old
      · simp [update, hold] at h
      · simp [update, hold] at h
      · obtain rfl : old.apply u now = job := by simpa [update, hold] using h
        have hid : old.id = id := JobTable.id_of_get hold
        have hstore : ((table t).update id u now).2 = table (t.save (old.apply u now)) := by
          simp [update, hold]
        rw [hstore]
        cases hrow : t.row? id with
        | none => simp [JobTable.get, hrow] at hold
        | some row =>
            have hsaved := JobTable.row?_save t (old.apply u now)
            have hnew : (t.save (old.apply u now)).row? id =
                some { JobRow.ofJob (old.apply u now) with createdAt := row.createdAt } := by
              have hown : id = (old.apply u now).id := hid.symm
              rw [hsaved, hrow, Option.map_some, if_pos hown]
            refine ⟨old, by rw [get, hold], rfl, JobTable.get_ne_none hnew, ?_, ?_⟩
            · intro j hj
              obtain ⟨back, hback, rfl⟩ := get_of_record? hj
              exact JobTable.undated_of_get hnew hback
            · intro id' hne
              have hkept : (t.save (old.apply u now)).row? id' = t.row? id' := by
                have hother : id' ≠ (old.apply u now).id := fun heq => hne (heq.trans hid)
                simp [hsaved, hother]
              exact JobTable.get_congr hkept

end JobStore

end SceneRender
