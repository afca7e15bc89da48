import SceneRender.Proofs.Job.MomentGrammar
import SceneRender.Proofs.Job.TwoStores

/-!
# Rows that other hands have damaged

A table can hold rows that no job ever had: every column takes any text, and most of them null.
`JobRow.Sound` says, column by column, which rows are jobs, without saying how a row is read.  A
row that is not sound is refused and left as it is.  An update of a sound one replaces that row
alone, keeps its id and its time of creation, and answers with what is read from then on.

The one thing asked of the table is that no two rows have the same id.  It is what the primary
key promises, rows without an id aside, and whatever is done to a table keeps it
(`JobTable.Reached.distinctIds`).
-/

namespace SceneRender

/-! ## Sound rows -/

/-- The texts that stand for a status. -/
def statusNames : List String :=
  ["queued", "validating", "rendering", "retrying", "done", "failed", "timeout"]

/-- The names of statuses are the ones in the list. -/
theorem JobStatus.mem_statusNames_iff {name : String} :
    name ∈ statusNames ↔ ∃ status : JobStatus, status.name = name := by
  constructor
  · intro h
    have hnames : statusNames = JobStatus.all.map JobStatus.name := rfl
    rw [hnames] at h
    obtain ⟨status, -, hstatus⟩ := List.mem_map.mp h
    exact ⟨status, hstatus⟩
  · rintro ⟨status, rfl⟩
    cases status <;> decide

/-- Does the cell hold the text of a moment? -/
def Cell.IsMoment (c : Cell) : Prop := ∃ text, c = .text text ∧ Timestamp.MomentText text.toList

/-- Does the cell hold a text, or nothing? -/
def Cell.IsTextOrNull (c : Cell) : Prop := c = .null ∨ ∃ text, c = .text text

namespace JobRow

variable {row : JobRow} {job : Job}

/-- **A row that is a job**, column by column. -/
structure Sound (row : JobRow) : Prop where
  id : ∃ text, row.id = .text text
  status : ∃ name ∈ statusNames, row.status = .text name
  progress : ∃ n : Int, row.progress = .whole n ∧ 0 ≤ n ∧ n ≤ 255
  stage : ∃ text, row.stage = .text text
  error : row.error.IsTextOrNull
  videoPath : row.videoPath.IsTextOrNull
  createdAt : row.createdAt.IsMoment
  updatedAt : row.updatedAt.IsMoment

/-- A cell holds a text or nothing exactly if it is written from an optional text. -/
theorem isTextOrNull_iff {c : Cell} : c.IsTextOrNull ↔ ∃ text, c = textOrNull text := by
  constructor
  · rintro (rfl | ⟨text, rfl⟩)
    · exact ⟨none, rfl⟩
    · exact ⟨some text, rfl⟩
  · rintro ⟨_ | text, rfl⟩
    · exact Or.inl rfl
    · exact Or.inr ⟨text, rfl⟩

/-- A cell holds a moment exactly if its text can be read as one. -/
theorem isMoment_iff {c : Cell} :
    c.IsMoment ↔ ∃ t text, c = .text text ∧ Timestamp.ofString text = .ok t := by
  constructor
  · rintro ⟨text, hc, h⟩
    obtain ⟨t, ht⟩ := Timestamp.ofString_ok_iff.mpr h
    exact ⟨t, text, hc, ht⟩
  · rintro ⟨t, text, hc, ht⟩
    exact ⟨text, hc, Timestamp.ofString_ok_iff.mp ⟨t, ht⟩⟩

/-- **Exactly the sound rows are read.** -/
theorem exists_toJob_iff : (∃ job, row.toJob = .ok job) ↔ row.Sound := by
  constructor
  · rintro ⟨job, h⟩
    have hcells := toJob_eq_ok.mp h
    have hbyte := hcells.byte
    exact {
      id := ⟨_, hcells.id⟩
      status := ⟨_, JobStatus.mem_statusNames_iff.mpr ⟨_, rfl⟩, hcells.status⟩
      progress := ⟨_, hcells.progress, by omega, by omega⟩
      stage := ⟨_, hcells.stage⟩
      error := isTextOrNull_iff.mpr ⟨_, hcells.error⟩
      videoPath := isTextOrNull_iff.mpr ⟨_, hcells.videoPath⟩
      createdAt := isMoment_iff.mpr ⟨_, hcells.createdAt⟩
      updatedAt := isMoment_iff.mpr ⟨_, hcells.updatedAt⟩ }
  · intro h
    obtain ⟨id, hid⟩ := h.id
    obtain ⟨_, hname, hstatus⟩ := h.status
    obtain ⟨status, rfl⟩ := JobStatus.mem_statusNames_iff.mp hname
    obtain ⟨n, hprogress, hpos, hbyte⟩ := h.progress
    obtain ⟨n, rfl⟩ := Int.eq_ofNat_of_zero_le hpos
    obtain ⟨stage, hstage⟩ := h.stage
    obtain ⟨error, herror⟩ := isTextOrNull_iff.mp h.error
    obtain ⟨videoPath, hvideo⟩ := isTextOrNull_iff.mp h.videoPath
    obtain ⟨createdAt, hcreated⟩ := isMoment_iff.mp h.createdAt
    obtain ⟨updatedAt, hupdated⟩ := isMoment_iff.mp h.updatedAt
    exact ⟨⟨id, status, n, stage, error, videoPath, createdAt, updatedAt⟩, toJob_eq_ok.mpr
      ⟨hid, hstatus, hprogress, Int.ofNat_le.mp hbyte, hstage, herror, hvideo, hcreated, hupdated⟩⟩

/-- The row that an update writes says the updated job. -/
theorem Says.apply (h : row.Says job) (u : JobUpdate) {now : Timestamp} (hnow : now.Clocked) :
    ({ ofJob (job.apply u now) with createdAt := row.createdAt } : JobRow).Says
      (job.apply u now) where
  id := rfl
  status := rfl
  progress := rfl
  byte := Job.progress_apply_le h.byte u now
  stage := rfl
  error := rfl
  videoPath := rfl
  createdAt := h.createdAt
  updatedAt := ⟨_, rfl, Timestamp.ofString_stored hnow⟩

end JobRow

/-! ## Tables with a primary key -/

namespace JobTable

variable {t t' : JobTable} {row : JobRow} {id : String} {job : Job}

/-- **No two rows have the same id**, unless they have none. -/
def DistinctIds (t : JobTable) : Prop := t.rows.Pairwise fun a b => a.id = b.id → a.id = .null

instance : DecidablePred DistinctIds := fun t =>
  inferInstanceAs (Decidable (t.rows.Pairwise fun a b => a.id = b.id → a.id = .null))

/-- What can be done to a table: a job is added or saved, or a content is put into a cell. -/
inductive Reached : JobTable → Prop
  | empty : Reached .empty
  | insert {t t' : JobTable} {job : Job} (h : Reached t) (hinsert : t.insert job = .ok t') :
      Reached t'
  | save {t : JobTable} (h : Reached t) (job : Job) : Reached (t.save job)
  | setCell {t t' : JobTable} {id : String} {column : JobColumn} {content : Cell} {count : Nat}
      (h : Reached t) (hset : t.setCell? id column content = some (count, t')) : Reached t'

/-- A row is inserted only under an id that is free. -/
theorem DistinctIds.insert (h : t.DistinctIds) (hinsert : t.insert job = .ok t') :
    t'.DistinctIds := by
  rw [JobTable.insert] at hinsert
  cases hrow : t.row? job.id with
  | some row => simp [hrow] at hinsert
  | none =>
      obtain rfl : t' = ⟨t.rows ++ [.ofJob job]⟩ := by simpa [hrow] using hinsert.symm
      have hfree := List.find?_eq_none.mp hrow
      refine List.pairwise_append.mpr ⟨h, List.pairwise_singleton _ _, ?_⟩
      rintro a ha b hb hsame
      obtain rfl := List.mem_singleton.mp hb
      exact absurd (beq_iff_eq.mpr hsame) (hfree a ha)

/-- Saving a job changes no id. -/
theorem DistinctIds.save (h : t.DistinctIds) (job : Job) : (t.save job).DistinctIds := by
  refine List.pairwise_map.mpr (h.imp fun {a b} hab => ?_)
  rw [id_saved, id_saved]
  exact hab

/-- Only a change of the id column changes the id. -/
theorem id_setCell (row : JobRow) (column : JobColumn) (c : Cell) :
    (row.setCell column c).id = if column = .id then c else row.id := by
  cases column <;> rfl

/-- A cell is set only if the ids stay distinct. -/
theorem DistinctIds.setCell {column : JobColumn} {content : Cell} {count : Nat}
    (h : t.DistinctIds) (hset : t.setCell? id column content = some (count, t')) :
    t'.DistinctIds := by
  rw [setCell?] at hset
  cases hrow : t.row? id with
  | none =>
      obtain ⟨-, rfl⟩ : 0 = count ∧ t = t' := by simpa [hrow] using hset
      exact h
  | some row =>
      simp only [hrow] at hset
      split_ifs at hset with hrule
      cases hset
      rw [Bool.not_eq_true, Bool.or_eq_false_iff] at hrule
      have hput : ∀ row : JobRow, (if row.id == .text id then
          row.setCell column (column.convert content) else row).id =
            if row.id = .text id ∧ column = .id then column.convert content else row.id := by
        intro row
        by_cases hid : row.id = .text id <;> simp [hid, id_setCell]
      refine List.pairwise_map.mpr (List.Pairwise.imp_of_mem ?_ h)
      intro a b ha hb hab
      rw [hput, hput]
      by_cases hcolumn : column = .id
      · -- a new id is none at all, the old one, or one that no row has
        have hfree : column.convert content = .null ∨ column.convert content = .text id ∨
            ∀ row ∈ t.rows, row.id ≠ column.convert content := by
          simpa [hcolumn, or_iff_not_imp_left] using hrule.2
        simp only [hcolumn, and_true] at hfree ⊢
        split_ifs with hida hidb hidb
        · rw [hab (hida.trans hidb.symm)] at hida
          cases hida
        · intro hsame
          rcases hfree with hnull | hown | hfree
          · exact hnull
          · exact absurd (hsame.symm.trans hown) hidb
          · exact absurd hsame.symm (hfree b hb)
        · intro hsame
          rcases hfree with hnull | hown | hfree
          · exact hsame.trans hnull
          · exact absurd (hsame.trans hown) hida
          · exact absurd hsame (hfree a ha)
        · exact hab
      · simp only [hcolumn, and_false, if_false]
        exact hab

/-- **Every table that is reached has distinct ids.** -/
theorem Reached.distinctIds (h : Reached t) : t.DistinctIds := by
  induction h with
  | empty => exact List.Pairwise.nil
  | insert _ hinsert ih => exact ih.insert hinsert
  | save _ job ih => exact ih.save job
  | setCell _ hset ih => exact ih.setCell hset

/-- No other row has the id of a row. -/
theorem DistinctIds.others {before after : List JobRow} (h : t.DistinctIds)
    (hrows : t.rows = before ++ row :: after) (hid : row.id = .text id) :
    (∀ other ∈ before, other.id ≠ .text id) ∧ ∀ other ∈ after, other.id ≠ .text id := by
  rw [DistinctIds, hrows, List.pairwise_append, List.pairwise_cons] at h
  obtain ⟨-, ⟨hafter, -⟩, hbefore⟩ := h
  refine ⟨fun other hother hsame => ?_, fun other hother hsame => ?_⟩
  · rw [hbefore other hother row List.mem_cons_self (hsame.trans hid.symm)] at hsame
    cases hsame
  · rw [hafter other hother (hid.trans hsame.symm)] at hid
    cases hid

/-- The row with an id is found by it. -/
theorem DistinctIds.row?_eq (h : t.DistinctIds) (hrow : row ∈ t.rows) (hid : row.id = .text id) :
    t.row? id = some row := by
  obtain ⟨before, after, hrows⟩ := List.append_of_mem hrow
  refine List.find?_eq_some_iff_append.mpr ⟨beq_iff_eq.mpr hid, before, after, hrows, ?_⟩
  intro other hother
  simpa using (h.others hrows hid).1 other hother

/-- **Saving a job replaces its row alone.** -/
theorem DistinctIds.save_eq {before after : List JobRow} (h : t.DistinctIds)
    (hrows : t.rows = before ++ row :: after) (hid : row.id = .text job.id) :
    t.save job =
      ⟨before ++ { JobRow.ofJob job with createdAt := row.createdAt } :: after⟩ := by
  obtain ⟨hbefore, hafter⟩ := h.others hrows hid
  have hkept : ∀ rows : List JobRow, (∀ other ∈ rows, other.id ≠ .text job.id) →
      (rows.map fun row => if row.id == .text job.id then
        { JobRow.ofJob job with createdAt := row.createdAt } else row) = rows := by
    intro rows hothers
    refine (List.map_congr_left fun other hother => ?_).trans (List.map_id rows)
    exact if_neg (by simpa using hothers other hother)
  rw [JobTable.save, hrows, List.map_append, List.map_cons, hkept before hbefore,
    hkept after hafter, if_pos (beq_iff_eq.mpr hid)]

/-- The job of an id is the one that its row is read as. -/
theorem get_eq_some_iff (hrow : t.row? id = some row) :
    t.get id = .ok (some job) ↔ row.toJob = .ok job := by
  simp only [get, hrow]
  cases row.toJob <;> simp

end JobTable

/-! ## Calls of a store -/

namespace JobStore

open JobTable

/-- **Damaged rows are refused and left alone.**  A row with an id is read exactly if it is sound.
Otherwise every call that needs it is refused, and an update leaves the table as it is.  An update
of a sound row replaces that row alone, and keeps its id and its time of creation; what it answers
is read from then on. -/
theorem damaged_rows_left_alone (t : JobTable) (row : JobRow) (id : String) (h : t.DistinctIds)
    (hrow : row ∈ t.rows) (hid : row.id = .text id) :
    ((∃ job, (table t).get id = .ok (some job)) ↔ row.Sound) ∧
    (¬ row.Sound → (∃ fault, (table t).get id = .error fault) ∧
      ∀ u now, ∃ fault, (table t).update id u now = (.error fault, table t)) ∧
    (row.Sound → ∀ u now, now.Clocked →
      ∃ old before after row', row.Says old ∧ t.rows = before ++ row :: after ∧
        row'.id = row.id ∧ row'.createdAt = row.createdAt ∧
        (table t).update id u now =
          (.ok (some (old.apply u now)), table ⟨before ++ row' :: after⟩) ∧
        (table ⟨before ++ row' :: after⟩).get id = .ok (some (old.apply u now))) := by
  have hfound : t.row? id = some row := h.row?_eq hrow hid
  refine ⟨?_, fun hdamaged => ?_, fun hsound u now hnow => ?_⟩
  · simp only [get, get_eq_some_iff hfound, JobRow.exists_toJob_iff]
  · cases hjob : row.toJob with
    | ok job => exact absurd (JobRow.exists_toJob_iff.mp ⟨job, hjob⟩) hdamaged
    | error fault =>
        have hrefused : t.get id = .error (.badRow fault) := by
          simp only [JobTable.get, hfound, hjob]
        exact ⟨⟨_, hrefused⟩, fun u now => ⟨.badRow fault, by simp only [update, hrefused]⟩⟩
  · obtain ⟨old, hold⟩ := JobRow.exists_toJob_iff.mpr hsound
    have hcells : row.Says old := JobRow.toJob_eq_ok.mp hold
    have hget : t.get id = .ok (some old) := (get_eq_some_iff hfound).mpr hold
    have hown : row.id = .text (old.apply u now).id := hcells.id
    obtain ⟨before, after, hrows⟩ := List.append_of_mem hrow
    have hsave := h.save_eq hrows hown
    have hnew : (t.save (old.apply u now)).row? id =
        some { JobRow.ofJob (old.apply u now) with createdAt := row.createdAt } := by
      have hid' : id = (old.apply u now).id := Cell.text.inj (hid.symm.trans hown)
      rw [row?_save, hfound, Option.map_some, if_pos hid']
    refine ⟨old, before, after, { JobRow.ofJob (old.apply u now) with createdAt := row.createdAt },
      hcells, hrows, hown.symm, rfl, ?_, ?_⟩
    · simp only [update, hget, hsave]
    · rw [← hsave]
      exact (get_eq_some_iff hnew).mpr (JobRow.toJob_eq_ok.mpr (hcells.apply u hnow))

/-- A table with a progress out of range, a record whose times of creation and update lie in other
zones, and two rows without an id. -/
def mixedTable : JobTable := ⟨[
  ⟨.null, .text "", .text "x", .text "", .null, .null, .text "", .text ""⟩,
  ⟨.text "a", .text "done", .whole 256, .text "", .null, .null, .text "2024-01-01T00:00:00Z",
    .text "2024-01-01T00:00:00Z"⟩,
  ⟨.text "b", .text "failed", .whole 255, .text "7", .text "", .null,
    .text "2016-12-31 23:59:60.5-00:30", .text "0000-02-29t00:00:00.123456789012+23:59"⟩,
  ⟨.null, .text "", .text "x", .text "", .null, .null, .text "", .text ""⟩]⟩

/-- In a table with a damaged row the sound one can still be updated. -/
theorem mixed_table_updated :
    mixedTable.DistinctIds ∧ mixedTable.rows[1] ∈ mixedTable.rows ∧
      mixedTable.rows[2] ∈ mixedTable.rows ∧ ¬ mixedTable.rows[1].Sound ∧
      mixedTable.rows[2].Sound ∧ Timestamp.Clocked ⟨7, 0⟩ ∧
      (∃ fault, (table mixedTable).update "a" {} ⟨7, 0⟩ = (.error fault, table mixedTable)) ∧
      ∃ t', (table mixedTable).update "b" { progress := some 250 } ⟨7, 0⟩ =
          (.ok (some ⟨"b", .failed, 100, "7", some "", none, ⟨1483230599, 1500000000⟩, ⟨7, 0⟩⟩),
            table t') ∧
        (table t').get "b" =
          .ok (some ⟨"b", .failed, 100, "7", some "", none, ⟨1483230599, 1500000000⟩, ⟨7, 0⟩⟩) := by
  have hdistinct : mixedTable.DistinctIds := by decide
  have hmem : mixedTable.rows[1] ∈ mixedTable.rows := List.getElem_mem _
  have hmem' : mixedTable.rows[2] ∈ mixedTable.rows := List.getElem_mem _
  have hnow : Timestamp.Clocked ⟨7, 0⟩ := by decide
  have hold : mixedTable.rows[2].toJob = .ok ⟨"b", .failed, 255, "7", some "", none,
      ⟨1483230599, 1500000000⟩, ⟨-62162207940, 123456789⟩⟩ := by rfl
  have hsound : mixedTable.rows[2].Sound := JobRow.exists_toJob_iff.mp ⟨_, hold⟩
  have hdamaged : ¬ mixedTable.rows[1].Sound := by
    intro h
    obtain ⟨n, hn, -, hbyte⟩ := h.progress
    cases hn
    exact absurd hbyte (by decide)
  obtain ⟨-, hrefused, -⟩ := damaged_rows_left_alone mixedTable _ "a" hdistinct hmem rfl
  obtain ⟨-, -, hupdated⟩ := damaged_rows_left_alone mixedTable _ "b" hdistinct hmem' rfl
  obtain ⟨old, before, after, row', hcells, -, -, -, hupdate, hget⟩ :=
    hupdated hsound { progress := some 250 } ⟨7, 0⟩ hnow
  have hsame : (Except.ok old : Except RowFault Job) = .ok _ :=
    (JobRow.toJob_eq_ok.mpr hcells).symm.trans hold
  cases hsame
  exact ⟨hdistinct, hmem, hmem', hdamaged, hsound, hnow, (hrefused hdamaged).2 {} ⟨7, 0⟩, _,
    hupdate, hget⟩

end JobStore

end SceneRender
