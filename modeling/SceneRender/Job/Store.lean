import SceneRender.Job.Row

/-!
# Job stores

A store of job records, either in memory or in a durable table.  Both create,
find and update records; the table can also refuse, because a row need not be a
job or because an id is taken.  An operation that is refused changes nothing.
-/

namespace SceneRender

/-- Where records are kept. -/
inductive Backend where
  | memory
  | table
  deriving DecidableEq, Repr

/-- The name of a backend. -/
def Backend.name : Backend → String
  | memory => "memory"
  | table => "sqlite"

/-- Why a store refuses. -/
inductive StoreFault where
  /-- A row is not a job. -/
  | badRow (fault : RowFault)
  /-- The id of a new job is taken. -/
  | duplicate (id : String)
  /-- The store cannot be reached. -/
  | unreachable (reason : String)
  deriving Repr

namespace StoreFault

/-- What goes wrong, at the surface. -/
def summary : StoreFault → String
  | badRow fault => fault.summary
  | duplicate id => "Failed to insert job " ++ id
  | unreachable reason => reason

/-- The reasons below the surface. -/
def causes : StoreFault → List String
  | badRow fault => fault.cause?.toList
  | duplicate _ => [
      "UNIQUE constraint failed: jobs.job_id",
      "Error code 1555: A PRIMARY KEY constraint failed"]
  | unreachable _ => []

/-- What goes wrong, with all reasons. -/
def message (fault : StoreFault) : String := ": ".intercalate (fault.summary :: fault.causes)

end StoreFault

/-! ## The table -/

/-- The rows of the durable table. -/
structure JobTable where
  rows : List JobRow
  deriving DecidableEq, Repr, Inhabited

namespace JobTable

/-- The table without rows. -/
def empty : JobTable := ⟨[]⟩

/-- The row of an id. -/
def row? (t : JobTable) (id : String) : Option JobRow := t.rows.find? (·.id == .text id)

/-- Adds the row of a new job. -/
def insert (t : JobTable) (job : Job) : Except StoreFault JobTable :=
  match t.row? job.id with
  | some _ => .error (.duplicate job.id)
  | none => .ok ⟨t.rows ++ [.ofJob job]⟩

/-- Replaces the row of a job, all but its id and its time of creation. -/
def save (t : JobTable) (job : Job) : JobTable :=
  ⟨t.rows.map fun row =>
    if row.id == .text job.id then { JobRow.ofJob job with createdAt := row.createdAt } else row⟩

/-- The job of an id. -/
def get (t : JobTable) (id : String) : Except StoreFault (Option Job) :=
  match t.row? id with
  | none => .ok none
  | some row =>
    match row.toJob with
    | .ok job => .ok (some job)
    | .error fault => .error (.badRow fault)

/-- Puts a content into one column of the row of an id, and counts the rows that
are changed.  Nothing is the answer when a rule of the table forbids it: a column
that must not be null, or an id that another row has. -/
def setCell? (t : JobTable) (id : String) (column : JobColumn) (content : Cell) :
    Option (Nat × JobTable) :=
  let cell := column.convert content
  let taken := column == .id && cell != .null && cell != .text id &&
    t.rows.any (·.id == cell)
  match t.row? id with
  | none => some (0, t)
  | some _ =>
    if (cell == .null && !column.admitsNull) || taken then none
    else some (1, ⟨t.rows.map fun row =>
      if row.id == .text id then row.setCell column cell else row⟩)

end JobTable

/-! ## Stores -/

/-- A store of job records. -/
inductive JobStore where
  | memory (jobs : List (String × Job))
  | table (rows : JobTable)
  deriving Repr, Inhabited

namespace JobStore

/-- The empty store of a backend. -/
def empty : Backend → JobStore
  | .memory => .memory []
  | .table => .table .empty

/-- The backend of a store. -/
def backend : JobStore → Backend
  | memory _ => .memory
  | table _ => .table

/-- Creates a job under a fresh id. -/
def create (store : JobStore) (id : String) (now : Timestamp) :
    Except StoreFault Job × JobStore :=
  let job := Job.fresh id now
  match store with
  | memory jobs => (.ok job, memory ((id, job) :: jobs.filter (·.1 != id)))
  | table t =>
    match t.insert job with
    | .ok t => (.ok job, table t)
    | .error fault => (.error fault, table t)

/-- The job of an id. -/
def get (store : JobStore) (id : String) : Except StoreFault (Option Job) :=
  match store with
  | memory jobs => .ok (jobs.lookup id)
  | table t => t.get id

/-- Updates the job of an id and answers with its new record. -/
def update (store : JobStore) (id : String) (u : JobUpdate) (now : Timestamp) :
    Except StoreFault (Option Job) × JobStore :=
  match store with
  | memory jobs =>
    match jobs.lookup id with
    | none => (.ok none, store)
    | some job =>
      let job := job.apply u now
      (.ok (some job), memory (jobs.map fun entry =>
        if entry.1 == id then (id, job) else entry))
  | table t =>
    match t.get id with
    | .error fault => (.error fault, store)
    | .ok none => (.ok none, store)
    | .ok (some job) =>
      let job := job.apply u now
      (.ok (some job), table (t.save job))

end JobStore

/-- How many ids there are for jobs. -/
def Job.idBound : Nat := Nat.pow 2 48

/-- The id of the job that a number of 48 bits stands for: twelve hexadecimal
digits. -/
def Job.idOfBits (bits : Nat) : String :=
  let digits := Nat.toDigits 16 (bits % Job.idBound)
  "job_" ++ String.ofList (List.replicate (12 - digits.length) '0' ++ digits)

end SceneRender
