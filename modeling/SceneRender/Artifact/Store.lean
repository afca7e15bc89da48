import SceneRender.Disk.Basic

/-!
# Stored videos

The artifact store keeps one video per job, in a folder of its own: the video of
the job `a` is the file `a.mp4`.  An id that could lead out of the folder is
refused before the disk is touched.  Storing a video takes the file it comes from
away; that this last step can fail is no fault of the store.
-/

namespace SceneRender

/-- Why the artifact store refuses. -/
inductive ArtifactFault where
  /-- The id cannot be the name of a file in the store's folder. -/
  | invalidJobId (id : String)
  /-- The disk refused at a path. -/
  | disk (path : String) (fault : DiskFault)
  deriving DecidableEq, Repr

/-- The wording of a refusal. -/
def ArtifactFault.message : ArtifactFault → String
  | invalidJobId id => "Invalid job id for artifact storage: '" ++ id ++ "'"
  | disk path fault => "Artifact I/O failed at " ++ path ++ ": " ++ fault.message

/-- A store of videos, known by its folder. -/
structure ArtifactStore where
  root : String
  deriving DecidableEq, Repr, Inhabited

namespace ArtifactStore

/-- Has the list two dots side by side? -/
def hasDoubleDot : List Char → Bool
  | '.' :: '.' :: _ => true
  | _ :: rest => hasDoubleDot rest
  | [] => false

/-- Can the id name a file of the store? -/
def isValidId (id : String) : Bool :=
  !id.isEmpty && !id.toList.any (fun c => c == '/' || c == '\\') && !hasDoubleDot id.toList

/-- The name of a job's video. -/
def fileName (id : String) : String := id ++ ".mp4"

/-- The path of a job's video. -/
def pathOf (store : ArtifactStore) (id : String) : Except ArtifactFault String :=
  if isValidId id then .ok (Disk.join store.root (fileName id)) else .error (.invalidJobId id)

/-- Makes the store's folder. -/
def prepare (store : ArtifactStore) (d : Disk) : Except ArtifactFault Unit × Disk :=
  match d.makeFolders store.root with
  | (.ok (), d) => (.ok (), d)
  | (.error fault, d) => (.error (.disk store.root fault), d)

/-- Stores the video of a job and takes its source away.  Answers with the path
of the stored video. -/
def put (store : ArtifactStore) (id source : String) (d : Disk) :
    Except ArtifactFault String × Disk :=
  match store.pathOf id with
  | .error e => (.error e, d)
  | .ok target =>
    match store.prepare d with
    | (.error e, d) => (.error e, d)
    | (.ok (), d) =>
      match d.copy source target with
      | .error fault => (.error (.disk target fault), d)
      | .ok copied =>
        match copied.remove source with
        | .ok cleared => (.ok target, cleared)
        | .error _ => (.ok target, copied)

/-- The path of a job's video, if it is stored. -/
def get (store : ArtifactStore) (id : String) (d : Disk) :
    Except ArtifactFault (Option String) := do
  let path ← store.pathOf id
  match d.find path with
  | .ok (.file _) => .ok (some path)
  | .ok (.folder _) => .ok none
  | .error .notFound => .ok none
  | .error fault => .error (.disk path fault)

/-- Copies the video of one job to another one; nothing when there is none. -/
def clone (store : ArtifactStore) (source target : String) (d : Disk) :
    Except ArtifactFault (Option String) × Disk :=
  match store.get source d with
  | .error e => (.error e, d)
  | .ok none => (.ok none, d)
  | .ok (some origin) =>
    match store.pathOf target with
    | .error e => (.error e, d)
    | .ok path =>
      match d.copy origin path with
      | .error fault => (.error (.disk path fault), d)
      | .ok copied => (.ok (some path), copied)

/-- Removes the video of a job.  That it is not there is no fault. -/
def delete (store : ArtifactStore) (id : String) (d : Disk) :
    Except ArtifactFault Unit × Disk :=
  match store.pathOf id with
  | .error e => (.error e, d)
  | .ok path =>
    match d.remove path with
    | .ok cleared => (.ok (), cleared)
    | .error .notFound => (.ok (), d)
    | .error fault => (.error (.disk path fault), d)

end ArtifactStore

end SceneRender
