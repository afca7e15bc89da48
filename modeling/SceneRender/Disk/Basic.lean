/-!
# Files and folders

A disk maps places to files and folders.  A place is the list of names on the way
down from the top.  A path is text: it is taken apart at its slashes and walked
name by name, from the top if it begins with a slash and from the working folder
otherwise.  The walk fails at the first name that is too long, is missing or is a
file where a folder is needed.

Every operation that fails leaves the disk as it was, with one exception: making
a chain of folders keeps the folders that were made before the failure.

Some files may be held: they can be read and written, but the disk refuses to take
them away, as it does with files of somebody else in a folder where only owners may.
-/

namespace SceneRender

/-- Why the disk refuses an operation. -/
inductive DiskFault where
  | notFound
  | alreadyThere
  | notFolder
  | isFolder
  | nameTooLong
  | nulByte
  | notRegular
  | notPermitted
  deriving DecidableEq, Repr

/-- The wording of a refusal. -/
def DiskFault.message : DiskFault → String
  | notFound => "No such file or directory (os error 2)"
  | alreadyThere => "File exists (os error 17)"
  | notFolder => "Not a directory (os error 20)"
  | isFolder => "Is a directory (os error 21)"
  | nameTooLong => "File name too long (os error 36)"
  | nulByte => "file name contained an unexpected NUL byte"
  | notRegular => "the source path is neither a regular file nor a symlink to a regular file"
  | notPermitted => "Operation not permitted (os error 1)"

/-- What stands at a place. -/
inductive Node where
  | file (content : ByteArray)
  | folder (mode : Nat)

namespace Node

/-- The mode of a folder that nobody set. -/
def plainMode : Nat := 0o755

/-- The mode of a folder for one user alone. -/
def privateMode : Nat := 0o700

/-- The content of a file. -/
def content? : Node → Option ByteArray
  | file content => some content
  | folder _ => none

end Node

/-- A place: the names on the way down from the top. -/
abbrev Disk.Place := List String

/-- A disk. -/
structure Disk where
  /-- Where paths without a leading slash begin. -/
  working : Disk.Place
  nodes : List (Disk.Place × Node)
  /-- The places whose files the disk refuses to remove. -/
  held : List Disk.Place := []

namespace Disk

/-- The disk that holds nothing but its top. -/
def empty : Disk where
  working := []
  nodes := []

instance : Inhabited Disk := ⟨empty⟩

/-- The longest name in bytes. -/
def longestName : Nat := 255

/-- The names in a path; empty ones and single dots say nothing. -/
def names (path : String) : List String :=
  ((path.toList.splitOn '/').map String.ofList).filter fun name => name != "" && name != "."

/-- What stands at a place. -/
def node? (d : Disk) (place : Place) : Option Node :=
  if place.isEmpty then some (.folder Node.plainMode) else d.nodes.lookup place

/-- The disk with a node put at a place. -/
def set (d : Disk) (place : Place) (node : Node) : Disk :=
  { d with nodes := (place, node) :: d.nodes.filter (·.1 != place) }

/-- The disk with nothing at a place. -/
def erase (d : Disk) (place : Place) : Disk :=
  { d with nodes := d.nodes.filter (·.1 != place) }

/-- Walks down from a folder.  Every name but the last has to lead to a folder. -/
def walk (d : Disk) (start : Place) : List String → Except DiskFault Place
  | [] => .ok start
  | name :: rest =>
    if name == ".." then d.walk start.dropLast rest
    else if longestName < name.utf8ByteSize then .error .nameTooLong
    else if rest.isEmpty then .ok (start ++ [name])
    else match d.node? (start ++ [name]) with
      | some (.folder _) => d.walk (start ++ [name]) rest
      | some (.file _) => .error .notFolder
      | none => .error .notFound

/-- Where a path begins. -/
def start (d : Disk) (path : String) : Place :=
  if path.startsWith "/" then [] else d.working

/-- The place of a path. -/
def locate (d : Disk) (path : String) : Except DiskFault Place :=
  if path.toList.contains '\x00' then .error .nulByte
  else if path.isEmpty then .error .notFound
  else d.walk (d.start path) (names path)

/-- What stands at a path. -/
def find (d : Disk) (path : String) : Except DiskFault Node := do
  match d.node? (← d.locate path) with
  | some node => .ok node
  | none => .error .notFound

/-- Is there a file at the path? -/
def isFile (d : Disk) (path : String) : Bool :=
  match d.find path with
  | .ok (.file _) => true
  | _ => false

/-- Is there anything at the path? -/
def isThere (d : Disk) (path : String) : Bool :=
  match d.find path with
  | .ok _ => true
  | .error _ => false

/-- Reads a file. -/
def read (d : Disk) (path : String) : Except DiskFault ByteArray := do
  match ← d.find path with
  | .file content => .ok content
  | .folder _ => .error .isFolder

/-- Writes a file, in the place of an older one. -/
def write (d : Disk) (path : String) (content : ByteArray) : Except DiskFault Disk := do
  let place ← d.locate path
  match d.node? place with
  | some (.folder _) => .error .isFolder
  | _ => .ok (d.set place (.file content))

/-- Copies a file.  The target is emptied before the source is read, so that a
copy onto itself leaves an empty file. -/
def copy (d : Disk) (source target : String) : Except DiskFault Disk := do
  let origin ← d.locate source
  match d.node? origin with
  | none => .error .notFound
  | some (.folder _) => .error .notRegular
  | some (.file content) =>
    let place ← d.locate target
    d.write target (if place == origin then .empty else content)

/-- Removes a file that is not held. -/
def remove (d : Disk) (path : String) : Except DiskFault Disk := do
  let place ← d.locate path
  match d.node? place with
  | none => .error .notFound
  | some (.folder _) => .error .isFolder
  | some (.file _) => if place ∈ d.held then .error .notPermitted else .ok (d.erase place)

/-- Makes a folder whose parent is there. -/
def makeFolder (d : Disk) (path : String) (mode : Nat) : Except DiskFault Disk := do
  let place ← d.locate path
  match d.node? place with
  | some _ => .error .alreadyThere
  | none => .ok (d.set place (.folder mode))

/-- Sets the mode of a folder. -/
def setMode (d : Disk) (path : String) (mode : Nat) : Except DiskFault Disk := do
  let place ← d.locate path
  match d.node? place with
  | some (.folder _) => .ok (d.set place (.folder mode))
  | some (.file _) => .ok d
  | none => .error .notFound

/-- Makes the folders of a chain of names that are not there yet. -/
def makeChain (d : Disk) (start : Place) : List String → Except DiskFault Unit × Disk
  | [] => (.ok (), d)
  | name :: rest =>
    if name == ".." then d.makeChain start.dropLast rest
    else if longestName < name.utf8ByteSize then (.error .nameTooLong, d)
    else
      let place := start ++ [name]
      match d.node? place with
      | some (.folder _) => d.makeChain place rest
      | some (.file _) =>
        (.error (if rest.isEmpty then .alreadyThere else .notFolder), d)
      | none => (d.set place (.folder Node.plainMode)).makeChain place rest

/-- Makes a folder and the folders above it, as far as they are not there. -/
def makeFolders (d : Disk) (path : String) : Except DiskFault Unit × Disk :=
  if path.toList.contains '\x00' then (.error .nulByte, d)
  else d.makeChain (d.start path) (names path)

/-- Does a held file stand at a place or below it? -/
def keeps (d : Disk) (place : Place) : Bool :=
  d.held.any fun h => place.isPrefixOf h && (d.node? h).isSome

/-- Removes a folder with all it holds.  Held files stay, and so do the folders above
them. -/
def removeTree (d : Disk) (path : String) : Disk :=
  match d.locate path with
  | .ok place =>
    { d with nodes := d.nodes.filter fun n => !place.isPrefixOf n.1 || d.keeps n.1 }
  | .error _ => d

/-- What stands directly in a place, by name. -/
def childrenAt (d : Disk) (place : Place) : List (String × Node) :=
  d.nodes.filterMap fun n =>
    if n.1.dropLast == place then n.1.getLast?.map fun name => (name, n.2) else none

/-- What stands directly in a folder, by name; nothing when there is no folder. -/
def children? (d : Disk) (path : String) : Option (List (String × Node)) :=
  match d.locate path with
  | .error _ => none
  | .ok place =>
    match d.node? place with
    | some (.folder _) => some (d.childrenAt place)
    | _ => none

/-- The paths of the files below a folder that have a given name, by path. -/
def filesNamed (d : Disk) (path name : String) : List String :=
  match d.locate path with
  | .error _ => []
  | .ok place =>
    let below := d.nodes.filterMap fun n =>
      match n.2 with
      | .file _ =>
        if place.isPrefixOf n.1 && n.1.getLast? == some name && place.length < n.1.length then
          some (path ++ "/" ++ "/".intercalate (n.1.drop place.length))
        else none
      | .folder _ => none
    below.mergeSort fun a b => decide (a ≤ b)

/-- The path of a name inside a folder. -/
def join (folder name : String) : String :=
  if name.startsWith "/" then name
  else if folder.isEmpty || folder.endsWith "/" then folder ++ name
  else folder ++ "/" ++ name

/-- The path from the top that a path stands for. -/
def absolute (d : Disk) (path : String) : String :=
  if path.startsWith "/" then path else join ("/" ++ "/".intercalate d.working) path

end Disk

end SceneRender
