import SceneRender.Http.PercentText
import SceneRender.Text.Lossy

/-!
# Names of databases

The name of a database is the path of its file, or `file:` with a path and perhaps
options behind a question mark.  In the second form a percent sign with two
hexadecimal digits stands for a byte, a byte of zero ends the part it stands in,
and what follows a number sign does not count.

`DatabaseName.ofText?` refuses a name whose host, file system or mode is unknown,
and one that asks for more than an earlier option allows.
-/

namespace SceneRender

/-- How a database is opened. -/
inductive DatabaseAccess where
  | readOnly
  | readWrite
  | create
  | inMemory
  deriving DecidableEq, Repr

namespace DatabaseAccess

/-- The access that an option names. -/
def ofName? : String → Option DatabaseAccess
  | "ro" => some .readOnly
  | "rw" => some .readWrite
  | "rwc" => some .create
  | "memory" => some .inMemory
  | _ => none

/-- How much an access asks for. -/
def demand : DatabaseAccess → Nat
  | inMemory => 0
  | readOnly => 1
  | readWrite => 2
  | create => 3

/-- The most that a later option may ask for. -/
def limit : DatabaseAccess → Nat
  | inMemory => 4
  | access => access.demand

end DatabaseAccess

/-- What a name of a database says. -/
structure DatabaseName where
  path : String
  access : DatabaseAccess
  /-- Is the database kept in memory by its file system? -/
  isVolatile : Bool
  deriving DecidableEq, Repr

namespace DatabaseName

/-- The text that an encoded part of a name stands for. -/
def decoded (cs : List Char) : String :=
  let bytes := PercentText.decodeBytes (String.ofList cs).toUTF8.data.toList
  Text.ofBytes ⟨(bytes.takeWhile (· != 0)).toArray⟩

/-- The parts of a list between a mark. -/
def partsAt (mark : Char) (cs : List Char) : List (List Char) :=
  cs.foldr
    (fun c parts =>
      match parts with
      | [] => [[c]]
      | part :: rest => if c == mark then [] :: part :: rest else (c :: part) :: rest)
    [[]]

/-- An option with its value.  One without a name does not count. -/
def option? (cs : List Char) : Option (String × String) :=
  let name := cs.takeWhile (· != '=')
  if name.isEmpty then none
  else some (decoded name, decoded ((cs.drop name.length).drop 1))

/-- The file systems that are known. -/
def fileSystems : List String := ["unix", "unix-none", "unix-dotfile", "unix-excl", "memdb"]

/-- Takes an option into a name. -/
def withOption (n : DatabaseName) (o : String × String) : Option DatabaseName :=
  match o with
  | ("vfs", system) =>
    if fileSystems.contains system then some { n with isVolatile := system == "memdb" } else none
  | ("cache", kind) => if kind == "shared" || kind == "private" then some n else none
  | ("mode", mode) => do
    let access ← DatabaseAccess.ofName? mode
    if access.demand ≤ n.access.limit then some { n with access } else none
  | _ => some n

/-- The rest after the host of a name, which is this machine. -/
def pastHost? : List Char → Option (List Char)
  | '/' :: '/' :: rest =>
    let host := rest.takeWhile (· != '/')
    if host.isEmpty || host == "localhost".toList then some (rest.drop host.length) else none
  | rest => some rest

/-- What the text of a name says. -/
def ofText? (text : String) : Option DatabaseName :=
  match text.toList with
  | 'f' :: 'i' :: 'l' :: 'e' :: ':' :: rest => do
    let rest ← pastHost? rest
    let rest := rest.takeWhile (· != '#')
    let path := rest.takeWhile (· != '?')
    let options := (partsAt '&' ((rest.drop path.length).drop 1)).filterMap option?
    options.foldlM withOption ⟨decoded path, .create, false⟩
  | _ => some ⟨text, .create, false⟩

/-- Has the database no file? -/
def isTransient (n : DatabaseName) : Bool :=
  n.path.isEmpty || n.path == ":memory:" || n.access == .inMemory || n.isVolatile

end DatabaseName

end SceneRender
