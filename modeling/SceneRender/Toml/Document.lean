import SceneRender.Toml.Scalar

/-!
# TOML documents

A document is a table.  The assignments before the first header fill it; each
header opens a table inside it, which the assignments that follow fill.  A name
is given a value once, and a table is written out once.
-/

namespace SceneRender.Toml

/-- A key with its name. -/
structure Key where
  name : String
  span : Span
  deriving Repr

/-- The names of written keys. -/
def namesOf : List WrittenKey → Except Fault (List Key)
  | [] => .ok []
  | k :: rest => do
    let name ← k.name
    return ⟨name, k.span⟩ :: (← namesOf rest)

/-- The path that written keys are, which may not be too long. -/
def pathOf (keys : List WrittenKey) : Except Fault (List Key) := do
  let path ← namesOf keys
  if deepest < path.length then .error ⟨.deepKey, none⟩ else return path

/-- The last table of a list that headers made. -/
def lastTable? (items : List (Span × Value)) : Option (Span × TableOrigin × Fields) :=
  match items.getLast? with
  | some (span, .table origin fields) => some (span, origin, fields)
  | _ => none

/-- Changes the table at the end of a path, whose tables are made where they are
missing; `dotted` says that the path belongs to a key and not to a header. -/
def inPath (dotted : Bool) (change : TableOrigin → Fields → Except Fault Fields) :
    List Key → TableOrigin → Fields → Except Fault Fields
  | [], origin, fields => change origin fields
  | k :: path, _, fields =>
    match fields.get? k.name with
    | none => do
      let origin : TableOrigin := if dotted then .grown else .implied
      let inner ← inPath dotted change path origin []
      return fields.set k.name k.span (.table origin inner)
    | some (span, .list true items) =>
      match lastTable? items with
      | some (itemSpan, origin, inner) => do
        let inner ← inPath dotted change path origin inner
        let items := items.dropLast ++ [(itemSpan, .table origin inner)]
        return fields.set k.name span (.list true items)
      | none => .error ⟨.notExtensible "array", k.span⟩
    | some (_, .table .inline _) => .error ⟨.notExtensible "inline table", k.span⟩
    | some (span, .table origin inner) =>
      if dotted && origin == .complete then .error ⟨.repeatedKey, k.span⟩
      else do
        let inner ← inPath dotted change path origin inner
        let origin := if dotted then .grown else origin
        return fields.set k.name span (.table origin inner)
    | some (_, v) => .error ⟨.notExtensible v.kind, k.span⟩

/-- Splits a path into the way to a table and the name in that table. -/
def splitLast (path : List Key) : List Key × Key :=
  (path.dropLast, path.getLast?.getD ⟨"", ⟨0, 0⟩⟩)

/-- Assigns a value to a key of a table. -/
def assign (path : List Key) (span : Span) (v : Value) (fields : Fields) :
    Except Fault Fields :=
  let (way, key) := splitLast path
  let change (_ : TableOrigin) (inner : Fields) : Except Fault Fields :=
    if (inner.get? key.name).isSome then .error ⟨.repeatedKey, key.span⟩
    else .ok (inner.set key.name span v)
  inPath true change way .complete fields

mutual

/-- The value that is written. -/
def valueOf : WrittenValue → Except Fault (Span × Value)
  | .scalar form span text => do return (span, ← scalar form span text)
  | .list span items => do return (span, .list false (← itemsOf items))
  | .record span fields => do return (span, .table .inline (← fieldsOf [] fields))

/-- The values that are written in a list. -/
def itemsOf : List WrittenValue → Except Fault (List (Span × Value))
  | [] => .ok []
  | v :: rest => do
    let v ← valueOf v
    return v :: (← itemsOf rest)

/-- The fields that are written in a record, after those that came before. -/
def fieldsOf (before : Fields) :
    List (List WrittenKey × WrittenValue) → Except Fault Fields
  | [] => .ok before
  | (path, v) :: rest => do
    let path ← pathOf path
    let (span, v) ← valueOf v
    fieldsOf (← assign path span v before) rest

end

/-- The table that is being filled. -/
structure OpenTable where
  isArray : Bool
  span : Span
  path : List Key

/-- A document that is being read: the finished part, and the table that is being
filled with its fields so far. -/
structure Draft where
  root : Fields
  current : Option OpenTable
  fields : Fields

namespace Draft

/-- Takes an implied table out of the document in order to fill it. -/
def takeImplied (path : List Key) (root : Fields) : Except Fault (Fields × Fields) := do
  let (way, key) := splitLast path
  -- the fields found at the end of the way, if the table is there
  let find (fields : Fields) : Except Fault (Option Fields) :=
    match fields.get? key.name with
    | none => .ok none
    | some (_, .table .implied inner) => .ok (some inner)
    | some _ => .error ⟨.repeatedKey, key.span⟩
  let rec look : List Key → Fields → Except Fault (Option Fields)
    | [], fields => find fields
    | k :: path, fields =>
      match fields.get? k.name with
      | none => .ok none
      | some (_, .list true items) =>
        match lastTable? items with
        | some (_, _, inner) => look path inner
        | none => .error ⟨.notExtensible "array", k.span⟩
      | some (_, .table .inline _) => .error ⟨.notExtensible "inline table", k.span⟩
      | some (_, .table _ inner) => look path inner
      | some (_, v) => .error ⟨.notExtensible v.kind, k.span⟩
  let found ← look way root
  let root ← inPath false (fun _ inner => .ok (inner.erase key.name)) way .complete root
  return (root, found.getD [])

/-- Puts the table that was filled into the document. -/
def finish (d : Draft) : Except Fault Fields :=
  match d.current with
  | none => .ok d.fields
  | some t =>
    let (way, key) := splitLast t.path
    let filled : Value := .table .complete d.fields
    let change (_ : TableOrigin) (inner : Fields) : Except Fault Fields :=
      if t.isArray then
        match inner.get? key.name with
        | none => .ok (inner.set key.name t.span (.list true [(t.span, filled)]))
        | some (span, .list true items) =>
          .ok (inner.set key.name span (.list true (items ++ [(t.span, filled)])))
        | some _ => .error ⟨.repeatedKey, key.span⟩
      else .ok (inner.set key.name t.span filled)
    inPath false change way .complete d.root

/-- Takes a statement into the document. -/
def add (d : Draft) : Statement → Except Fault Draft
  | .header isArray span path => do
    let root ← d.finish
    let path ← pathOf path
    if isArray then return ⟨root, some ⟨true, span, path⟩, []⟩
    else
      let (root, fields) ← takeImplied path root
      return ⟨root, some ⟨false, span, path⟩, fields⟩
  | .assignment path v => do
    let path ← pathOf path
    let (span, v) ← valueOf v
    return { d with fields := ← assign path span v d.fields }

end Draft

/-- The fields of a document. -/
def readDocument (source : String) : Except Fault Fields := do
  let statements ← statementsOf source
  let draft ← statements.foldlM Draft.add ⟨[], none, []⟩
  draft.finish

end SceneRender.Toml
