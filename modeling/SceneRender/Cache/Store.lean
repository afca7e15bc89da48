import SceneRender.Cache.Fingerprint

/-!
# The result cache

A store of texts by key, and the cache of results over it.  The cache never fails
its user: a lookup that the store refuses is a miss, and a write that it refuses
is dropped.
-/

namespace SceneRender

/-- A store of texts by key. -/
structure KeyStore where
  entries : List (String × String)
  /-- Why every call is refused, if it is. -/
  refusal : Option String := none
  deriving DecidableEq, Repr, Inhabited

namespace KeyStore

/-- The store without entries. -/
def empty : KeyStore := { entries := [] }

/-- The store that refuses every call. -/
def refusing (reason : String) : KeyStore := { entries := [], refusal := some reason }

/-- The text of a key. -/
def get (store : KeyStore) (key : String) : Except String (Option String) :=
  match store.refusal with
  | some reason => .error reason
  | none => .ok (store.entries.lookup key)

/-- Sets the text of a key. -/
def put (store : KeyStore) (key value : String) : Except String KeyStore :=
  match store.refusal with
  | some reason => .error reason
  | none => .ok { store with entries := (key, value) :: store.entries.filter (·.1 != key) }

end KeyStore

/-- The cache of results. -/
structure ResultCache where
  store : KeyStore
  deriving DecidableEq, Repr, Inhabited

namespace ResultCache

/-- The result of a fingerprint. -/
def get (cache : ResultCache) (ns : CacheNamespace) (fingerprint : String) : Option String :=
  match cache.store.get (ns.key fingerprint) with
  | .ok value => value
  | .error _ => none

/-- Remembers the result of a fingerprint. -/
def put (cache : ResultCache) (ns : CacheNamespace) (fingerprint value : String) :
    ResultCache :=
  match cache.store.put (ns.key fingerprint) value with
  | .ok store => ⟨store⟩
  | .error _ => cache

end ResultCache

end SceneRender
