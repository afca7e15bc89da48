import SceneRender.Cache.Store
import SceneRender.Proofs.Entries

/-!
# What the cache remembers

Different inputs have different canonical texts (`renderCanonical_inj`), so that only the
digest could confuse them, and different fingerprints have different keys.  What is
remembered under a fingerprint is found under it and under no other one, unless the store
refuses the call: then a lookup finds nothing and a write changes nothing.
-/

namespace SceneRender

/-- **The canonical text tells quality and code apart.** -/
theorem renderCanonical_inj {quality quality' : Quality} {code code' : String}
    (h : renderCanonical quality code = renderCanonical quality' code') :
    quality = quality' ∧ code = code' := by
  have hchars := congrArg String.toList h
  have hstart : "render:v2:".toList ++ (quality.name.toList ++ ':' :: code.toList) =
      "render:v2:".toList ++ (quality'.name.toList ++ ':' :: code'.toList) := by
    simpa [renderCanonical] using hchars
  have hrest := List.append_cancel_left hstart
  have hname : quality = quality' := by
    -- the names begin with different digits
    cases quality <;> cases quality' <;>
      first
        | rfl
        | exact absurd (List.head_eq_of_cons_eq hrest) (by decide)
  subst hname
  refine ⟨rfl, String.toList_injective ?_⟩
  simpa using List.append_cancel_left hrest

/-- A key determines its print. -/
theorem CacheNamespace.key_inj {ns : CacheNamespace} {print print' : String}
    (h : ns.key print = ns.key print') : print = print' := by
  apply String.toList_injective
  simpa [CacheNamespace.key] using congrArg String.toList h

/-- Keys of different kinds differ. -/
theorem CacheNamespace.key_ne {ns ns' : CacheNamespace} (h : ns ≠ ns') (print print' : String) :
    ns.key print ≠ ns'.key print' := by
  intro hkey
  have hchars : ns.keyStart.toList ++ ':' :: print.toList =
      ns'.keyStart.toList ++ ':' :: print'.toList := by
    simpa [key] using congrArg String.toList hkey
  have hlong : ∀ ns : CacheNamespace, 7 ≤ ns.keyStart.toList.length := by
    intro ns
    cases ns <;> decide
  have hstart := congrArg (List.take 7) hchars
  rw [List.take_append_of_le_length (hlong ns), List.take_append_of_le_length (hlong ns')] at hstart
  cases ns <;> cases ns' <;> first
    | exact h rfl
    | exact absurd hstart (by decide)

namespace ResultCache

variable {cache : ResultCache} {ns : CacheNamespace} {print print' value value' : String}

/-- The entry of a fingerprint, whether the store refuses calls or not. -/
def remembered? (cache : ResultCache) (ns : CacheNamespace) (print : String) : Option String :=
  cache.store.entries.lookup (ns.key print)

/-- A lookup finds the entry or nothing. -/
theorem remembered?_of_get (h : cache.get ns print = some value) :
    cache.remembered? ns print = some value := by
  cases hrefusal : cache.store.refusal <;> simp [get, KeyStore.get, hrefusal] at h
  exact h

/-- A working store finds exactly the entry. -/
theorem get_eq_remembered? (h : cache.store.refusal = none) :
    cache.get ns print = cache.remembered? ns print := by
  simp [get, KeyStore.get, h, remembered?]

/-- A working cache remembers what was put, and what it remembered before. -/
theorem remembered?_put (h : cache.store.refusal = none) :
    (cache.put ns print value).remembered? ns print' =
      if print' = print then some value else cache.remembered? ns print' := by
  have hentries : (cache.put ns print value).store.entries =
      (ns.key print, value) :: cache.store.entries.filter (·.1 != ns.key print) := by
    simp [put, KeyStore.put, h]
  rw [remembered?, hentries, lookup_cons_filter_bne, remembered?]
  by_cases heq : print' = print
  · simp [heq]
  · have hkey : ns.key print' ≠ ns.key print := fun hk => heq (CacheNamespace.key_inj hk)
    simp [heq, hkey]

/-- What is found after a write was written or was there before. -/
theorem remembered?_put_cases (h : (cache.put ns print value).remembered? ns print' = some value') :
    cache.remembered? ns print' = some value' ∨ print' = print ∧ value' = value := by
  cases hrefusal : cache.store.refusal with
  | none =>
      rw [remembered?_put hrefusal] at h
      split at h
      · next heq => exact Or.inr ⟨heq, (Option.some.inj h).symm⟩
      · exact Or.inl h
  | some reason =>
      have hself : cache.put ns print value = cache := by
        simp [put, KeyStore.put, hrefusal]
      rw [hself] at h
      exact Or.inl h

/-- A write of one kind leaves what is remembered of other kinds. -/
theorem remembered?_put_of_ne {ns' : CacheNamespace} (h : ns ≠ ns') :
    (cache.put ns print value).remembered? ns' print' = cache.remembered? ns' print' := by
  have hkey := CacheNamespace.key_ne (Ne.symm h) print' print
  cases hrefusal : cache.store.refusal with
  | none => simp [put, KeyStore.put, hrefusal, remembered?, lookup_cons_filter_bne, hkey]
  | some reason => simp [put, KeyStore.put, hrefusal]

/-- A write does not make the store refuse. -/
theorem refusal_put : (cache.put ns print value).store.refusal = cache.store.refusal := by
  cases hrefusal : cache.store.refusal <;> simp [put, KeyStore.put, hrefusal]

end ResultCache

end SceneRender
