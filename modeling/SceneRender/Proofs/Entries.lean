/-!
# Lists of entries

The disk, the key store and the job store in memory all keep a list of keys with
values, and look a key up from the front.  These lemmas say what a lookup finds
after entries were taken out or replaced.
-/

namespace SceneRender

variable {κ β : Type} [BEq κ] [LawfulBEq κ] [DecidableEq κ]

/-- An entry in front is found by its own key. -/
theorem lookup_cons_ite (entries : List (κ × β)) (key key' : κ) (value : β) :
    ((key, value) :: entries).lookup key' =
      if key' = key then some value else entries.lookup key' := by
  rw [List.lookup_cons]
  by_cases hkey : key' = key
  · simp [hkey]
  · rw [beq_eq_false_iff_ne.mpr hkey, if_neg hkey]

/-- Taking the entries of a key out hides that key and no other. -/
theorem lookup_filter_bne (entries : List (κ × β)) (key key' : κ) :
    (entries.filter (·.1 != key)).lookup key' =
      if key' = key then none else entries.lookup key' := by
  induction entries with
  | nil => simp
  | cons entry rest ih =>
      obtain ⟨k, value⟩ := entry
      rw [lookup_cons_ite]
      by_cases hk : k = key
      · subst hk
        rw [List.filter_cons_of_neg (by simp), ih]
        by_cases hkey : key' = k <;> simp [hkey]
      · rw [List.filter_cons_of_pos (by simpa using hk), lookup_cons_ite, ih]
        by_cases hkey : key' = k
        · subst hkey
          simp [hk]
        · simp [hkey]

/-- Putting an entry in front, with all older ones of its key taken out. -/
theorem lookup_cons_filter_bne (entries : List (κ × β)) (key key' : κ) (value : β) :
    ((key, value) :: entries.filter (·.1 != key)).lookup key' =
      if key' = key then some value else entries.lookup key' := by
  rw [lookup_cons_ite, lookup_filter_bne]
  by_cases hkey : key' = key <;> simp [hkey]

/-- Replacing the entries of a key changes what that key finds, if it finds
anything, and nothing else. -/
theorem lookup_map_replace (entries : List (κ × β)) (key key' : κ) (value : β) :
    (entries.map fun entry => if entry.1 == key then (key, value) else entry).lookup key' =
      if key' = key then (entries.lookup key').map fun _ => value else entries.lookup key' := by
  induction entries with
  | nil => simp
  | cons entry rest ih =>
      obtain ⟨k, old⟩ := entry
      by_cases hk : k = key
      · subst hk
        have hhead : ((k, old).1 == k) = true := by simp
        rw [List.map_cons, if_pos hhead, lookup_cons_ite, lookup_cons_ite, ih]
        by_cases hkey : key' = k <;> simp [hkey]
      · have hhead : ¬ ((k, old).1 == key) = true := by simpa using hk
        rw [List.map_cons, if_neg hhead, lookup_cons_ite, lookup_cons_ite, ih]
        by_cases hkey : key' = k
        · subst hkey
          simp [hk]
        · simp [hkey]

end SceneRender
