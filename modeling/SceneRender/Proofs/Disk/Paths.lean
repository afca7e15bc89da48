import SceneRender.Disk.Basic

/-!
# Where paths lead

A path that is walked to its end always leads to one place, whatever the disk
holds: the place is found by going down its names and up again at each pair of
dots.  `Disk.placeOf` is that place, and `Disk.locate_eq_placeOf` says that the
walk, where it succeeds, arrives there.

A name that is joined to a folder leads to the place of the folder with the name
at its end (`Disk.placeOf_join`), so that different names in one folder lead to
different places.
-/

namespace SceneRender

open String

/-! ## Taking a path apart -/

/-- Can the text be one name in a path? -/
def IsPlainName (name : String) : Prop :=
  name ≠ "" ∧ name ≠ "." ∧ name ≠ ".." ∧ '/' ∉ name.toList

namespace Disk

/-- The empty path has no names. -/
theorem names_empty : names "" = [] := by decide

/-- A plain name is a path of one name. -/
theorem names_plain {name : String} (h : IsPlainName name) : names name = [name] := by
  obtain ⟨hempty, hdot, -, hslash⟩ := h
  rw [names, List.splitOn_eq_singleton hslash]
  simp [hempty, hdot]

/-- What follows a slash is taken apart by itself. -/
theorem names_slash (folder name : String) :
    names (folder ++ "/" ++ name) = names folder ++ names name := by
  have hchars : (folder ++ "/" ++ name).toList = folder.toList ++ '/' :: name.toList := by
    simp
  rw [names, names, names, hchars, List.splitOn_append_cons_self, List.map_append,
    List.filter_append]

/-- A text that ends in a slash is another text with a slash behind it. -/
private theorem eq_append_slash {s : String} (h : s.endsWith "/" = true) :
    ∃ front, s = front ++ "/" := by
  rw [endsWith_eq_endsWith_toSlice, Slice.endsWith_string_iff, copy_toSlice] at h
  obtain ⟨front, hfront⟩ := h
  refine ⟨ofList front, String.toList_injective ?_⟩
  simpa using hfront.symm

/-- A plain name does not begin with a slash. -/
private theorem not_startsWith_slash {name : String} (h : IsPlainName name) :
    name.startsWith "/" = false := by
  rw [startsWith_string_eq_false_iff]
  rintro ⟨rest, hrest⟩
  apply h.2.2.2
  rw [← hrest]
  simp

/-- **The names of a joined path** are those of the folder and then the name. -/
theorem names_join (folder : String) {name : String} (h : IsPlainName name) :
    names (join folder name) = names folder ++ [name] := by
  rw [join, not_startsWith_slash h, if_neg Bool.false_ne_true]
  by_cases hfolder : folder = ""
  · subst hfolder
    simp [names_plain h, names_empty]
  · by_cases hend : folder.endsWith "/" = true
    · obtain ⟨front, rfl⟩ := eq_append_slash hend
      have hfront : names (front ++ "/") = names front := by
        simpa [names_empty] using names_slash front ""
      rw [if_pos (by simp [hend]), names_slash, hfront, names_plain h]
    · rw [if_neg (by simp [hfolder, hend]), names_slash, names_plain h]

/-- A joined path begins where the folder does. -/
theorem start_join (d : Disk) (folder : String) {name : String} (h : IsPlainName name) :
    d.start (join folder name) = d.start folder := by
  have hname := not_startsWith_slash h
  have hstart : (join folder name).startsWith "/" = folder.startsWith "/" := by
    rw [join, hname, if_neg Bool.false_ne_true]
    by_cases hfolder : folder = ""
    · subst hfolder
      have hnone : "".startsWith "/" = false := by
        rw [startsWith_string_eq_false_iff]
        simp
      simpa [hnone] using hname
    · obtain ⟨c, cs, hcs⟩ := List.exists_cons_of_ne_nil
        (fun hnil => hfolder (String.toList_eq_nil_iff.mp hnil))
      rw [Bool.eq_iff_iff, startsWith_string_iff, startsWith_string_iff]
      split <;> simp [hcs]
  rw [start, start, hstart]

/-! ## The place of a path -/

/-- The place to which names lead from another place. -/
def placeFrom (start : Place) (names : List String) : Place :=
  names.foldl (fun place name => if name == ".." then place.dropLast else place ++ [name]) start

/-- The place to which a path leads, if it can be walked. -/
def placeOf (d : Disk) (path : String) : Place := placeFrom (d.start path) (names path)

/-- A walk that succeeds ends at the place to which its names lead. -/
theorem walk_eq_placeFrom {d : Disk} {start place : Place} {names : List String}
    (h : d.walk start names = .ok place) : place = placeFrom start names := by
  induction names generalizing start with
  | nil =>
      rw [walk] at h
      cases h
      rfl
  | cons name rest ih =>
      rw [walk] at h
      rw [placeFrom, List.foldl_cons, ← placeFrom]
      by_cases hup : (name == "..") = true
      · rw [if_pos hup] at h ⊢
        exact ih h
      · rw [if_neg hup] at h ⊢
        split at h
        · cases h
        · split at h
          · next hrest =>
              cases h
              rw [List.isEmpty_iff.mp hrest]
              rfl
          · split at h
            · exact ih h
            · cases h
            · cases h

/-- **A path leads to its place or nowhere.** -/
theorem locate_eq_placeOf {d : Disk} {path : String} {place : Place}
    (h : d.locate path = .ok place) : place = d.placeOf path := by
  rw [locate] at h
  split at h
  · cases h
  · split at h
    · cases h
    · exact walk_eq_placeFrom h

/-- The place of a name in a folder is that of the folder and then the name. -/
theorem placeOf_join (d : Disk) (folder : String) {name : String} (h : IsPlainName name) :
    d.placeOf (join folder name) = d.placeOf folder ++ [name] := by
  have hup : (name == "..") = false := by simpa using h.2.2.1
  rw [placeOf, placeOf, names_join folder h, start_join d folder h, placeFrom, placeFrom,
    List.foldl_append, List.foldl_cons, List.foldl_nil, hup]
  rfl

/-- Where paths lead depends on the working folder alone. -/
theorem placeOf_congr {d d' : Disk} (h : d'.working = d.working) (path : String) :
    d'.placeOf path = d.placeOf path := by
  simp [placeOf, start, h]

end Disk

end SceneRender
