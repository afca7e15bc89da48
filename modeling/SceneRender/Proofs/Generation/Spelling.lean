import SceneRender.Generation.Request
import SceneRender.Proofs.Schema.Spelling

/-!
# Spellings of a generation request

A client may write a request as a record, with its members in any order, or as a list of its
values; it may leave out instructions that are empty, put blanks anywhere, and write
characters and names in several ways.  `GenerationRequest.Spells` says so, and
`GenerationRequest.reads_spelled` that the request is read from each of its spellings.

The compact form, which stands for the request in its canonical text, is one of the
spellings (`spells_compact`).
-/

namespace SceneRender.GenerationRequest

open SceneRender.Json SceneRender.Schema

/-! ## Spellings -/

/-- How the value of a field is written, by the name of the field. -/
inductive SpellsMember (r : GenerationRequest) : String → List Char → Prop
  | topic {value : List Char} (text : SpellsText r.topic value) : SpellsMember r "topic" value
  | duration : SpellsMember r "duration_seconds" (Nat.toDigits 10 r.durationSeconds)
  | style {value : List Char} (choice : SpellsChoice r.style.name value) :
      SpellsMember r "style" value
  | level {value : List Char} (choice : SpellsChoice r.level.name value) :
      SpellsMember r "level" value
  | instructions {value : List Char} (text : SpellsText r.instructions value) :
      SpellsMember r "additional_instructions" value

/-- The names of the fields that have to be given. -/
def requiredNames : List String := ["topic", "duration_seconds", "style", "level"]

/-- Members that say all of a request, given by names and by how their values are written.
Empty instructions need not be said. -/
structure Whole (r : GenerationRequest) (members : List (String × List Char)) : Prop where
  values : ∀ member ∈ members, r.SpellsMember member.1 member.2
  complete : ∀ name ∈ requiredNames, name ∈ members.map (·.1)
  instructed : "additional_instructions" ∈ members.map (·.1) ∨ r.instructions = ""

/-- How a request is written. -/
inductive Spells (r : GenerationRequest) : List Char → Prop
  /-- A record, with its members in any order, each at most once. -/
  | record {b₀ b₁ text : List Char} {members : List (String × List Char)}
      (whole : r.Whole members) (once : (members.map (·.1)).Nodup) (inFront : Blanks b₀)
      (record : SpellsMembers true members text) (behind : Blanks b₁) :
      Spells r (b₀ ++ '\x7b' :: (text ++ b₁))
  /-- A list of the values in the order of the fields. -/
  | list {b₀ b₁ text : List Char} {members : List (String × List Char)} (whole : r.Whole members)
      (order : members.map (·.1) <+: form.fields.map (·.name)) (inFront : Blanks b₀)
      (list : SpellsItems true (members.map (·.2)) text) (behind : Blanks b₁) :
      Spells r (b₀ ++ '[' :: (text ++ b₁))

/-! ## Reading -/

/-- The request as far as it was told with the given names. -/
def told (r : GenerationRequest) (names : List String) : GenerationRequest where
  topic := if "topic" ∈ names then r.topic else blank.topic
  durationSeconds :=
    if "duration_seconds" ∈ names then r.durationSeconds else blank.durationSeconds
  style := if "style" ∈ names then r.style else blank.style
  level := if "level" ∈ names then r.level else blank.level
  instructions :=
    if "additional_instructions" ∈ names then r.instructions else blank.instructions

variable {r : GenerationRequest}

/-- A request whose required fields are told is told, but for its instructions. -/
theorem told_eq {names : List String} (hrequired : ∀ name ∈ requiredNames, name ∈ names)
    (hinstructions : "additional_instructions" ∈ names ∨ r.instructions = "") :
    r.told names = r := by
  simp only [requiredNames, List.forall_mem_cons] at hrequired
  obtain ⟨htopic, hduration, hstyle, hlevel, -⟩ := hrequired
  have hlast : (if "additional_instructions" ∈ names then r.instructions else "") =
      r.instructions := by
    rcases hinstructions with h | h
    · rw [if_pos h]
    · rw [h, ite_self]
  simp only [told, htopic, hduration, hstyle, hlevel, if_true]
  rw [show blank.instructions = "" from rfl, hlast]

/-- Nothing is missing where every required name is there. -/
theorem missing?_eq_none {names : List String} (h : ∀ name ∈ requiredNames, name ∈ names) :
    form.missing? names = none := by
  simp only [requiredNames, List.forall_mem_cons] at h
  obtain ⟨htopic, hduration, hstyle, hlevel, -⟩ := h
  simp [Form.missing?, form, htopic, hduration, hstyle, hlevel]

/-- A style is found under its name. -/
theorem lookup_style (s : Style) :
    (Style.all.map fun s => (s.name, fun r : GenerationRequest => { r with style := s })).lookup
      s.name = some fun r => { r with style := s } := by
  cases s <;> rfl

/-- A level is found under its name. -/
theorem lookup_level (l : Level) :
    (Level.all.map fun l => (l.name, fun r : GenerationRequest => { r with level := l })).lookup
      l.name = some fun r => { r with level := l } := by
  cases l <;> rfl

/-- The field of a member takes its value and tells it. -/
theorem tells {name : String} {value : List Char} (h : r.SpellsMember name value)
    (hlong : r.durationSeconds < Nat.pow 2 32) :
    ∃ f, form.field? name = some f ∧ Field.Tells r.told f value := by
  cases h with
  | topic text =>
      exact ⟨_, rfl, _, Slot.takes_text text _ _ _, fun given => by simp [told]⟩
  | duration =>
      have hlargest : r.durationSeconds ≤ Nat.pow 2 32 - 1 := Nat.le_sub_one_of_lt hlong
      have hexact : r.durationSeconds ≤ maxSignificand :=
        Nat.le_trans hlargest (by decide)
      exact ⟨_, rfl, _, Slot.takes_natural hlargest hexact _ _, fun given => by simp [told]⟩
  | style choice =>
      exact ⟨_, rfl, _, Slot.takes_choice choice (lookup_style _), fun given => by simp [told]⟩
  | level choice =>
      exact ⟨_, rfl, _, Slot.takes_choice choice (lookup_level _), fun given => by simp [told]⟩
  | instructions text =>
      exact ⟨_, rfl, _, Slot.takes_text text _ _ _, fun given => by simp [told]⟩

/-- A whole record tells all of a request. -/
theorem Whole.told_eq {members : List (String × List Char)} (h : r.Whole members) :
    r.told (members.map (·.1)).reverse = r :=
  GenerationRequest.told_eq (fun name hname => List.mem_reverse.mpr (h.complete name hname))
    (h.instructed.imp_left List.mem_reverse.mpr)

/-- A whole record misses nothing. -/
theorem Whole.missing?_eq_none {members : List (String × List Char)} (h : r.Whole members) :
    form.missing? (members.map (·.1)).reverse = none :=
  GenerationRequest.missing?_eq_none fun name hname =>
    List.mem_reverse.mpr (h.complete name hname)

/-- **A request is read from each of its spellings.** -/
theorem reads_spelled {cs : List Char} (h : r.Spells cs) (hlong : r.durationSeconds < Nat.pow 2 32) :
    form.ofJsonText blank (String.ofList cs) = .ok r := by
  have hnothing : r.told [] = blank := rfl
  rw [← hnothing]
  cases h with
  | record whole once inFront record behind =>
      rw [Form.ofJsonText_record inFront record behind
        (fun member hmem => tells (whole.values member hmem) hlong) once whole.missing?_eq_none,
        whole.told_eq]
  | list whole order inFront list behind =>
      rw [Form.ofJsonText_list inFront list behind
        (fun member hmem => tells (whole.values member hmem) hlong) order (by decide)
        whole.missing?_eq_none, whole.told_eq]

/-! ## The compact form -/

/-- The members of the compact form, in the order of the fields. -/
theorem whole_compact (r : GenerationRequest) :
    r.Whole [("topic", (quote r.topic).toList),
      ("duration_seconds", Nat.toDigits 10 r.durationSeconds),
      ("style", (quote r.style.name).toList), ("level", (quote r.level.name).toList),
      ("additional_instructions", (quote r.instructions).toList)] where
  values := by
    simp only [List.forall_mem_cons]
    exact ⟨.topic (spellsText_quote _), .duration, .style (.named (spellsText_quote _)),
      .level (.named (spellsText_quote _)), .instructions (spellsText_quote _), nofun⟩
  complete := by simp [requiredNames]
  instructed := Or.inl (by simp)

/-- **The compact form is a spelling of the request.** -/
theorem spells_compact (r : GenerationRequest) : r.Spells r.toJson.compact.toList := by
  have hmembers := spellsMembers_compact (.first Blanks.nil) "topic" (.text r.topic)
    [("duration_seconds", .natural r.durationSeconds), ("style", .text r.style.name),
      ("level", .text r.level.name), ("additional_instructions", .text r.instructions)]
  simp only [List.map_cons, List.map_nil, Value.compact, Value.natural, Number.print,
    Nat.toString_eq_ofList_toDigits, String.toList_ofList, List.nil_append] at hmembers
  have hspells := Spells.record r.whole_compact (by simp) Blanks.nil hmembers Blanks.nil
  simpa [toJson, Value.compact, Value.natural, Number.print] using hspells

end SceneRender.GenerationRequest
