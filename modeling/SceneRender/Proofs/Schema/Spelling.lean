import SceneRender.Proofs.Json.Spelling
import SceneRender.Schema.JsonText

/-!
# Spellings that fill a form

A form is filled alike by every spelling of the same values.  `Slot.Takes` says that a slot
takes a text for what it does to the thing that is filled in; texts, natural numbers and
choices are taken in all their spellings.

What is filled in may depend on the order of the values only through the names that were
given.  Then a record fills the form whatever the order of its members
(`Form.ofJsonText_record`), and a list of the values does so too (`Form.ofJsonText_list`).
-/

namespace SceneRender.Schema

open SceneRender.Json Cursor

variable {σ α β ε ε' : Type} {rest : List Char}

/-! ## Steps of reading -/

/-- Another wording of faults does not matter where none occurs. -/
theorem reads_mapError {r : Except ε (α × Cursor)} {a : α} (h : Reads r a rest) (f : ε → ε') :
    Reads (r.mapError f) a rest := by
  obtain ⟨place, rfl⟩ := h
  exact ⟨place, rfl⟩

/-- Another wording of faults does not matter where none occurs. -/
theorem reaches_mapError {r : Except ε Cursor} (h : Reaches r rest) (f : ε → ε') :
    Reaches (r.mapError f) rest := by
  obtain ⟨place, rfl⟩ := h
  exact ⟨place, rfl⟩

/-- A value is seen behind blanks. -/
theorem reads_atValue {bs : List Char} (hbs : Blanks bs) {c : Char} (hc : isSpace c = false)
    (rest : List Char) (place : Place) : Reads (atValue ⟨bs ++ c :: rest, place⟩) c (c :: rest) := by
  obtain ⟨place', hpast⟩ := pastSpaces_cons hbs hc rest place
  refine ⟨place', ?_⟩
  rw [atValue, hpast]

/-! ## Slots -/

/-- A slot takes a text for a value, with the blanks in front of it. -/
structure Slot.Takes (slot : Slot σ) (set : σ → σ) (value : List Char) : Prop where
  begins : BeginsItem value
  reads : ∀ {bs rest : List Char}, Blanks bs → Ends rest → ∀ place,
    Reads (slot.readText ⟨bs ++ (value ++ rest), place⟩) set rest

/-- A spelled text fills a slot for texts. -/
theorem Slot.takes_text {s : String} {value : List Char} (h : SpellsText s value)
    (expected : String) (nullable : Bool) (fill : String → σ → σ) :
    (Slot.text expected nullable fill).Takes (fill s) value := by
  obtain ⟨tail, rfl, htext⟩ := h.reads
  refine ⟨⟨'"', tail, rfl, by decide⟩, fun {bs rest} hbs hrest place => ?_⟩
  rw [List.cons_append]
  refine (reads_atValue hbs (by decide) _ place).bind fun place => ?_
  have hnull : (nullable && '"' == 'n') = false := by simp
  dsimp only
  rw [hnull]
  refine Reads.bind (a := s) ?_ fun place => ⟨place, rfl⟩
  refine (reads_atValue Blanks.nil (by decide) _ place).bind fun place => ?_
  exact reads_mapError (htext rest _) _

/-- A digit begins neither a blank, nor the end of a list, nor a sign. -/
theorem digit_begins {d : Char} (h : d.isDigit = true) :
    isSpace d = false ∧ d ≠ ']' ∧ (d == '-') = false := by
  have hne : ∀ c : Char, c.isDigit = false → (d == c) = false := by
    intro c hc
    rw [beq_eq_false_iff_ne]
    rintro rfl
    rw [h] at hc
    cases hc
  refine ⟨?_, beq_eq_false_iff_ne.mp (hne ']' (by decide)), hne '-' (by decide)⟩
  rw [isSpace, hne ' ' (by decide), hne '\n' (by decide), hne '\t' (by decide),
    hne '\r' (by decide)]
  rfl

/-- The digits of a number within bounds fill a slot for natural numbers. -/
theorem Slot.takes_natural {n largest : Nat} (hn : n ≤ largest) (hexact : n ≤ maxSignificand)
    (kind : String) (fill : Nat → σ → σ) :
    (Slot.natural kind largest fill).Takes (fill n) (Nat.toDigits 10 n) := by
  obtain ⟨d, ds, hcons⟩ := List.exists_cons_of_ne_nil (Nat.toDigits_ne_nil (n := n) (b := 10))
  have hd : d.isDigit = true :=
    Nat.isDigit_of_mem_toDigits (by omega) (by omega) (hcons ▸ List.mem_cons_self)
  obtain ⟨hspace, hbracket, hminus⟩ := digit_begins hd
  refine ⟨⟨d, ds, hcons, hspace, hbracket⟩, fun {bs rest} hbs hrest place => ?_⟩
  rw [hcons, List.cons_append]
  refine (reads_atValue hbs hspace _ place).bind fun place => ?_
  dsimp only
  rw [hd, hminus]
  have hnumber := reads_number hexact hrest place
  rw [hcons] at hnumber
  refine (reads_mapError hnumber _).bind fun place => ⟨place, ?_⟩
  simp only [fitNatural, if_pos hn, fitted]

/-- How a choice is written: by its name, or as a record with its name as the only member. -/
inductive SpellsChoice (name : String) : List Char → Prop
  | named {text : List Char} (names : SpellsText name text) : SpellsChoice name text
  | wrapped {b₀ b₁ b₂ b₃ text : List Char} (inFront : Blanks b₀) (names : SpellsText name text)
      (before : Blanks b₁) (after : Blanks b₂) (behind : Blanks b₃) :
      SpellsChoice name
        ('\x7b' :: b₀ ++ text ++ b₁ ++ ':' :: b₂ ++ ['n', 'u', 'l', 'l'] ++ b₃ ++ ['\x7d'])

/-- An option is found by its name. -/
theorem reads_fitChoice {name : String} {options : List (String × (σ → σ))} {set : σ → σ}
    (hset : options.lookup name = some set) (place : Place) :
    Reads (fitted ⟨rest, place⟩ (fitChoice options name)) set rest :=
  ⟨place, by rw [fitChoice, hset]; rfl⟩

/-- A choice that is written as a record, behind its opening brace. -/
theorem reads_readWrappedChoice {name : String} {b₀ b₁ b₂ b₃ text : List Char}
    (inFront : Blanks b₀) (names : SpellsText name text) (before : Blanks b₁) (after : Blanks b₂)
    (behind : Blanks b₃) {options : List (String × (σ → σ))} {set : σ → σ}
    (hset : options.lookup name = some set) (place : Place) :
    Reads (readWrappedChoice options
      ⟨b₀ ++ (text ++ (b₁ ++ ':' :: (b₂ ++ 'n' :: 'u' :: 'l' :: 'l' ::
        (b₃ ++ '\x7d' :: rest)))), place⟩) set rest := by
  obtain ⟨tail, rfl, htext⟩ := names.reads
  rw [readWrappedChoice]
  refine (reads_atValue inFront (by decide) _ place).bind fun place => ?_
  refine (reads_mapError (htext _ _) _).bind fun place => ?_
  refine (reads_fitChoice hset place).bind fun place => ?_
  refine (reaches_mapError (reaches_colon before _) _).bind fun place => ?_
  have hnull : Reaches (inside (.field name)
      (atValue ⟨b₂ ++ 'n' :: 'u' :: 'l' :: 'l' :: (b₃ ++ '\x7d' :: rest), place⟩ >>= fun seen =>
        if seen.1 == 'n' then plain (seen.2.advance.literal ['u', 'l', 'l'])
        else wrongKind seen.2 "unit"))
      (b₃ ++ '\x7d' :: rest) := by
    obtain ⟨place', hvalue⟩ := reads_atValue after (c := 'n') (by decide)
      ('u' :: 'l' :: 'l' :: (b₃ ++ '\x7d' :: rest)) place
    refine reaches_mapError ?_ _
    rw [hvalue]
    exact ⟨_, rfl⟩
  refine hnull.bind fun place => ?_
  obtain ⟨place', hpast⟩ := pastSpaces_cons behind (c := '\x7d') (by decide) rest place
  dsimp only
  rw [hpast]
  exact ⟨_, rfl⟩

/-- A spelled option fills a slot for choices. -/
theorem Slot.takes_choice {name : String} {value : List Char} (h : SpellsChoice name value)
    {options : List (String × (σ → σ))} {set : σ → σ} (hset : options.lookup name = some set) :
    (Slot.choice options).Takes set value := by
  cases h with
  | named names =>
      obtain ⟨tail, rfl, htext⟩ := names.reads
      refine ⟨⟨'"', tail, rfl, by decide⟩, fun {bs rest} hbs hrest place => ?_⟩
      rw [List.cons_append]
      refine (reads_atValue hbs (by decide) _ place).bind fun place => ?_
      exact (reads_mapError (htext _ _) _).bind fun place => reads_fitChoice hset place
  | wrapped inFront names before after behind =>
      refine ⟨⟨'\x7b', _, rfl, by decide⟩, fun {bs rest} hbs hrest place => ?_⟩
      simp only [List.append_assoc, List.cons_append, List.nil_append]
      refine (reads_atValue hbs (by decide) _ place).bind fun place => ?_
      exact reads_readWrappedChoice inFront names before after behind hset _

/-! ## Forms -/

section Forms

variable {form : Form σ} {told : List String → σ}

/-- A field takes a value: what is told with it is what was told before, with its name. -/
def Field.Tells (told : List String → σ) (f : Field σ) (value : List Char) : Prop :=
  ∃ set, f.slot.Takes set value ∧ ∀ given, set (told given) = told (f.name :: given)

/-- A member of a record is taken by the field of its name. -/
def Form.Tells (form : Form σ) (told : List String → σ) (member : String × List Char) : Prop :=
  ∃ f, form.field? member.1 = some f ∧ Field.Tells told f member.2

/-- A field is found under its name. -/
theorem Form.name_of_field? {name : String} {f : Field σ} (h : form.field? name = some f) :
    f.name = name := by
  rw [Form.field?] at h
  have hbeq := List.find?_some h
  exact beq_iff_eq.mp hbeq

/-- **The members of a record are taken** one after the other, each at most once. -/
theorem Form.reads_readFields {first : Bool} {members : List (String × List Char)}
    {text : List Char} (h : SpellsMembers first members text)
    (htells : ∀ member ∈ members, form.Tells told member) {given : List String}
    (hnodup : ((members.map (·.1)).reverse ++ given).Nodup)
    (hall : form.missing? ((members.map (·.1)).reverse ++ given) = none) {fuel : Nat}
    (hfuel : members.length < fuel) (place : Place) :
    Reads (form.readFields fuel first given (told given) ⟨text ++ rest, place⟩)
      (told ((members.map (·.1)).reverse ++ given)) rest := by
  induction h generalizing given fuel place with
  | closed blanks =>
      obtain ⟨fuel, rfl⟩ := Nat.exists_eq_succ_of_ne_zero (Nat.ne_zero_of_lt hfuel)
      rw [List.append_assoc, List.singleton_append, Form.readFields]
      refine (reads_mapError (reads_nextField_closed blanks _ place) _).bind fun place => ?_
      simp only [List.map_nil, List.reverse_nil, List.nil_append] at hall ⊢
      rw [hall]
      exact ⟨_, rfl⟩
  | @member first lead nameText bs bs' value text name members leads names before after more ih =>
      obtain ⟨fuel, rfl⟩ := Nat.exists_eq_succ_of_ne_zero (Nat.ne_zero_of_lt hfuel)
      obtain ⟨⟨f, hf, set, htakes, htold⟩, htells⟩ := List.forall_mem_cons.mp htells
      obtain ⟨tail, rfl, hname⟩ := names.reads
      simp only [List.map_cons, List.reverse_cons, List.append_assoc, List.singleton_append]
        at hnodup hall ⊢
      have hnew : given.contains name = false := by
        rw [List.contains_eq_mem, decide_eq_false_iff_not]
        exact (List.nodup_cons.mp (List.nodup_append.mp hnodup).2.1).1
      have hfield : f.name = name := Form.name_of_field? hf
      simp only [List.cons_append]
      rw [Form.readFields]
      refine (reads_mapError (reads_nextField leads place) _).bind fun place => ?_
      refine (reads_mapError (hname _ _) _).bind fun place => ?_
      dsimp only at hf htakes ⊢
      rw [hf]
      simp only [hnew, Bool.false_eq_true, if_false]
      refine (reaches_mapError (reaches_colon before place) _).bind fun place => ?_
      refine (reads_mapError (htakes.reads after more.ends place) _).bind fun place => ?_
      dsimp only
      rw [htold, hfield]
      exact ih htells hnodup hall (Nat.lt_of_succ_lt_succ hfuel) place

/-- The closing bracket of a list is taken. -/
theorem Form.reaches_closeItems {bs : List Char} (hbs : Blanks bs) (place : Place) :
    Reaches (closeItems ⟨bs ++ ']' :: rest, place⟩) rest := by
  obtain ⟨place', hpast⟩ := pastSpaces_cons hbs (c := ']') (by decide) rest place
  rw [closeItems, hpast]
  exact ⟨_, rfl⟩

/-- Fields without a value are passed at the end of a list, if they may be left out. -/
theorem Form.reads_readItems_left {left : List (Field σ)}
    (hleft : ∀ f ∈ left, f.required = false) {bs : List Char} (hbs : Blanks bs) (n : Nat)
    (filled : σ) (place : Place) :
    Reads (form.readItems left n true filled ⟨bs ++ ']' :: rest, place⟩) filled rest := by
  induction left generalizing n with
  | nil => exact (reaches_closeItems hbs place).bind fun place => ⟨place, rfl⟩
  | cons f left ih =>
      obtain ⟨hf, hleft⟩ := List.forall_mem_cons.mp hleft
      change Reads (if f.required then _ else form.readItems left (n + 1) true filled _) filled rest
      rw [hf]
      exact ih hleft (n + 1)

/-- **The items of a list are taken** by the fields in order; those of the fields that are
left over may be left out. -/
theorem Form.reads_readItems {members : List (String × List Char)} {fields left : List (Field σ)}
    (htells : ∀ member ∈ members, form.Tells told member)
    (hnames : fields.map (·.name) = members.map (·.1))
    (hfields : ∀ f ∈ fields, form.field? f.name = some f) (hleft : ∀ f ∈ left, f.required = false)
    {n : Nat} {text : List Char} (h : SpellsItems (n == 0) (members.map (·.2)) text)
    (given : List String) (place : Place) :
    Reads (form.readItems (fields ++ left) n false (told given) ⟨text ++ rest, place⟩)
      (told ((members.map (·.1)).reverse ++ given)) rest := by
  induction members generalizing fields n text given place with
  | nil =>
      obtain rfl := List.map_eq_nil_iff.mp hnames
      obtain @⟨_, bs, blanks⟩ := h
      rw [List.append_assoc, List.singleton_append]
      cases left with
      | nil => exact (reaches_closeItems blanks place).bind fun place => ⟨place, rfl⟩
      | cons f left =>
          refine (reads_mapError (reads_nextItem_closed blanks _ place) _).bind fun place => ?_
          obtain ⟨hf, hleft⟩ := List.forall_mem_cons.mp hleft
          dsimp only
          rw [hf]
          exact reads_readItems_left hleft Blanks.nil _ _ place
  | cons member members ih =>
      obtain ⟨f, fields, rfl, hname, hnames⟩ := List.map_eq_cons_iff.mp hnames
      obtain ⟨⟨f', hf', set, htakes, htold⟩, htells⟩ := List.forall_mem_cons.mp htells
      obtain ⟨hf, hfields⟩ := List.forall_mem_cons.mp hfields
      obtain rfl : f = f' := Option.some.inj (hf.symm.trans (hname ▸ hf'))
      rw [List.map_cons] at h
      cases h with
      | item leads more =>
        simp only [List.append_assoc, List.map_cons, List.reverse_cons, List.singleton_append]
        refine (reads_mapError (reads_nextItem leads htakes.begins _ place) _).bind fun place => ?_
        refine (reads_mapError (htakes.reads Blanks.nil more.ends place) _).bind fun place => ?_
        dsimp only
        rw [htold, hname]
        exact ih htells hnames hfields (n := n + 1) more _ place

/-- Fields are found by their names, if these differ. -/
theorem Form.field?_of_mem (hdistinct : (form.fields.map (·.name)).Nodup) {f : Field σ}
    (hf : f ∈ form.fields) : form.field? f.name = some f := by
  rw [Form.field?]
  generalize form.fields = fields at hdistinct hf
  induction fields with
  | nil => cases hf
  | cons f' fields ih =>
      rw [List.map_cons, List.nodup_cons] at hdistinct
      rcases List.mem_cons.mp hf with rfl | hmem
      · simp
      · have hne : f'.name ≠ f.name := fun heq =>
          hdistinct.1 (heq ▸ List.mem_map_of_mem hmem)
        rw [List.find?_cons, beq_eq_false_iff_ne.mpr hne]
        exact ih hdistinct.2 hmem

/-- If nothing is missing, all required fields are given. -/
theorem Form.mem_of_missing? {given : List String} (hall : form.missing? given = none) {f : Field σ}
    (hf : f ∈ form.fields) (hrequired : f.required = true) : f.name ∈ given := by
  rw [Form.missing?, Option.map_eq_none_iff] at hall
  have hgiven := List.find?_eq_none.mp hall f hf
  simpa [hrequired] using hgiven

/-- Blanks may follow a document. -/
theorem finish_blanks {bs : List Char} (hbs : Blanks bs) (place : Place) :
    Cursor.finish ⟨bs, place⟩ = .ok () := by
  have hnothing : Solid [] := nofun
  obtain ⟨place', hpast⟩ := pastSpaces_blanks hbs hnothing place
  rw [List.append_nil] at hpast
  rw [Cursor.finish, hpast]
  rfl

/-- What was read stands, if nothing but blanks follows. -/
theorem finished {r : Parsed (σ × Cursor)} {filled : σ} {bs : List Char} (h : Reads r filled bs)
    (hbs : Blanks bs) :
    (r >>= fun x => plain x.2.finish >>= fun _ => pure x.1) = .ok filled := by
  obtain ⟨place, rfl⟩ := h
  change (plain (Cursor.finish ⟨bs, place⟩) >>= fun _ => pure filled) = _
  rw [finish_blanks hbs]
  rfl

/-- **A record fills the form**, whatever the order of its members. -/
theorem Form.ofJsonText_record {b₀ b₁ text : List Char} {members : List (String × List Char)}
    (inFront : Blanks b₀) (h : SpellsMembers true members text) (behind : Blanks b₁)
    (htells : ∀ member ∈ members, form.Tells told member) (hnodup : (members.map (·.1)).Nodup)
    (hall : form.missing? (members.map (·.1)).reverse = none) :
    form.ofJsonText (told []) (String.ofList (b₀ ++ '\x7b' :: (text ++ b₁))) =
      .ok (told (members.map (·.1)).reverse) := by
  obtain ⟨place, hvalue⟩ := reads_atValue inFront (c := '\x7b') (by decide) (text ++ b₁) .start
  have hroom : members.length < ('\x7b' :: (text ++ b₁)).length + 1 := by
    have hle := h.length_le
    simp only [List.length_cons, List.length_append]
    omega
  have hread : Reads (form.readFields (('\x7b' :: (text ++ b₁)).length + 1) true [] (told [])
      ⟨text ++ b₁, place.after '\x7b'⟩) (told ((members.map (·.1)).reverse ++ [])) b₁ :=
    reads_readFields h htells
      (by rw [List.append_nil]; exact (List.reverse_perm _).symm.nodup hnodup)
      (by rwa [List.append_nil]) hroom _
  rw [List.append_nil] at hread
  rw [Form.ofJsonText, Cursor.ofString, String.toList_ofList, hvalue]
  exact finished hread behind

/-- **A list of the values fills the form** too, as long as only fields at its end are left
out. -/
theorem Form.ofJsonText_list {b₀ b₁ text : List Char} {members : List (String × List Char)}
    (inFront : Blanks b₀) (h : SpellsItems true (members.map (·.2)) text) (behind : Blanks b₁)
    (htells : ∀ member ∈ members, form.Tells told member)
    (horder : members.map (·.1) <+: form.fields.map (·.name))
    (hdistinct : (form.fields.map (·.name)).Nodup)
    (hall : form.missing? (members.map (·.1)).reverse = none) :
    form.ofJsonText (told []) (String.ofList (b₀ ++ '[' :: (text ++ b₁))) =
      .ok (told (members.map (·.1)).reverse) := by
  obtain ⟨place, hvalue⟩ := reads_atValue inFront (c := '[') (by decide) (text ++ b₁) .start
  obtain ⟨others, hsplit⟩ := horder
  obtain ⟨fields, left, hfields, hnames, rfl⟩ := List.map_eq_append_iff.mp hsplit.symm
  have hfound : ∀ f ∈ fields, form.field? f.name = some f := fun f hf =>
    field?_of_mem hdistinct (hfields ▸ List.mem_append_left left hf)
  have hleft : ∀ f ∈ left, f.required = false := by
    intro f hf
    -- a required field would be among those that were given
    refine Bool.eq_false_iff.mpr fun hrequired => ?_
    have hgiven := mem_of_missing? hall (hfields ▸ List.mem_append_right fields hf) hrequired
    rw [← hsplit] at hdistinct
    exact (List.nodup_append.mp hdistinct).2.2 _ (List.mem_reverse.mp hgiven) _
      (List.mem_map_of_mem hf) rfl
  have hread : Reads (form.readItems (fields ++ left) 0 false (told [])
      ⟨text ++ b₁, place.after '['⟩) (told ((members.map (·.1)).reverse ++ [])) b₁ :=
    reads_readItems htells hnames hfound hleft (n := 0) h [] _
  rw [← hfields, List.append_nil] at hread
  rw [Form.ofJsonText, Cursor.ofString, String.toList_ofList, hvalue]
  exact finished hread behind

end Forms

end SceneRender.Schema
