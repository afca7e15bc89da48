import Mathlib.Data.List.Pairwise
import Mathlib.Data.List.Perm.Basic
import SceneRender.Proofs.Toml.PrintedDocument
import SceneRender.Schema.TomlValue

/-!
# Tables that fill a form

A field of a table does something to the thing that is filled in (`Slot.effect?`).  Fields stand
in a table in the order of their names, and tables in a document likewise, so that what they do
is done in another order than they were printed in.  Where no two of them get in each other's
way (`Commuting`), that makes no difference: a form is filled as if they came in the printed order.

A form that is printed field by field, with some fields left out, is followed by what is printed
(`Follows`); then every field is found in the form.  `readSections_says` puts this together: a
text that says the tables of some sections does to a thing what their fields do.
-/

namespace SceneRender

open Toml

namespace Schema

variable {σ : Type}

/-! ## Changes that do not get in each other's way -/

/-- Changes made one after the other. -/
def apply (changes : List (σ → σ)) (c : σ) : σ := changes.foldl (fun c change => change c) c

/-- Any two of the changes can be made in either order. -/
def Commuting (changes : List (σ → σ)) : Prop :=
  changes.Pairwise fun f g => ∀ c, f (g c) = g (f c)

/-- The order of changes does not matter. -/
theorem Commuting.apply_perm {changes changes' : List (σ → σ)} (h : Commuting changes)
    (hperm : changes'.Perm changes) (c : σ) : apply changes' c = apply changes c := by
  refine (List.Perm.foldl_eq' hperm.symm ?_ c).symm
  have hcomm : ∀ f ∈ changes, ∀ g ∈ changes, ∀ c, f (g c) = g (f c) := fun f hf g hg =>
    List.Pairwise.forall_of_forall_of_flip (fun _ _ _ => rfl) h
      (h.imp fun hfg c => (hfg c).symm) hf hg
  exact fun f hf g hg c => hcomm g hg f hf c

/-! ## Fields -/

/-- What a printed value does in a slot. -/
def Slot.effect? : Slot σ → Written → Option (σ → σ)
  | .text _ _ fill, .text s => some (fill s)
  | .flag fill, .flag b => some (fill b)
  | .natural _ largest fill, .natural n => if n ≤ largest then some (fill n) else none
  | .choice options, .text name => options.lookup name
  | .texts fill, .texts ss => some (fill ss)
  | _, _ => none

/-- What a printed field does to a form. -/
def Form.effect? (form : Form σ) (p : String × Written) : Option (σ → σ) :=
  (form.field? p.1).bind fun f => f.slot.effect? p.2

/-- A number of 63 bits at most, which both the writer and the reader take. -/
def Moderate : Written → Prop
  | .natural n => n < Nat.pow 2 63
  | .text _ | .flag _ | .texts _ => True

variable {slot : Slot σ} {form : Form σ} {w : Written} {change : σ → σ} {fields : Fields}
  {printed : List (String × Written)} {changes : List (σ → σ)}

/-- A list of texts is read as the texts. -/
theorem tomlTexts_eq {items : List (Span × Value)} {ss : List String}
    (h : items.map (·.2) = ss.map Value.text) : tomlTexts items = .ok ss := by
  induction ss generalizing items with
  | nil =>
      rw [List.map_eq_nil_iff.mp h]
      rfl
  | cons s ss ih =>
      obtain ⟨⟨span, v⟩, items, rfl, hv, hitems⟩ := List.map_eq_cons_iff.mp h
      obtain rfl : v = .text s := hv
      rw [tomlTexts, ih hitems]
      rfl

/-- A value that says what was printed does the same in a slot. -/
theorem Slot.ofToml_effect {v : Value} (hv : Holds v w) (hw : Moderate w)
    (h : slot.effect? w = some change) (span : Span) : slot.ofToml span v = .ok change := by
  cases hv with
  | text s =>
      cases slot with
      | text expected nullable fill => cases h; rfl
      | choice options =>
          simp only [Slot.ofToml, fitChoice, show options.lookup s = some change from h]
          rfl
      | flag _ | natural _ _ _ | texts _ => cases h
  | natural n =>
      cases slot with
      | natural kind largest fill =>
          obtain ⟨hfits, rfl⟩ : n ≤ largest ∧ fill n = change := by
            simpa [effect?] using h
          have hless : Nat.pow 2 63 < Nat.pow 2 64 := by decide
          have hn : n < Nat.pow 2 63 := hw
          rw [integerOf_of_lt (by omega)]
          have hlarge : ¬((Nat.pow 2 64 : Int) ≤ n ∨ (n : Int) < -(Nat.pow 2 63 : Int)) := by omega
          have hsign : ¬(n : Int) < 0 := by omega
          simp only [Slot.ofToml, Bool.or_eq_true, decide_eq_true_eq, hlarge, hsign, if_false,
            Int.toNat_natCast, fitNatural, hfits, if_true]
          rfl
      | text _ _ _ | flag _ | choice _ | texts _ => cases h
  | flag b =>
      cases slot with
      | flag fill => cases h; rfl
      | text _ _ _ | natural _ _ _ | choice _ | texts _ => cases h
  | texts hitems =>
      cases slot with
      | texts fill =>
          cases h
          simp only [Slot.ofToml, tomlTexts_eq hitems]
          rfl
      | text _ _ _ | flag _ | natural _ _ _ | choice _ => cases h

/-- Fields are read in the order in which they stand. -/
theorem Form.ofTomlFields_eq
    (hfields : List.Forall₂ (fun f p => f.1 = p.1 ∧ Holds f.2.2 p.2) fields printed)
    (heffects : List.Forall₂ (fun p change => form.effect? p = some change) printed changes)
    (hmoderate : ∀ p ∈ printed, Moderate p.2) (c : σ) :
    form.ofTomlFields fields c = .ok (apply changes c) := by
  induction hfields generalizing changes c with
  | nil =>
      cases heffects
      rfl
  | @cons f p fields printed hf _ ih =>
      obtain ⟨hp, hmoderate⟩ := List.forall_mem_cons.mp hmoderate
      cases heffects with
      | @cons _ change _ changes hchange heffects =>
          obtain ⟨field, hfield, heffect⟩ := Option.bind_eq_some_iff.mp hchange
          obtain ⟨name, span, v⟩ := f
          obtain ⟨hname, hv⟩ := hf
          have hread := Slot.ofToml_effect hv hp heffect span
          rw [Form.ofTomlFields, show name = p.1 from hname, hfield]
          simp only [hread, bind, Except.bind]
          exact ih heffects hmoderate (change c)

/-! ## Fields in the order of a form -/

/-- Things with different names are found by their names. -/
theorem find?_name {α : Type} {all : List α} (name : α → String) (hnodup : (all.map name).Nodup)
    {a : α} (ha : a ∈ all) : all.find? (name · == name a) = some a := by
  induction all with
  | nil => cases ha
  | cons b all ih =>
      rw [List.map_cons, List.nodup_cons] at hnodup
      rw [List.find?_cons]
      rcases List.mem_cons.mp ha with rfl | ha
      · rw [beq_self_eq_true]
      · have hne : (name b == name a) = false := beq_eq_false_iff_ne.mpr fun heq =>
          hnodup.1 (heq ▸ List.mem_map_of_mem ha)
        rw [hne]
        exact ih hnodup.2 ha

/-- Printed fields stand in the order of a form, each at most once, and do something to it. -/
inductive Follows : List (Field σ) → List (String × Written) → List (σ → σ) → Prop
  | nil : Follows [] [] []
  | field {f : Field σ} {w : Written} {change : σ → σ} {fs : List (Field σ)}
      {printed : List (String × Written)} {changes : List (σ → σ)} (moderate : Moderate w)
      (effect : f.slot.effect? w = some change) (rest : Follows fs printed changes) :
      Follows (f :: fs) ((f.name, w) :: printed) (change :: changes)
  | absent {f : Field σ} {fs : List (Field σ)} {printed : List (String × Written)}
      {changes : List (σ → σ)} (rest : Follows fs printed changes) :
      Follows (f :: fs) printed changes

namespace Follows

variable {fs : List (Field σ)}

/-- The printed names are among those of the fields, in their order. -/
theorem names (h : Follows fs printed changes) :
    (printed.map (·.1)).Sublist (fs.map (·.name)) := by
  induction h with
  | nil => exact .slnil
  | field _ _ _ ih => exact ih.cons_cons _
  | absent _ ih => exact ih.cons _

/-- What follows its fields is moderate. -/
theorem moderate (h : Follows fs printed changes) : ∀ p ∈ printed, Moderate p.2 := by
  induction h with
  | nil => exact List.forall_mem_nil _
  | field hmoderate _ _ ih => exact List.forall_mem_cons.mpr ⟨hmoderate, ih⟩
  | absent _ ih => exact ih

/-- Each printed field does what its place in the form says. -/
theorem effects (h : Follows form.fields printed changes)
    (hnodup : (form.fields.map (·.name)).Nodup) :
    List.Forall₂ (fun p change => form.effect? p = some change) printed changes := by
  have hfound : ∀ f ∈ form.fields, form.field? f.name = some f := fun f => find?_name _ hnodup
  generalize hfs : form.fields = fs at h hfound
  clear hfs hnodup
  induction h with
  | nil => exact .nil
  | field _ heffect _ ih =>
      obtain ⟨hf, hfound⟩ := List.forall_mem_cons.mp hfound
      refine .cons ?_ (ih hfound)
      rw [Form.effect?, hf, Option.bind_some, heffect]
  | absent _ ih => exact ih (List.forall_mem_cons.mp hfound).2

end Follows

/-- What the printed fields of a table do to a thing. -/
def Form.Fills (form : Form σ) (printed : List (String × Written)) (change : σ → σ) : Prop :=
  ∃ changes : List (σ → σ), Follows form.fields printed changes ∧ Commuting changes ∧
    ∀ c, apply changes c = change c

/-- The fields of a form have different names, each of them a word. -/
structure Form.Named (form : Form σ) : Prop where
  distinct : (form.fields.map (·.name)).Nodup
  words : ∀ name ∈ form.fields.map (·.name), IsWord name.toList

/-- **A table is read as its printed fields**, in whatever order they are kept. -/
theorem Form.ofTomlFields_kept (hfills : form.Fills printed change) (hnamed : form.Named)
    (h : Kept Holds fields printed) (c : σ) : form.ofTomlFields fields c = .ok (change c) := by
  obtain ⟨changes, hfollows, hcommuting, hchange⟩ := hfills
  obtain ⟨sorted, hperm, hfields⟩ := h
  obtain ⟨changes', hsorted, hchanges'⟩ :=
    List.perm_comp_forall₂ hperm (hfollows.effects hnamed.distinct)
  have hmoderate : ∀ p ∈ sorted, Moderate p.2 := fun p hp =>
    hfollows.moderate p (hperm.mem_iff.mp hp)
  rw [Form.ofTomlFields_eq hfields hsorted hmoderate, hcommuting.apply_perm hchanges', hchange]

/-! ## Sections -/

/-- What a printed table does to a document. -/
def FillsSection (sections : List (Section σ)) (t : String × List (String × Written))
    (change : σ → σ) : Prop :=
  ∃ part, sections.find? (·.name == t.1) = some part ∧ part.form.Named ∧
    part.form.Fills t.2 change

variable {sections : List (Section σ)} {tables : List (String × List (String × Written))}

/-- Sections are read in the order in which their tables stand. -/
theorem fillSections_eq
    (htables : List.Forall₂ (fun f t => f.1 = t.1 ∧ HoldsTable f.2.2 t.2) fields tables)
    (hfills : List.Forall₂ (FillsSection sections) tables changes) (c : σ) :
    fillSections sections fields c = .ok (apply changes c) := by
  induction htables generalizing changes c with
  | nil =>
      cases hfills
      rfl
  | @cons f t fields tables hf _ ih =>
      cases hfills with
      | @cons _ change _ changes hchange hfills =>
          obtain ⟨part, hpart, hnamed, hfill⟩ := hchange
          obtain ⟨name, span, v⟩ := f
          obtain ⟨hname, inner, rfl, hinner⟩ := hf
          have hread := Form.ofTomlFields_kept hfill hnamed hinner c
          rw [fillSections, show name = t.1 from hname, hpart]
          simp only [Form.ofToml, hread, bind, Except.bind]
          exact ih hfills (change c)

/-- **A document is read as its printed tables**, in whatever order they are kept. -/
theorem fillSections_kept (hfills : List.Forall₂ (FillsSection sections) tables changes)
    (hcommuting : Commuting changes) (h : Kept HoldsTable fields tables) (c : σ) :
    fillSections sections fields c = .ok (apply changes c) := by
  obtain ⟨sorted, hperm, htables⟩ := h
  obtain ⟨changes', hsorted, hchanges'⟩ := List.perm_comp_forall₂ hperm hfills
  rw [fillSections_eq htables hsorted, hcommuting.apply_perm hchanges']

/-- Each table fills a section. -/
theorem exists_fills (hfills : List.Forall₂ (FillsSection sections) tables changes) :
    ∀ t ∈ tables, ∃ change, FillsSection sections t change := by
  induction hfills with
  | nil => exact List.forall_mem_nil _
  | cons h _ ih => exact List.forall_mem_cons.mpr ⟨⟨_, h⟩, ih⟩

/-- The fields of tables that fill sections can be told apart. -/
theorem distinct_of_fills (hfills : List.Forall₂ (FillsSection sections) tables changes)
    (houter : (tables.map (·.1)).Nodup) : Distinct tables := by
  refine ⟨houter, fun t ht => ?_⟩
  obtain ⟨_, part, -, hnamed, _, hfollows, -⟩ := exists_fills hfills t ht
  exact hfollows.names.nodup hnamed.distinct

/-- The fields of tables that fill sections are named by words. -/
theorem named_of_fills (hfills : List.Forall₂ (FillsSection sections) tables changes)
    (hwords : ∀ t ∈ tables, IsWord t.1.toList) : Named tables := by
  refine fun t ht => ⟨hwords t ht, fun f hf => ?_⟩
  obtain ⟨_, part, -, hnamed, _, hfollows, -⟩ := exists_fills hfills t ht
  exact hnamed.words f.1 (hfollows.names.subset (List.mem_map_of_mem hf))

/-- What fills its sections is moderate. -/
theorem moderate_of_fills (hfills : List.Forall₂ (FillsSection sections) tables changes) :
    ∀ t ∈ tables, ∀ p ∈ t.2, Moderate p.2 := by
  intro t ht
  obtain ⟨_, part, -, -, _, hfollows, -⟩ := exists_fills hfills t ht
  exact hfollows.moderate

/-- **Printed tables are read back**: each does to a document what its fields do. -/
theorem readSections_says {source : String} (h : Says source.toList (entriesOf tables))
    (hmark : ∀ c ∈ source.toList.head?, c.toNat ≠ 0xFEFF)
    (houter : (tables.map (·.1)).Nodup)
    (hfills : List.Forall₂ (FillsSection sections) tables changes) (hcommuting : Commuting changes)
    (start : σ) : readSections sections start source = .ok (apply changes start) := by
  obtain ⟨root, hread, hkept⟩ := readDocument_says h hmark (distinct_of_fills hfills houter)
  rw [readSections, hread]
  simp only [fillSections_kept hfills hcommuting hkept]

end Schema

end SceneRender
