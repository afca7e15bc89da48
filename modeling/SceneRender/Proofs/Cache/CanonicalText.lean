import Mathlib.Data.List.Infix
import SceneRender.Proofs.Cache.Keys
import SceneRender.Proofs.Generation.Spelling
import SceneRender.Proofs.Separated

/-!
# Canonical texts are unambiguous

A canonical text joins its parts with colons.  A provider has none, so it ends at the first
one; but the name of a model may have colons and may look like a request, and so may the
texts of a request.  Where the model ends is decided by the request: its compact form begins
with a brace, a quote and a letter, and nothing like that is found further inside of one
(`opening_not_infix`).  For a quote within a text is escaped, so that a brace that stands
before a quote is the last character of its text, and behind this quote stands a comma or a
brace.

Hence no compact form has another one behind a colon, and `canonical_texts_unambiguous`
takes a canonical text apart in one way only.
-/

namespace SceneRender

open SceneRender.Json

/-! ## Texts between quotes -/

/-- A text between quotes ends where it ends, whatever follows. -/
theorem Json.quote_append_inj {s s' : String} {rest rest' : List Char}
    (h : (quote s).toList ++ rest = (quote s').toList ++ rest') : s = s' ∧ rest = rest' := by
  obtain ⟨tail, htail, hreads⟩ := (spellsText_quote s).reads
  obtain ⟨tail', htail', hreads'⟩ := (spellsText_quote s').reads
  rw [htail, htail', List.cons_append, List.cons_append] at h
  obtain ⟨place, hread⟩ := hreads rest .start
  obtain ⟨place', hread'⟩ := hreads' rest' .start
  rw [(List.cons.inj h).2, hread'] at hread
  cases hread
  exact ⟨rfl, rfl⟩

/-- A character other than a quote is written as it is, or a backslash is in front and no brace
follows. -/
theorem Json.escapeChar_cases (c : Char) :
    c ≠ '"' ∧ escapeChar c = [c] ∨ ∃ cs, escapeChar c = '\\' :: cs ∧ '\x7b' ∉ cs := by
  have hdigits : ∀ n < 32, '\x7b' ∉ ['u', '0', '0', hexDigit (n / 16), hexDigit (n % 16)] := by
    decide
  rw [escapeChar.eq_def]
  split
  · exact Or.inr ⟨_, rfl, by decide⟩
  · exact Or.inr ⟨_, rfl, by decide⟩
  · exact Or.inr ⟨_, rfl, by decide⟩
  · exact Or.inr ⟨_, rfl, by decide⟩
  · exact Or.inr ⟨_, rfl, by decide⟩
  · next hquote _ _ _ _ =>
    split
    · exact Or.inr ⟨_, rfl, by decide⟩
    · split
      · exact Or.inr ⟨_, rfl, by decide⟩
      · split
        · next hcontrol => exact Or.inr ⟨_, rfl, hdigits _ hcontrol⟩
        · exact Or.inl ⟨hquote, rfl⟩

/-- The first quote of a written text is the one that closes it. -/
theorem Json.quote_head_escaped {s rest tail : List Char}
    (h : s.flatMap escapeChar ++ '"' :: rest = '"' :: tail) : tail = rest := by
  cases s with
  | nil => exact (List.cons.inj h).2.symm
  | cons c s =>
      rw [List.flatMap_cons, List.append_assoc] at h
      rcases escapeChar_cases c with ⟨hc, hself⟩ | ⟨cs, hescaped, -⟩
      · rw [hself] at h
        exact absurd (List.cons.inj h).1 hc
      · rw [hescaped] at h
        exact absurd (List.cons.inj h).1 (by decide)

namespace GenerationRequest

variable {r r' : GenerationRequest} {rest rest' : List Char}

/-! ## The compact form -/

/-- What follows the opening brace of the compact form. -/
def compactMembers (r : GenerationRequest) : List Char :=
  (quote "topic").toList ++ ':' :: ((quote r.topic).toList ++
    ',' :: ((quote "duration_seconds").toList ++ ':' :: (Nat.toDigits 10 r.durationSeconds ++
      ',' :: ((quote "style").toList ++ ':' :: ((quote r.style.name).toList ++
        ',' :: ((quote "level").toList ++ ':' :: ((quote r.level.name).toList ++
          ',' :: ((quote "additional_instructions").toList ++
            ':' :: ((quote r.instructions).toList ++ ['\x7d'])))))))))

/-- The compact text of a request opens a record. -/
theorem toList_compact (r : GenerationRequest) :
    r.toJson.compact.toList = '\x7b' :: r.compactMembers := by
  simp [toJson, compactMembers, Value.compact, Value.compactFields, Value.natural, Number.print,
    String.intercalate_cons_cons]

/-- Styles are told apart by their names. -/
theorem Style.name_inj {style style' : Style} (h : style.name = style'.name) : style = style' := by
  cases style <;> cases style' <;> first | rfl | exact absurd h (by decide)

/-- Levels are told apart by their names. -/
theorem Level.name_inj {level level' : Level} (h : level.name = level'.name) : level = level' := by
  cases level <;> cases level' <;> first | rfl | exact absurd h (by decide)

/-- **The compact form tells requests apart.** -/
theorem compact_inj (h : r.toJson.compact = r'.toJson.compact) : r = r' := by
  have hvalue {name : String} {rest rest' : List Char}
      (h : (quote name).toList ++ ':' :: rest = (quote name).toList ++ ':' :: rest') :
      rest = rest' := (List.cons.inj (List.append_cancel_left h)).2
  replace h := congrArg String.toList h
  rw [toList_compact, toList_compact, compactMembers, compactMembers] at h
  obtain ⟨htopic, h⟩ := quote_append_inj (hvalue (List.cons.inj h).2)
  obtain ⟨hduration, h⟩ := toDigits_append_cons_inj (by decide) (hvalue (List.cons.inj h).2)
  obtain ⟨hstyle, h⟩ := quote_append_inj (hvalue h)
  obtain ⟨hlevel, h⟩ := quote_append_inj (hvalue (List.cons.inj h).2)
  obtain ⟨hinstructions, -⟩ := quote_append_inj (hvalue (List.cons.inj h).2)
  cases r
  cases r'
  simp only [mk.injEq]
  exact ⟨htopic, hduration, Style.name_inj hstyle, Level.name_inj hlevel, hinstructions⟩

/-! ## Where a compact form begins -/

/-- How a compact form begins. -/
def opening : List Char := ['\x7b', '"', 't']

/-- What opens like a request begins with these three characters. -/
theorem opening_prefix_iff {cs : List Char} :
    opening <+: cs ↔ ∃ rest, cs = '\x7b' :: '"' :: 't' :: rest := by
  constructor
  · rintro ⟨rest, rfl⟩
    exact ⟨rest, rfl⟩
  · rintro ⟨rest, rfl⟩
    exact ⟨rest, rfl⟩

/-- Nothing begins where there is no brace. -/
theorem opening_infix_of_append (front : List Char) (hfront : '\x7b' ∉ front)
    (h : opening <:+: front ++ rest) : opening <:+: rest := by
  induction front with
  | nil => exact h
  | cons c front ih =>
      obtain ⟨hc, hfront⟩ := not_or.mp (mt List.mem_cons.mpr hfront)
      refine ih hfront ((List.infix_cons_iff.mp h).resolve_left fun hprefix => ?_)
      obtain ⟨_, heq⟩ := opening_prefix_iff.mp hprefix
      exact hc (List.cons.inj heq).1.symm

/-- Nothing begins in a text between quotes. -/
theorem opening_infix_of_quote {s : String} {c : Char} (hc : c ≠ 't')
    (h : opening <:+: (quote s).toList ++ c :: rest) : opening <:+: c :: rest := by
  have hinside (cs : List Char) (h : opening <:+: cs.flatMap escapeChar ++ '"' :: c :: rest) :
      opening <:+: c :: rest := by
    induction cs with
    | nil => exact opening_infix_of_append ['"'] (by decide) h
    | cons d cs ih =>
        rw [List.flatMap_cons, List.append_assoc] at h
        rcases escapeChar_cases d with ⟨-, hself⟩ | ⟨escape, hescaped, hescape⟩
        · rw [hself] at h
          refine ih ((List.infix_cons_iff.mp h).resolve_left fun hprefix => ?_)
          obtain ⟨tail, heq⟩ := opening_prefix_iff.mp hprefix
          exact hc (List.cons.inj (quote_head_escaped (List.cons.inj heq).2)).1.symm
        · rw [hescaped] at h
          refine ih (opening_infix_of_append ('\\' :: escape) ?_ h)
          simpa using hescape
  rw [quote, String.toList_ofList, List.append_assoc] at h
  exact hinside s.toList (opening_infix_of_append ['"'] (by decide) h)

/-- **No compact form begins inside of another one.** -/
theorem opening_not_infix (r : GenerationRequest) : ¬ opening <:+: r.compactMembers := by
  intro h
  have hdigits : '\x7b' ∉ Nat.toDigits 10 r.durationSeconds := fun hmem =>
    absurd (Nat.isDigit_of_mem_toDigits (by omega) (by omega) hmem) (by decide)
  have hnext {c : Char} {rest : List Char} (hc : c ≠ '\x7b') (h : opening <:+: c :: rest) :
      opening <:+: rest :=
    opening_infix_of_append [c] (by simpa using hc.symm) h
  rw [compactMembers] at h
  replace h := hnext (by decide) (opening_infix_of_quote (by decide) h)
  replace h := hnext (by decide) (opening_infix_of_quote (by decide) h)
  replace h := hnext (by decide) (opening_infix_of_quote (by decide) h)
  replace h := hnext (by decide) (opening_infix_of_append _ hdigits h)
  replace h := hnext (by decide) (opening_infix_of_quote (by decide) h)
  replace h := hnext (by decide) (opening_infix_of_quote (by decide) h)
  replace h := hnext (by decide) (opening_infix_of_quote (by decide) h)
  replace h := hnext (by decide) (opening_infix_of_quote (by decide) h)
  replace h := hnext (by decide) (opening_infix_of_quote (by decide) h)
  exact absurd (opening_infix_of_quote (by decide) h) (by decide)

/-- No compact form ends with a colon and another one. -/
theorem compact_ne_append (r r' : GenerationRequest) (front : List Char) :
    r.toJson.compact.toList ≠ front ++ ':' :: r'.toJson.compact.toList := by
  intro h
  rw [toList_compact, toList_compact] at h
  cases front with
  | nil => exact absurd (List.cons.inj h).1 (by decide)
  | cons c front =>
      refine opening_not_infix r ⟨front ++ [':'], r'.compactMembers.drop 2, ?_⟩
      rw [(List.cons.inj h).2, List.append_assoc]
      simp [opening, compactMembers, quote, escapeChar]

/-- Nothing stands between the colon of a compact form and that of another one. -/
theorem between_eq_nil {between : List Char}
    (h : ':' :: r.toJson.compact.toList = between ++ ':' :: r'.toJson.compact.toList) :
    between = [] ∧ r = r' := by
  cases between with
  | nil => exact ⟨rfl, compact_inj (String.toList_injective (List.cons.inj h).2)⟩
  | cons c between => exact absurd (List.cons.inj h).2 (compact_ne_append r r' between)

/-- **Behind any text, a colon and a compact form are found again.** -/
theorem append_compact_inj {front front' : List Char}
    (h : front ++ ':' :: r.toJson.compact.toList = front' ++ ':' :: r'.toJson.compact.toList) :
    front = front' ∧ r = r' := by
  rcases List.append_eq_append_iff.mp h with ⟨between, hfront, hrest⟩ | ⟨between, hfront, hrest⟩
  · obtain ⟨rfl, hr⟩ := between_eq_nil hrest
    exact ⟨by rw [hfront, List.append_nil], hr⟩
  · obtain ⟨rfl, hr⟩ := between_eq_nil hrest
    exact ⟨by rw [hfront, List.append_nil], hr.symm⟩

end GenerationRequest

/-! ## Canonical texts -/

/-- **Canonical texts are unambiguous**: a text for code tells provider, model and request, if
the providers have no colon; a text for a video tells quality and code; and no text is for
both. -/
theorem canonical_texts_unambiguous :
    (∀ (provider model provider' model' : String) (r r' : GenerationRequest),
      ':' ∉ provider.toList → ':' ∉ provider'.toList →
      generationCanonical provider model r.toJson.compact =
        generationCanonical provider' model' r'.toJson.compact →
      provider = provider' ∧ model = model' ∧ r = r') ∧
    (∀ (quality quality' : Quality) (code code' : String),
      renderCanonical quality code = renderCanonical quality' code' →
      quality = quality' ∧ code = code') ∧
    ∀ (provider model request : String) (quality : Quality) (code : String),
      generationCanonical provider model request ≠ renderCanonical quality code := by
  refine ⟨fun provider model provider' model' r r' hcolon hcolon' h => ?_,
    fun _ _ _ _ => renderCanonical_inj, fun provider model request quality code h => ?_⟩
  · have hchars : provider.toList ++ ':' :: (model.toList ++ ':' :: r.toJson.compact.toList) =
        provider'.toList ++ ':' :: (model'.toList ++ ':' :: r'.toJson.compact.toList) := by
      simpa [generationCanonical] using congrArg String.toList h
    obtain ⟨hprovider, hrest⟩ := append_cons_inj_of_notMem hcolon hcolon' hchars
    obtain ⟨hmodel, hrequest⟩ := GenerationRequest.append_compact_inj hrest
    exact ⟨String.toList_injective hprovider, String.toList_injective hmodel, hrequest⟩
  · -- the first letters differ
    simpa [generationCanonical, renderCanonical] using congrArg String.toList h

/-- A request whose texts look like the end of one canonical text and the beginning of another
request. -/
def misleadingRequest : GenerationRequest :=
  ⟨"\x7d:\x7b\"topic\":\"", 30, .minimal, .school, "\x7d"⟩

/-- A model whose name ends with a request. -/
def misleadingModel : String := "m:" ++ misleadingRequest.toJson.compact

/-- Even a model whose name imitates the rest of a text is told apart. -/
theorem misleading_texts_unambiguous :
    (':' ∉ "local".toList ∧ "local" = "local" ∧ misleadingModel = misleadingModel ∧
      misleadingRequest = misleadingRequest) ∧
    generationCanonical "local" "m" misleadingRequest.toJson.compact ≠
      generationCanonical "local" misleadingModel misleadingRequest.toJson.compact ∧
    (Quality.low = Quality.low ∧ misleadingModel = misleadingModel) := by
  have hcolon : ':' ∉ "local".toList := by simp
  refine ⟨⟨hcolon, canonical_texts_unambiguous.1 _ _ _ _ _ _ hcolon hcolon rfl⟩, fun h => ?_,
    canonical_texts_unambiguous.2.1 .low .low misleadingModel misleadingModel rfl⟩
  obtain ⟨-, hmodel, -⟩ := canonical_texts_unambiguous.1 _ _ _ _ _ _ hcolon hcolon h
  simpa [misleadingModel] using congrArg String.toList hmodel

/-- A colon in the name of a provider would not be told from the one that ends it. -/
theorem generationCanonical_append_colon (provider rest model request : String) :
    generationCanonical (provider ++ ":" ++ rest) model request =
      generationCanonical provider (rest ++ ":" ++ model) request := by
  simp [generationCanonical, String.append_assoc]

end SceneRender
