import Mathlib.Data.List.DropRight
import Mathlib.Data.List.Infix
import SceneRender.Generation.Reply

/-!
# The block of code in a reply

A block stands behind the first opening of a reply and goes on to the first fence behind
that.  An opening may be spelled in four ways, and the search, which tries the spellings at
one place one after the other, finds the one that is there (`afterOpening?_eq_some_iff`).

The line feed of an opening is its last character.  Hence a fence that ends a block of any
opening also stands behind the first one (`suffix_of_opening`), and the search need not go
back: it finds a block exactly if there is one (`firstBlock?_eq_none_iff`), and then the
first one (`firstBlock?_eq_some`).  No block holds a fence, which is why nothing is found in
code that was extracted.
-/

namespace SceneRender

open SceneRender.Text

/-- The spellings of an opening: a fence, the word or nothing, a carriage return or nothing, and
a line feed. -/
def openings : List (List Char) :=
  [fence ++ ['\n'], fence ++ ['\r', '\n'],
    fence ++ "python".toList ++ ['\n'], fence ++ "python".toList ++ ['\r', '\n']]

/-- A text has a block at an opening if a fence stands somewhere behind it. -/
def HasBlock (cs : List Char) : Prop :=
  ∃ before, ∃ opening ∈ openings, ∃ block after, cs = before ++ opening ++ (block ++ fence ++ after)

/-- **The first block of a text**: no opening stands further in front, and behind the opening no
fence does. -/
structure IsFirstBlock (cs before opening block after : List Char) : Prop where
  text : cs = before ++ opening ++ (block ++ fence ++ after)
  opening_mem : opening ∈ openings
  first_opening : ∀ before' rest', ∀ opening' ∈ openings,
    cs = before' ++ opening' ++ rest' → before.length ≤ before'.length
  first_fence : ∀ block' after', block ++ fence ++ after = block' ++ fence ++ after' →
    block.length ≤ block'.length

variable {cs rest block before opening after word prose code : List Char}

/-! ## Openings -/

/-- What comes after a word is the rest of the text that begins with it. -/
theorem afterWord?_eq_some_iff : afterWord? word cs = some rest ↔ cs = word ++ rest := by
  induction word generalizing cs with
  | nil => simp [afterWord?]
  | cons w word ih =>
      cases cs with
      | nil => simp [afterWord?]
      | cons c cs =>
          by_cases hc : w = c
          · simp [afterWord?, hc, ih]
          · simp [afterWord?, hc, Ne.symm hc]

/-- A line break is a line feed, perhaps after a carriage return. -/
theorem afterBreak?_eq_some_iff :
    afterBreak? cs = some rest ↔ cs = '\n' :: rest ∨ cs = '\r' :: '\n' :: rest := by
  unfold afterBreak?
  split
  · simp
  · simp
  · next hfeed hreturn =>
    constructor
    · exact nofun
    · rintro (rfl | rfl)
      · exact absurd rfl (hfeed rest)
      · exact absurd rfl (hreturn rest)

/-- An opening is a fence, and a line with nothing or the word on it. -/
theorem exists_opening_iff : (∃ opening ∈ openings, cs = opening ++ rest) ↔
    ∃ line, cs = fence ++ line ∧
      (afterBreak? line = some rest ∨
        ∃ tail, line = "python".toList ++ tail ∧ afterBreak? tail = some rest) := by
  simp only [afterBreak?_eq_some_iff, openings, List.mem_cons, List.not_mem_nil, or_false]
  constructor
  · rintro ⟨opening, rfl | rfl | rfl | rfl, rfl⟩
    · exact ⟨_, List.append_assoc .., Or.inl (Or.inl rfl)⟩
    · exact ⟨_, List.append_assoc .., Or.inl (Or.inr rfl)⟩
    · exact ⟨_, by simp [List.append_assoc], Or.inr ⟨'\n' :: rest, rfl, Or.inl rfl⟩⟩
    · exact ⟨_, by simp [List.append_assoc], Or.inr ⟨'\r' :: '\n' :: rest, rfl, Or.inr rfl⟩⟩
  · rintro ⟨line, rfl, (rfl | rfl) | ⟨tail, rfl, rfl | rfl⟩⟩
    · exact ⟨_, Or.inl rfl, by simp⟩
    · exact ⟨_, Or.inr (Or.inl rfl), by simp⟩
    · exact ⟨_, Or.inr (Or.inr (Or.inl rfl)), by simp⟩
    · exact ⟨_, Or.inr (Or.inr (Or.inr rfl)), by simp⟩

/-- The line behind a fence is tried with the word first; where the word stands it is no line
break, so the two tries do not both succeed. -/
theorem afterLine_eq_some_iff {line : List Char} :
    (match (afterWord? "python".toList line).bind afterBreak? with
      | some body => some body
      | none => afterBreak? line) = some rest ↔
    afterBreak? line = some rest ∨
      ∃ tail, line = "python".toList ++ tail ∧ afterBreak? tail = some rest := by
  cases hword : afterWord? "python".toList line with
  | none =>
      have hno : ∀ tail, line ≠ "python".toList ++ tail := by
        intro tail htail
        rw [afterWord?_eq_some_iff.mpr htail] at hword
        cases hword
      rw [Option.bind_none]
      constructor
      · exact Or.inl
      · rintro (hbreak | ⟨tail, htail, -⟩)
        · exact hbreak
        · exact absurd htail (hno tail)
  | some tail =>
      obtain rfl := afterWord?_eq_some_iff.mp hword
      have hno : afterBreak? ("python".toList ++ tail) = none := rfl
      have hsame : (∃ tail', "python".toList ++ tail = "python".toList ++ tail' ∧
          afterBreak? tail' = some rest) ↔ afterBreak? tail = some rest := by
        constructor
        · rintro ⟨tail', htail', hbreak⟩
          rwa [List.append_cancel_left htail']
        · intro hbreak
          exact ⟨tail, rfl, hbreak⟩
      rw [Option.bind_some, hno, hsame]
      cases afterBreak? tail <;> simp

/-- **The search at one place finds the opening that is there.** -/
theorem afterOpening?_eq_some_iff :
    afterOpening? cs = some rest ↔ ∃ opening ∈ openings, cs = opening ++ rest := by
  have hunfold : afterOpening? cs = (afterWord? fence cs).bind fun line =>
      match (afterWord? "python".toList line).bind afterBreak? with
      | some body => some body
      | none => afterBreak? line := rfl
  simp only [hunfold, exists_opening_iff, Option.bind_eq_some_iff, afterWord?_eq_some_iff,
    afterLine_eq_some_iff]

/-- The line feed of an opening is its last character. -/
theorem exists_line_of_mem_openings (h : opening ∈ openings) :
    ∃ line, opening = line ++ ['\n'] ∧ '\n' ∉ line := by
  simp only [openings, List.mem_cons, List.not_mem_nil, or_false] at h
  rcases h with rfl | rfl | rfl | rfl
  · exact ⟨fence, rfl, by decide⟩
  · exact ⟨fence ++ ['\r'], rfl, by decide⟩
  · exact ⟨fence ++ "python".toList, rfl, by decide⟩
  · exact ⟨fence ++ "python".toList ++ ['\r'], rfl, by decide⟩

/-- **What stands behind any opening stands behind the first one.** -/
theorem suffix_of_opening {before' opening' rest' : List Char} (hopening : opening ∈ openings)
    (hopening' : opening' ∈ openings) (h : opening ++ rest = before' ++ opening' ++ rest') :
    rest' <:+ rest := by
  obtain ⟨line, rfl, hline⟩ := exists_line_of_mem_openings hopening
  obtain ⟨line', rfl, -⟩ := exists_line_of_mem_openings hopening'
  have htexts : line ++ '\n' :: rest = before' ++ line' ++ '\n' :: rest' := by simpa using h
  rcases List.append_eq_append_iff.mp htexts with ⟨more, hfront, hback⟩ | ⟨more, hfront, hback⟩
  · cases more with
    | nil => exact (List.cons.inj hback).2 ▸ List.suffix_refl _
    | cons c more =>
        exact ⟨more ++ ['\n'], by rw [(List.cons.inj hback).2]; simp⟩
  · cases more with
    | nil => exact (List.cons.inj hback).2 ▸ List.suffix_refl _
    | cons c more =>
        -- the line feed of the other opening would lie within the line of the first one
        have hc : c = '\n' := (List.cons.inj hback).1.symm
        exact absurd (by rw [hfront, hc]; simp) hline

/-! ## Fences -/

/-- A fence at the front of a text that goes on with something else lies in front of that. -/
theorem fence_prefix_of_append {c : Char} (hc : c ≠ '\x60') (h : fence <+: cs ++ c :: rest) :
    fence <+: cs := by
  obtain ⟨tail, htail⟩ := h
  match cs with
  | [] => exact absurd (List.cons.inj htail).1.symm hc
  | [a] => exact absurd (List.cons.inj (List.cons.inj htail).2).1.symm hc
  | [a, b] => exact absurd (List.cons.inj (List.cons.inj (List.cons.inj htail).2).2).1.symm hc
  | a :: b :: d :: more =>
      simp only [fence, List.cons_append, List.nil_append, List.cons.injEq] at htail
      obtain ⟨rfl, rfl, rfl, -⟩ := htail
      exact ⟨more, rfl⟩

/-- A fence is found where the text begins with it. -/
theorem afterWord?_fence_isSome : (afterWord? fence cs).isSome = true ↔ fence <+: cs := by
  rw [Option.isSome_iff_exists]
  simp only [afterWord?_eq_some_iff]
  exact ⟨fun ⟨tail, htail⟩ => ⟨tail, htail.symm⟩, fun ⟨tail, htail⟩ => ⟨tail, htail.symm⟩⟩

/-- The search for a fence goes on by one character. -/
theorem untilFence?_cons (c : Char) (cs : List Char) :
    untilFence? (c :: cs) =
      if fence <+: c :: cs then some [] else (untilFence? cs).map (c :: ·) := by
  rw [untilFence?]
  simp only [afterWord?_fence_isSome]

/-- A text is taken up to its first fence. -/
theorem untilFence?_eq_some (h : untilFence? cs = some block) :
    (∃ after, cs = block ++ fence ++ after ∧ ∀ block' after',
      cs = block' ++ fence ++ after' → block.length ≤ block'.length) ∧ ¬ fence <:+: block := by
  induction cs generalizing block with
  | nil => cases h
  | cons c cs ih =>
      rw [untilFence?_cons] at h
      split_ifs at h with hfence
      · cases h
        obtain ⟨after, hafter⟩ := hfence
        exact ⟨⟨after, hafter.symm, fun _ _ _ => Nat.zero_le _⟩, by decide⟩
      · obtain ⟨block, hblock, rfl⟩ := Option.map_eq_some_iff.mp h
        obtain ⟨⟨after, hafter, hfirst⟩, hnone⟩ := ih hblock
        refine ⟨⟨after, by rw [hafter]; rfl, ?_⟩, ?_⟩
        · intro block' after' h'
          cases block' with
          | nil => exact absurd ⟨after', h'.symm⟩ hfence
          | cons c' block' =>
              exact Nat.succ_le_succ (hfirst block' after' (List.cons.inj h').2)
        · rw [List.infix_cons_iff]
          rintro (hfront | hinside)
          · refine hfence (hfront.trans ⟨fence ++ after, ?_⟩)
            rw [hafter]
            simp
          · exact hnone hinside

/-- No fence is found exactly where there is none. -/
theorem untilFence?_eq_none_iff : untilFence? cs = none ↔ ¬ fence <:+: cs := by
  induction cs with
  | nil => exact ⟨fun _ => by decide, fun _ => rfl⟩
  | cons c cs ih =>
      rw [untilFence?_cons, List.infix_cons_iff, not_or, ← ih]
      split_ifs with hfence
      · simp [hfence]
      · simp [hfence]

/-- Code without a fence is taken up to the fence on the line behind it. -/
theorem untilFence?_append (hcode : ¬ fence <:+: code) (after : List Char) :
    untilFence? (code ++ '\n' :: (fence ++ after)) = some (code ++ ['\n']) := by
  induction code with
  | nil =>
      have hfeed : ¬ fence <+: '\n' :: (fence ++ after) := by
        rintro ⟨tail, htail⟩
        exact absurd (List.cons.inj htail).1 (by decide)
      have hfence : untilFence? (fence ++ after) = some [] := by
        rw [fence, List.cons_append, untilFence?_cons, if_pos ⟨after, rfl⟩]
      rw [List.nil_append, untilFence?_cons, if_neg hfeed, hfence]
      rfl
  | cons c code ih =>
      rw [List.infix_cons_iff, not_or] at hcode
      have hfence : ¬ fence <+: c :: (code ++ '\n' :: (fence ++ after)) := fun h =>
        hcode.1 (fence_prefix_of_append (by decide) h)
      rw [List.cons_append, untilFence?_cons, if_neg hfence, ih hcode.2]
      rfl

/-! ## The first block -/

/-- A block stays one with more text before it. -/
theorem HasBlock.cons (c : Char) (h : HasBlock cs) : HasBlock (c :: cs) := by
  obtain ⟨before, opening, hopening, block, after, rfl⟩ := h
  exact ⟨c :: before, opening, hopening, block, after, rfl⟩

/-- A text of which a part has a block has a block. -/
theorem HasBlock.of_part (h : HasBlock cs) {text : List Char} (hpart : cs <:+: text) :
    HasBlock text := by
  obtain ⟨before, opening, hopening, block, after, rfl⟩ := h
  obtain ⟨front, back, rfl⟩ := hpart
  exact ⟨front ++ before, opening, hopening, block, after ++ back, by simp [List.append_assoc]⟩

/-- Where there is a block there is a fence. -/
theorem HasBlock.has_fence (h : HasBlock cs) : fence <:+: cs := by
  obtain ⟨before, opening, hopening, block, after, rfl⟩ := h
  exact ⟨before ++ opening ++ block, after, by simp [List.append_assoc]⟩

/-- An opening with a fence behind it has the block up to there; without one, no opening has. -/
theorem hasBlock_opening_iff (hopening : opening ∈ openings) :
    HasBlock (opening ++ rest) ↔ fence <:+: rest := by
  constructor
  · rintro ⟨before', opening', hopening', block', after', htext⟩
    have hsuffix := suffix_of_opening hopening hopening' htext
    exact List.IsInfix.trans ⟨block', after', rfl⟩ hsuffix.isInfix
  · rintro ⟨block, after, rfl⟩
    exact ⟨[], opening, hopening, block, after, rfl⟩

/-- Where no block opens, one can only come later. -/
theorem hasBlock_cons_iff {c : Char} (h : afterOpening? (c :: cs) = none) :
    HasBlock (c :: cs) ↔ HasBlock cs := by
  refine ⟨?_, HasBlock.cons c⟩
  rintro ⟨before, opening, hopening, block, after, htext⟩
  cases before with
  | nil =>
      rw [afterOpening?_eq_some_iff.mpr ⟨opening, hopening, htext⟩] at h
      cases h
  | cons c' before => exact ⟨before, opening, hopening, block, after, (List.cons.inj htext).2⟩

/-- **A text has a block exactly if the search finds one.** -/
theorem firstBlock?_eq_none_iff : firstBlock? cs = none ↔ ¬ HasBlock cs := by
  induction cs with
  | nil =>
      refine ⟨fun _ h => ?_, fun _ => rfl⟩
      exact absurd h.has_fence (by decide)
  | cons c cs ih =>
      rw [firstBlock?]
      cases hopening : afterOpening? (c :: cs) with
      | none => rw [Option.bind_none, hasBlock_cons_iff hopening, ← ih]
      | some rest =>
          obtain ⟨opening, hmem, htext⟩ := afterOpening?_eq_some_iff.mp hopening
          rw [Option.bind_some, htext, hasBlock_opening_iff hmem]
          cases hblock : untilFence? rest with
          | none =>
              have hnone := untilFence?_eq_none_iff.mp hblock
              have hno : ¬ HasBlock cs := fun h =>
                hnone ((hasBlock_opening_iff hmem).mp (htext ▸ h.cons c))
              simp [hnone, ih.mpr hno]
          | some block =>
              have hfence : fence <:+: rest := by
                by_contra hnone
                rw [untilFence?_eq_none_iff.mpr hnone] at hblock
                cases hblock
              simp [hfence]

/-- **The block that the search finds is the first one**, and no fence is in it. -/
theorem firstBlock?_eq_some (h : firstBlock? cs = some block) :
    (∃ before opening after, IsFirstBlock cs before opening block after) ∧
      ¬ fence <:+: block := by
  induction cs with
  | nil => cases h
  | cons c cs ih =>
      rw [firstBlock?] at h
      cases hopening : afterOpening? (c :: cs) with
      | none =>
          rw [hopening, Option.bind_none] at h
          obtain ⟨⟨before, opening, after, htext, hmem, hfirst, hfence⟩, hnone⟩ := ih h
          refine ⟨⟨c :: before, opening, after, by rw [htext]; rfl, hmem, ?_, hfence⟩, hnone⟩
          intro before' rest' opening' hmem' htext'
          cases before' with
          | nil =>
              rw [afterOpening?_eq_some_iff.mpr ⟨opening', hmem', htext'⟩] at hopening
              cases hopening
          | cons c' before' =>
              exact Nat.succ_le_succ (hfirst before' rest' opening' hmem' (List.cons.inj htext').2)
      | some rest =>
          obtain ⟨opening, hmem, htext⟩ := afterOpening?_eq_some_iff.mp hopening
          rw [hopening, Option.bind_some] at h
          cases hblock : untilFence? rest with
          | none =>
              -- no fence stands behind the first opening, so none ends a later block
              rw [hblock] at h
              have hno : ¬ HasBlock cs := fun hlater =>
                untilFence?_eq_none_iff.mp hblock
                  ((hasBlock_opening_iff hmem).mp (htext ▸ hlater.cons c))
              rw [firstBlock?_eq_none_iff.mpr hno] at h
              cases h
          | some block' =>
              rw [hblock] at h
              cases h
              obtain ⟨⟨after, rfl, hfirst⟩, hnone⟩ := untilFence?_eq_some hblock
              exact ⟨⟨[], opening, after, htext, hmem, fun _ _ _ _ _ => Nat.zero_le _, hfirst⟩,
                hnone⟩

/-- Behind the fence of an opening stands its line, and no further backquote. -/
theorem exists_char_of_mem_openings (h : opening ∈ openings) :
    ∃ c more, opening = fence ++ c :: more ∧ c ≠ '\x60' := by
  simp only [openings, List.mem_cons, List.not_mem_nil, or_false] at h
  rcases h with rfl | rfl | rfl | rfl
  · exact ⟨_, _, rfl, by decide⟩
  · exact ⟨_, _, rfl, by decide⟩
  · exact ⟨_, _, rfl, by decide⟩
  · exact ⟨_, _, rfl, by decide⟩

/-- No opening begins within prose without a fence: its fence would have a further backquote
behind it. -/
theorem afterOpening?_prose {c : Char} (hprose : ¬ fence <:+: c :: prose)
    (hopening : opening ∈ openings) : afterOpening? (c :: prose ++ (opening ++ rest)) = none := by
  rw [Option.eq_none_iff_forall_ne_some]
  intro rest' h
  obtain ⟨opening', hopening', htext⟩ := afterOpening?_eq_some_iff.mp h
  obtain ⟨d, more, rfl, hd⟩ := exists_char_of_mem_openings hopening
  obtain ⟨d', more', rfl, hd'⟩ := exists_char_of_mem_openings hopening'
  simp only [fence, List.cons_append, List.nil_append] at htext
  match prose with
  | [] =>
      simp only [List.nil_append, List.cons.injEq] at htext
      exact hd' htext.2.2.2.1.symm
  | [a] =>
      simp only [List.cons_append, List.nil_append, List.cons.injEq] at htext
      exact hd' htext.2.2.2.1.symm
  | a :: b :: tail =>
      simp only [List.cons_append, List.cons.injEq] at htext
      obtain ⟨rfl, rfl, rfl, -⟩ := htext
      exact hprose ⟨[], tail, rfl⟩

/-- **Code behind prose and an opening is the first block**, up to the fence on the line behind
it. -/
theorem firstBlock?_prose (hprose : ¬ fence <:+: prose) (hcode : ¬ fence <:+: code)
    (hopening : opening ∈ openings) (after : List Char) :
    firstBlock? (prose ++ (opening ++ (code ++ '\n' :: (fence ++ after)))) =
      some (code ++ ['\n']) := by
  induction prose with
  | nil =>
      have hblock : afterOpening? (opening ++ (code ++ '\n' :: (fence ++ after))) =
          some (code ++ '\n' :: (fence ++ after)) :=
        afterOpening?_eq_some_iff.mpr ⟨opening, hopening, rfl⟩
      obtain ⟨c, more, rfl, -⟩ := exists_char_of_mem_openings hopening
      simp only [fence, List.cons_append, List.nil_append] at hblock ⊢
      rw [firstBlock?, hblock, Option.bind_some]
      have huntil := untilFence?_append hcode after
      simp only [fence, List.cons_append, List.nil_append] at huntil
      rw [huntil]
  | cons c prose ih =>
      have hrest : ¬ fence <:+: prose := fun h => hprose (h.trans (List.infix_cons List.infix_rfl))
      rw [List.cons_append, firstBlock?, ← List.cons_append, afterOpening?_prose hprose hopening]
      exact ih hrest

/-! ## Blanks at the ends -/

/-- Trimming drops blanks from the two ends. -/
theorem trimChars_eq (cs : List Char) :
    trimChars cs = (cs.dropWhile isBlank).rdropWhile isBlank := rfl

/-- What is left of a trimmed text was a part of it. -/
theorem trimChars_part (cs : List Char) : trimChars cs <:+: cs :=
  (List.rdropWhile_prefix _ _).isInfix.trans (List.dropWhile_suffix _).isInfix

/-- A trimmed text has no blanks left at its ends. -/
theorem trimChars_trimChars (cs : List Char) : trimChars (trimChars cs) = trimChars cs := by
  have hfront : (trimChars cs).dropWhile isBlank = trimChars cs := by
    have hprefix : trimChars cs <+: cs.dropWhile isBlank := List.rdropWhile_prefix _ _
    cases htrimmed : trimChars cs with
    | nil => rfl
    | cons c trimmed =>
        rw [htrimmed] at hprefix
        obtain ⟨more, hmore⟩ := hprefix
        have hhead := List.head?_dropWhile_not isBlank cs
        rw [← hmore] at hhead
        exact List.dropWhile_cons_of_neg (by simpa using hhead)
  rw [trimChars_eq (trimChars cs), hfront, trimChars_eq, List.rdropWhile_idempotent]

/-- A blank at the end is trimmed off. -/
theorem trimChars_concat {c : Char} (hc : isBlank c = true) (cs : List Char) :
    trimChars (cs ++ [c]) = trimChars cs := by
  rw [trimChars, trimChars, List.dropWhile_append]
  cases hcs : cs.dropWhile isBlank with
  | nil => simp [hc]
  | cons d rest => simp [hc]

/-! ## The code of a reply -/

/-- Code that was extracted has no block. -/
theorem not_hasBlock_extractCode (reply : String) : ¬ HasBlock (extractCode reply).toList := by
  rw [extractCode, String.toList_ofList]
  intro h
  cases hblock : firstBlock? reply.toList with
  | none =>
      rw [hblock, Option.getD_none] at h
      exact firstBlock?_eq_none_iff.mp hblock (h.of_part (trimChars_part _))
  | some block =>
      rw [hblock, Option.getD_some] at h
      exact (firstBlock?_eq_some hblock).2 (h.of_part (trimChars_part _)).has_fence

/-- **The code of a reply is its first block**, trimmed; without a block it is the whole reply.
So nothing changes when code is extracted again, and code without a fence comes back from
between an opening and a fence on the next line, whatever prose without a fence stands in front
and whatever stands behind. -/
theorem extracts_first_block (reply : String) :
    (HasBlock reply.toList → ∃ before opening block after,
      IsFirstBlock reply.toList before opening block after ∧
        extractCode reply = trim (String.ofList block)) ∧
    (¬ HasBlock reply.toList → extractCode reply = trim reply) ∧
    extractCode (extractCode reply) = extractCode reply ∧
    ∀ (prose code tail : String), ∀ opening ∈ openings,
      ¬ fence <:+: prose.toList → ¬ fence <:+: code.toList →
        extractCode
          (prose ++ String.ofList opening ++ code ++ "\n" ++ String.ofList fence ++ tail) =
          trim code := by
  refine ⟨fun hhas => ?_, fun hno => ?_, ?_, ?_⟩
  · obtain ⟨block, hblock⟩ : ∃ block, firstBlock? reply.toList = some block := by
      rw [← Option.ne_none_iff_exists', Ne, firstBlock?_eq_none_iff]
      exact not_not_intro hhas
    obtain ⟨⟨before, opening, after, hfirst⟩, -⟩ := firstBlock?_eq_some hblock
    refine ⟨before, opening, block, after, hfirst, ?_⟩
    rw [extractCode, hblock, trim, String.toList_ofList, Option.getD_some]
  · rw [extractCode, firstBlock?_eq_none_iff.mpr hno, trim, Option.getD_none]
  · have hno := firstBlock?_eq_none_iff.mpr (not_hasBlock_extractCode reply)
    rw [extractCode, hno, Option.getD_none]
    simp only [extractCode, String.toList_ofList, trimChars_trimChars]
  · intro prose code tail opening hopening hprose hcode
    have htext :
        (prose ++ String.ofList opening ++ code ++ "\n" ++ String.ofList fence ++ tail).toList =
        prose.toList ++ (opening ++ (code.toList ++ '\n' :: (fence ++ tail.toList))) := by
      simp
    rw [extractCode, htext, firstBlock?_prose hprose hcode hopening, Option.getD_some,
      trimChars_concat (by decide), trim]

/-- A reply with backquotes before its fence and within its code, and with a second block. -/
def quotingReply : String :=
  "Use \x60\x60" ++ "\x60\x60\x60python\r\n" ++ "\n x = '\x60\x60' \n\x60\x60" ++ "\n" ++
    "\x60\x60\x60" ++ "\x60\n\x60\x60\x60\ny\n\x60\x60\x60"

/-- A reply that quotes a fence within its code is cut at the first fence that closes. -/
theorem quoting_reply_extracted :
    HasBlock quotingReply.toList ∧
    ¬ HasBlock " \x60\x60\x60python x = 1".toList ∧
    "\x60\x60\x60python\r\n".toList ∈ openings ∧
    ¬ fence <:+: "Use \x60\x60".toList ∧
    ¬ fence <:+: "\n x = '\x60\x60' \n\x60\x60".toList ∧
    extractCode quotingReply = "x = '\x60\x60' \n\x60\x60" ∧
    (∃ before opening block after, IsFirstBlock quotingReply.toList before opening block after ∧
      extractCode quotingReply = trim (String.ofList block)) ∧
    extractCode " \x60\x60\x60python x = 1" = "\x60\x60\x60python x = 1" := by
  have hhas : HasBlock quotingReply.toList :=
    ⟨"Use \x60\x60".toList, "\x60\x60\x60python\r\n".toList, by decide,
      "\n x = '\x60\x60' \n\x60\x60\n".toList, "\x60\n\x60\x60\x60\ny\n\x60\x60\x60".toList, rfl⟩
  have hbare : ¬ HasBlock " \x60\x60\x60python x = 1".toList :=
    firstBlock?_eq_none_iff.mp (by decide)
  have hopening : "\x60\x60\x60python\r\n".toList ∈ openings := by decide
  have hprose : ¬ fence <:+: "Use \x60\x60".toList := by decide
  have hcode : ¬ fence <:+: "\n x = '\x60\x60' \n\x60\x60".toList := by decide
  have hbetween := (extracts_first_block quotingReply).2.2.2 "Use \x60\x60"
    "\n x = '\x60\x60' \n\x60\x60" "\x60\n\x60\x60\x60\ny\n\x60\x60\x60" _ hopening hprose hcode
  exact ⟨hhas, hbare, hopening, hprose, hcode, hbetween, (extracts_first_block quotingReply).1 hhas,
    (extracts_first_block " \x60\x60\x60python x = 1").2.1 hbare⟩

end SceneRender
