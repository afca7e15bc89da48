import SceneRender.Proofs.Script.EntryRules
import SceneRender.Proofs.Script.Lines
import SceneRender.Proofs.Separated

/-!
# Methods called on the scene

Every method that the entry class calls on `self` has to be one that it has, by itself, from
a class of the module or from the library.  `self_calls_reported` says what comes of the
others: each is reported with the line on which the call starts, once for a line and in the
order of the walk, and nothing else is reported in this wording.

The walk passes over patterns, since no call should stand in one; but a text with replacement
fields is read as a pattern, and calls stand in these (`pattern_call_unnoticed`).  So the
report is that of all calls in the class exactly if each call within a pattern has one with
the same name and on the same line that is walked.
-/

namespace SceneRender.Script

/-! ## Lists without repeats -/

section dropRepeats

variable {α β : Type} [BEq α] [LawfulBEq α] [BEq β] [LawfulBEq β] {seen seen' l l' : List α}
  {a : α}

/-- What was seen is dropped. -/
theorem dropRepeats_of_mem (h : a ∈ seen) : dropRepeats seen (a :: l) = dropRepeats seen l := by
  rw [dropRepeats, if_pos (List.contains_iff_mem.mpr h)]

/-- What was not seen is kept, and seen from then on. -/
theorem dropRepeats_of_notMem (h : a ∉ seen) :
    dropRepeats seen (a :: l) = a :: dropRepeats (a :: seen) l := by
  rw [dropRepeats, if_neg (h ∘ List.contains_iff_mem.mp)]

/-- Of what was seen only the members matter that are in the list. -/
theorem dropRepeats_congr (h : ∀ a ∈ l, a ∈ seen ↔ a ∈ seen') :
    dropRepeats seen l = dropRepeats seen' l := by
  induction l generalizing seen seen' with
  | nil => rfl
  | cons b l ih =>
      obtain ⟨hb, hl⟩ := List.forall_mem_cons.mp h
      by_cases hseen : b ∈ seen
      · rw [dropRepeats_of_mem hseen, dropRepeats_of_mem (hb.mp hseen), ih hl]
      · rw [dropRepeats_of_notMem hseen, dropRepeats_of_notMem (hseen ∘ hb.mpr)]
        refine congrArg _ (ih fun a ha => ?_)
        rw [List.mem_cons, List.mem_cons, hl a ha]

/-- Nothing is repeated afterwards. -/
theorem nodup_dropRepeats : (dropRepeats seen l).Nodup := by
  induction l generalizing seen with
  | nil => exact List.nodup_nil
  | cons b l ih =>
      by_cases hseen : b ∈ seen
      · rw [dropRepeats_of_mem hseen]
        exact ih
      · rw [dropRepeats_of_notMem hseen]
        exact List.nodup_cons.mpr ⟨fun h => (mem_dropRepeats.mp h).2 List.mem_cons_self, ih⟩

/-- Lists that have no member in common are gone through apart. -/
theorem dropRepeats_append (h : ∀ a ∈ l', a ∉ l) :
    dropRepeats seen (l ++ l') = dropRepeats seen l ++ dropRepeats seen l' := by
  induction l generalizing seen with
  | nil => rfl
  | cons b l ih =>
      have hrest : ∀ a ∈ l', a ∉ l := fun a ha hl => h a ha (List.mem_cons_of_mem b hl)
      rw [List.cons_append]
      by_cases hseen : b ∈ seen
      · rw [dropRepeats_of_mem hseen, dropRepeats_of_mem hseen, ih hrest]
      · rw [dropRepeats_of_notMem hseen, dropRepeats_of_notMem hseen, ih hrest, List.cons_append]
        refine congrArg (fun rest => b :: (dropRepeats (b :: seen) l ++ rest))
          (dropRepeats_congr fun a ha => ?_)
        have hab : a ≠ b := fun hab => h a ha (hab ▸ List.mem_cons_self)
        rw [List.mem_cons, or_iff_right hab]

/-- Members that are told apart by what is made of them repeat as this does. -/
theorem dropRepeats_map (seen l : List α) {f : α → β} (hf : Function.Injective f) :
    dropRepeats (seen.map f) (l.map f) = (dropRepeats seen l).map f := by
  induction l generalizing seen with
  | nil => rfl
  | cons b l ih =>
      have hmem : f b ∈ seen.map f ↔ b ∈ seen := List.mem_map_of_injective hf
      rw [List.map_cons]
      by_cases hseen : b ∈ seen
      · rw [dropRepeats_of_mem hseen, dropRepeats_of_mem (hmem.mpr hseen), ih]
      · rw [dropRepeats_of_notMem hseen, dropRepeats_of_notMem (hseen ∘ hmem.mp), List.map_cons,
          ← ih, List.map_cons]

/-- The first occurrences among some members are those among all. -/
theorem dropRepeats_filter (p : α → Bool) :
    dropRepeats seen (l.filter p) = (dropRepeats seen l).filter p := by
  induction l generalizing seen with
  | nil => rfl
  | cons b l ih =>
      by_cases hb : p b = true
      · rw [List.filter_cons_of_pos hb]
        by_cases hseen : b ∈ seen
        · rw [dropRepeats_of_mem hseen, dropRepeats_of_mem hseen, ih]
        · rw [dropRepeats_of_notMem hseen, dropRepeats_of_notMem hseen,
            List.filter_cons_of_pos hb, ih]
      · rw [List.filter_cons_of_neg hb]
        by_cases hseen : b ∈ seen
        · rw [dropRepeats_of_mem hseen, ih]
        · rw [dropRepeats_of_notMem hseen, List.filter_cons_of_neg hb, ← ih]
          -- what is not kept is not in the list, seen or not
          refine dropRepeats_congr fun a ha => ?_
          have hab : a ≠ b := fun hab => hb (hab ▸ List.of_mem_filter ha)
          rw [List.mem_cons, or_iff_right hab]

/-- **What is left stands in the order of the first occurrences.** -/
theorem pairwise_idxOf_dropRepeats :
    (dropRepeats seen l).Pairwise fun a b => l.idxOf a < l.idxOf b := by
  induction l generalizing seen with
  | nil => exact List.Pairwise.nil
  | cons c l ih =>
      have hlater {seen : List α} (hc : c ∈ seen) :
          (dropRepeats seen l).Pairwise fun a b => (c :: l).idxOf a < (c :: l).idxOf b := by
        refine ih.imp_of_mem fun {a b} ha hb hab => ?_
        have hne {a : α} (ha : a ∈ dropRepeats seen l) : c ≠ a := fun h =>
          (mem_dropRepeats.mp ha).2 (h ▸ hc)
        rw [List.idxOf_cons_ne _ (hne ha), List.idxOf_cons_ne _ (hne hb)]
        exact Nat.succ_lt_succ hab
      by_cases hseen : c ∈ seen
      · rw [dropRepeats_of_mem hseen]
        exact hlater hseen
      · rw [dropRepeats_of_notMem hseen]
        refine List.pairwise_cons.mpr ⟨fun a ha => ?_, hlater List.mem_cons_self⟩
        have hne : c ≠ a := fun h => (mem_dropRepeats.mp ha).2 (h ▸ List.mem_cons_self)
        rw [List.idxOf_cons_self, List.idxOf_cons_ne _ hne]
        exact Nat.succ_pos _

end dropRepeats

/-! ## Calls and their wordings -/

/-- The call on `self` that a node is, if it is one. -/
def TreeNode.selfCall? : TreeNode → Option SelfCall
  | .stmt _ => none
  | .expr e => Script.selfCall? e

/-- The calls are those of the walked nodes, in their order. -/
theorem selfCalls_eq (body : List Stmt) :
    selfCalls body = (walkedNodes body).filterMap TreeNode.selfCall? :=
  walkBody_collecting TreeNode.selfCall? body

/-- The line of a call and the name of its method, which is all that is reported. -/
def SelfCall.place (lineOf : Nat → Nat) (call : SelfCall) : Nat × String :=
  (lineOf call.start, call.name)

/-- What is wrong with a call of a method that the scene has not. -/
def strayCall (place : Nat × String) : EntryFlaw :=
  if place.2.toList.head? = some '_' then .undefinedHelper place.1 place.2
  else .unknownMethod place.1 place.2

/-- The flaw of a call is that of its place. -/
theorem SelfCall.flaw_eq (lineOf : Nat → Nat) (call : SelfCall) :
    call.flaw lineOf = strayCall (call.place lineOf) := by
  rw [SelfCall.flaw, strayCall]
  exact if_congr beq_iff_eq rfl rfl

/-- A number behind a fixed text ends at a colon. -/
theorem numbered_text_inj {start colon rest rest' : String} {tail : List Char}
    (hcolon : colon.toList = ':' :: tail) {n n' : Nat}
    (h : start ++ toString n ++ colon ++ rest = start ++ toString n' ++ colon ++ rest') :
    n = n' ∧ rest = rest' := by
  have hchars := congrArg String.toList h
  simp only [String.toList_append, List.append_assoc, hcolon, Nat.toString_eq_ofList_toDigits,
    String.toList_ofList] at hchars
  obtain ⟨hn, hrest⟩ :=
    toDigits_append_cons_inj (by decide) (List.append_cancel_left hchars)
  exact ⟨hn, String.toList_injective (List.append_cancel_left hrest)⟩

/-- A text on both sides of a fixed one is found again. -/
theorem repeated_text_inj {between text text' : String}
    (h : text ++ between ++ text = text' ++ between ++ text') : text = text' := by
  have hchars := congrArg String.toList h
  simp only [String.toList_append, List.append_assoc] at hchars
  have hlength := congrArg List.length hchars
  simp only [List.length_append] at hlength
  exact String.toList_injective (List.append_inj hchars (by omega)).1

/-- The words before the name of a method begin with a colon. -/
theorem toList_colon : ": self.".toList = ':' :: " self.".toList := by
  simp only [String.reduceToList]

/-- Which of the two flaws a call has is decided by how the name begins. -/
theorem strayCall_cases (place : Nat × String) :
    (place.2.toList.head? = some '_' ∧ strayCall place = .undefinedHelper place.1 place.2) ∨
    (place.2.toList.head? ≠ some '_' ∧ strayCall place = .unknownMethod place.1 place.2) := by
  by_cases h : place.2.toList.head? = some '_'
  · exact Or.inl ⟨h, if_pos h⟩
  · exact Or.inr ⟨h, if_neg h⟩

/-- A name with an underscore in front is an undefined helper. -/
theorem undefinedHelper_eq_strayCall {line : Nat} {method : String} {place : Nat × String} :
    .undefinedHelper line method = strayCall place ↔
      method.toList.head? = some '_' ∧ place = (line, method) := by
  constructor
  · intro h
    rcases strayCall_cases place with ⟨hhead, hcall⟩ | ⟨-, hcall⟩ <;> rw [hcall] at h <;> cases h
    exact ⟨hhead, rfl⟩
  · rintro ⟨hhead, rfl⟩
    exact (if_pos hhead).symm

/-- A name without one is an unknown method. -/
theorem unknownMethod_eq_strayCall {line : Nat} {method : String} {place : Nat × String} :
    .unknownMethod line method = strayCall place ↔
      method.toList.head? ≠ some '_' ∧ place = (line, method) := by
  constructor
  · intro h
    rcases strayCall_cases place with ⟨-, hcall⟩ | ⟨hhead, hcall⟩ <;> rw [hcall] at h <;> cases h
    exact ⟨hhead, rfl⟩
  · rintro ⟨hhead, rfl⟩
    exact (if_neg hhead).symm

/-- A flaw is told by its wording if it is that of a call. -/
theorem EntryFlaw.eq_of_call_message {f : EntryFlaw} (hf : ¬ f.BreaksRule) {v : Violation}
    (h : v.message = f.message) : v = .flaw f := by
  have hlead : v.lead = f.lead := Violation.lead_eq_of_message_eq (w := .flaw f) h
  cases v with
  | breach b => cases b <;> cases f <;> simp [Violation.lead, Breach.lead, lead] at hlead
  | flaw g =>
      cases f with
      | undefinedHelper line name =>
          cases g with
          | undefinedHelper line' name' =>
              have htext := (String.append_left_inj _).mp
                ((String.append_left_inj _).mp ((String.append_left_inj _).mp h))
              obtain ⟨rfl, rfl⟩ := numbered_text_inj toList_colon htext
              rfl
          | _ => simp [Violation.lead, lead] at hlead
      | unknownMethod line name =>
          cases g with
          | unknownMethod line' name' =>
              have htext := (String.append_left_inj _).mp ((String.append_left_inj _).mp h)
              have hassoc (a b c d : String) : a ++ b ++ c ++ d = a ++ (b ++ c ++ d) := by
                simp only [String.append_assoc]
              obtain ⟨rfl, hnames⟩ := numbered_text_inj toList_colon
                ((hassoc _ _ _ _).symm.trans (htext.trans (hassoc _ _ _ _)))
              obtain rfl := repeated_text_inj hnames
              rfl
          | _ => simp [Violation.lead, lead] at hlead
      | _ => exact absurd trivial hf
  | _ => cases f <;> simp [Violation.lead, lead] at hlead

/-- A stray call breaks no rule of the entry. -/
theorem not_breaksRule_strayCall (place : Nat × String) : ¬ (strayCall place).BreaksRule := by
  rcases strayCall_cases place with ⟨-, h⟩ | ⟨-, h⟩ <;> rw [h] <;> exact id

/-- **The place of a call is told by its wording.** -/
theorem strayCall_message_injective :
    Function.Injective fun place => (strayCall place).message := by
  intro place place' h
  have hflaw := EntryFlaw.eq_of_call_message (not_breaksRule_strayCall place')
    (v := .flaw (strayCall place)) h
  obtain ⟨line, name⟩ := place
  obtain ⟨line', name'⟩ := place'
  rcases strayCall_cases (line, name) with ⟨-, hcall⟩ | ⟨-, hcall⟩ <;>
    rcases strayCall_cases (line', name') with ⟨-, hcall'⟩ | ⟨-, hcall'⟩ <;>
    rw [hcall, hcall'] at hflaw <;> cases hflaw <;> rfl

/-! ## Calls in the entry class -/

variable {body : List Stmt} {entry : TopClass} {index : LineIndex} {lineOf : Nat → Nat}

/-- The method is one of the entry class, by itself, from a class of the module or from the
library. -/
def HasMethod (body : List Stmt) (entry : TopClass) (method : String) : Prop :=
  (∃ d, Descends (topClasses body) entry d ∧ Defines d method) ∨ method ∈ sceneMethods

/-- The places of the calls on `self` in a block, in the order of the walk. -/
def callPlaces (lineOf : Nat → Nat) (body : List Stmt) : List (Nat × String) :=
  (selfCalls body).map (·.place lineOf)

/-- One of some nodes is a call on `self` at a place. -/
def CallsAt (among : TreeNode → Prop) (lineOf : Nat → Nat) (place : Nat × String) : Prop :=
  ∃ n call, among n ∧ n.selfCall? = some call ∧ call.place lineOf = place

/-- The places of calls are those of the walked nodes. -/
theorem mem_callPlaces {place : Nat × String} :
    place ∈ callPlaces lineOf body ↔ CallsAt (Walked body) lineOf place := by
  simp only [callPlaces, selfCalls_eq, List.mem_map, List.mem_filterMap, mem_walkedNodes, CallsAt]
  constructor
  · rintro ⟨call, ⟨n, hn, hcall⟩, hplace⟩
    exact ⟨n, call, hn, hcall, hplace⟩
  · rintro ⟨n, call, hn, hcall, hplace⟩
    exact ⟨call, ⟨n, hn, hcall⟩, hplace⟩

/-- **The flaws of the entry class** are broken rules and then the calls of methods that it has
not. -/
theorem entryFlaws_eq (lineOf : Nat → Nat) (hentry : Resolves (topClasses body) entryClass entry) :
    ∃ rules, ∃ stray : Nat × String → Bool, (∀ f ∈ rules, f.BreaksRule) ∧
      (∀ place, stray place = true ↔ ¬ HasMethod body entry place.2) ∧
      entryFlaws lineOf body =
        rules ++ ((callPlaces lineOf entry.body).filter stray).map strayCall := by
  obtain ⟨others, hcandidates⟩ := hentry.filter_eq
  have hcalls (p : String → Bool) :
      ((selfCalls entry.body).filter fun call => p call.name).map (SelfCall.flaw lineOf) =
        ((callPlaces lineOf entry.body).filter fun place => p place.2).map strayCall := by
    rw [callPlaces, List.filter_map, List.map_map, funext (SelfCall.flaw_eq lineOf)]
    rfl
  simp only [entryFlaws, hcandidates]
  rw [hcalls fun method => !(methodsOf (topClasses body) (classFuel (topClasses body)) entry
    ([], [])).1.contains method && !sceneMethods.contains method]
  refine ⟨_, _, fun f hf => ?_, fun place => ?_, rfl⟩
  · simp only [List.mem_append, List.mem_ite_nil_left, List.mem_singleton] at hf
    rcases hf with (⟨-, rfl⟩ | ⟨-, rfl⟩) | ⟨-, rfl⟩ <;> exact trivial
  · rw [HasMethod, ← mem_methodsOf hentry.self]
    simp [not_or]

/-- **The wordings for a module** are those of what else is wrong with it, and then those of the
calls of methods that the entry class has not, each once. -/
theorem treeErrors_eq (bytes : List UInt8)
    (hentry : Resolves (topClasses body) entryClass entry) :
    ∃ others, ∃ stray : Nat × String → Bool,
      (∀ f : EntryFlaw, ¬ f.BreaksRule → f.message ∉ others) ∧
      (∀ place, stray place = true ↔ ¬ HasMethod body entry place.2) ∧
      treeErrors (.ofBytes bytes) body = others ++ ((dropRepeats [] (callPlaces (lineAt bytes)
        entry.body)).filter stray).map fun place => (strayCall place).message := by
  obtain ⟨rules, stray, hrules, hstray, hflaws⟩ := entryFlaws_eq (lineAt bytes) hentry
  obtain ⟨others, hothers, hviolations⟩ : ∃ others : List Violation,
      (∀ f : EntryFlaw, ¬ f.BreaksRule → .flaw f ∉ others) ∧
      treeViolations (.ofBytes bytes) body = others ++ ((callPlaces (lineAt bytes)
        entry.body).filter stray).map fun place => .flaw (strayCall place) := by
    rw [treeViolations, funext (LineIndex.lineOf_eq bytes), hflaws, List.map_append,
      List.map_map, ← List.append_assoc]
    refine ⟨_, fun f hf hmem => ?_, rfl⟩
    simp only [List.mem_append, List.mem_map, reduceCtorEq, and_false, exists_false, false_or,
      List.mem_ite_nil_left, List.mem_singleton, Violation.flaw.injEq, exists_eq_right] at hmem
    exact hf (hrules f hmem)
  have hapart (f : EntryFlaw) (hf : ¬ f.BreaksRule) : f.message ∉ others.map (·.message) := by
    intro hmem
    obtain ⟨v, hv, hmessage⟩ := List.mem_map.mp hmem
    rw [EntryFlaw.eq_of_call_message hf hmessage] at hv
    exact hothers f hf hv
  refine ⟨dropRepeats [] (others.map (·.message)), stray,
    fun f hf hmem => hapart f hf (mem_dropRepeats.mp hmem).1, hstray, ?_⟩
  rw [treeErrors, hviolations, List.map_append, List.map_map, dropRepeats_append,
    ← dropRepeats_filter]
  · exact congrArg _ (dropRepeats_map [] _ strayCall_message_injective)
  · intro m hm
    obtain ⟨place, -, rfl⟩ := List.mem_map.mp hm
    exact hapart _ (not_breaksRule_strayCall place)

/-- The flaw of a call is reported exactly if there is such a call. -/
theorem mem_treeErrors_call (bytes : List UInt8)
    (hentry : Resolves (topClasses body) entryClass entry) {f : EntryFlaw} (hf : ¬ f.BreaksRule) :
    f.message ∈ treeErrors (.ofBytes bytes) body ↔
      ∃ place, f = strayCall place ∧ ¬ HasMethod body entry place.2 ∧
        CallsAt (Walked entry.body) (lineAt bytes) place := by
  obtain ⟨others, stray, hothers, hstray, herrors⟩ := treeErrors_eq bytes hentry
  rw [herrors, List.mem_append, or_iff_right (hothers f hf), List.mem_map]
  simp only [List.mem_filter, mem_dropRepeats, List.not_mem_nil, not_false_eq_true, and_true,
    mem_callPlaces, hstray]
  constructor
  · rintro ⟨place, ⟨hcalls, hmethod⟩, hmessage⟩
    have hflaw := EntryFlaw.eq_of_call_message hf (v := .flaw (strayCall place)) hmessage
    exact ⟨place, (Violation.flaw.inj hflaw).symm, hmethod, hcalls⟩
  · rintro ⟨place, rfl, hmethod, hcalls⟩
    exact ⟨place, ⟨hcalls, hmethod⟩, rfl⟩

/-- What is reported at a place is a walked call there, of a method that the class has not. -/
theorem mem_treeErrors_strayCall (bytes : List UInt8)
    (hentry : Resolves (topClasses body) entryClass entry) (place : Nat × String) :
    (strayCall place).message ∈ treeErrors (.ofBytes bytes) body ↔
      ¬ HasMethod body entry place.2 ∧ CallsAt (Walked entry.body) (lineAt bytes) place := by
  rw [mem_treeErrors_call bytes hentry (not_breaksRule_strayCall place)]
  constructor
  · rintro ⟨place', hplace, hcalls⟩
    rwa [strayCall_message_injective (congrArg EntryFlaw.message hplace)]
  · exact fun hcalls => ⟨place, rfl, hcalls⟩

/-! ## Calls in patterns -/

/-- The expressions in the patterns of a node. -/
def TreeNode.patternExprs : TreeNode → List Expr
  | .stmt (.choice _ cases) => cases.flatMap (·.pattern.exprs)
  | _ => []

/-- The nodes of a block that are not within type parameters or the values of type aliases, nor
within defaults of parameters that the grammar gives none. -/
inductive InCode (body : List Stmt) : TreeNode → Prop
  | top {t : Stmt} (ht : t ∈ body) : InCode body (.stmt t)
  | part {n m : TreeNode} (hn : InCode body n) (hm : m ∈ n.parts) : InCode body m
  | pattern {n : TreeNode} {e : Expr} (hn : InCode body n) (he : e ∈ n.patternExprs) :
      InCode body (.expr e)

/-- What is walked is code. -/
theorem Walked.inCode {n : TreeNode} (h : Walked body n) : InCode body n := by
  induction h with
  | top ht => exact .top ht
  | part _ hm ih => exact .part ih hm

/-- What is in preorder below code is code. -/
theorem InCode.of_mem_preorder {n m : TreeNode} (hn : InCode body n) (hm : m ∈ n.preorder) :
    InCode body m := by
  induction n using TreeNode.parts_induction with
  | step n ih =>
      rw [n.preorder_eq] at hm
      rcases List.mem_cons.mp hm with rfl | hm
      · exact hn
      · obtain ⟨p, hp, hm⟩ := List.mem_flatMap.mp hm
        exact ih p hp (.part hn hp) hm

/-- Within an expression there are expressions only. -/
theorem exists_expr_of_mem_preorder {e : Expr} {n : TreeNode}
    (h : n ∈ (TreeNode.expr e).preorder) : ∃ e', n = .expr e' := by
  generalize hm : TreeNode.expr e = m at h
  induction m using TreeNode.parts_induction generalizing e with
  | step m ih =>
      subst hm
      rw [TreeNode.preorder_eq] at h
      rcases List.mem_cons.mp h with rfl | h
      · exact ⟨e, rfl⟩
      · obtain ⟨p, hp, h⟩ := List.mem_flatMap.mp h
        obtain ⟨e', -, rfl⟩ := List.mem_map.mp hp
        exact ih _ hp rfl h

/-- **Code is what is walked and what is within patterns of it.** -/
theorem inCode_iff {n : TreeNode} : InCode body n ↔ Walked body n ∨
    ∃ w e, Walked body w ∧ e ∈ w.patternExprs ∧ n ∈ (TreeNode.expr e).preorder := by
  constructor
  · intro h
    induction h with
    | top ht => exact Or.inl (.top ht)
    | part hn hm ih =>
        rcases ih with hwalked | ⟨w, e, hw, he, hpre⟩
        · exact Or.inl (.part hwalked hm)
        · exact Or.inr ⟨w, e, hw, he, TreeNode.parts_mem_preorder hpre hm⟩
    | @pattern n e' hn he ih =>
        rcases ih with hwalked | ⟨w, e, hw, -, hpre⟩
        · exact Or.inr ⟨n, e', hwalked, he, TreeNode.self_mem_preorder _⟩
        · -- no expression has a pattern
          obtain ⟨_, rfl⟩ := exists_expr_of_mem_preorder hpre
          cases he
  · rintro (hwalked | ⟨w, e, hw, he, hpre⟩)
    · exact hwalked.inCode
    · exact InCode.of_mem_preorder (.pattern hw.inCode he) hpre

/-! ## What is reported -/

/-- **The calls on `self` that are reported**, for every module with an entry class.

* The wording for a helper or for a method of the library, by how the name begins, is reported
  exactly if a walked node of the class calls a method on that line which the class has not.
* No wording is repeated, and these come last, in the order in which the walk first finds their
  places.
* They are those of all calls in the code of the class exactly if each call within a pattern is
  of a method that the class has, or has a walked one with its name and on its line. -/
theorem self_calls_reported (bytes : List UInt8)
    (hentry : Resolves (topClasses body) entryClass entry) :
    (∀ line method,
      ((EntryFlaw.undefinedHelper line method).message ∈ treeErrors (.ofBytes bytes) body ↔
        method.toList.head? = some '_' ∧ ¬ HasMethod body entry method ∧
          CallsAt (Walked entry.body) (lineAt bytes) (line, method)) ∧
      ((EntryFlaw.unknownMethod line method).message ∈ treeErrors (.ofBytes bytes) body ↔
        method.toList.head? ≠ some '_' ∧ ¬ HasMethod body entry method ∧
          CallsAt (Walked entry.body) (lineAt bytes) (line, method))) ∧
    (treeErrors (.ofBytes bytes) body).Nodup ∧
    (∃ (others : List String) (places : List (Nat × String)),
      treeErrors (.ofBytes bytes) body =
        others ++ places.map (fun place => (strayCall place).message) ∧
      (∀ place, (strayCall place).message ∉ others) ∧
      places.Pairwise fun place place' =>
        (callPlaces (lineAt bytes) entry.body).idxOf place <
          (callPlaces (lineAt bytes) entry.body).idxOf place') ∧
    ((∀ place, (strayCall place).message ∈ treeErrors (.ofBytes bytes) body ↔
        ¬ HasMethod body entry place.2 ∧ CallsAt (InCode entry.body) (lineAt bytes) place) ↔
      ∀ w e n call, Walked entry.body w → e ∈ w.patternExprs →
        n ∈ (TreeNode.expr e).preorder → n.selfCall? = some call →
        ¬ HasMethod body entry call.name →
        CallsAt (Walked entry.body) (lineAt bytes) (call.place (lineAt bytes))) ∧
    ∀ source, ReadsAs source body → utf8 source = bytes →
      (validate source).errors = treeErrors (.ofBytes bytes) body := by
  refine ⟨fun line method => ⟨?_, ?_⟩, nodup_dropRepeats, ?_, ?_, ?_⟩
  · rw [mem_treeErrors_call bytes hentry id]
    simp only [undefinedHelper_eq_strayCall, and_assoc, exists_and_left, exists_eq_left]
  · rw [mem_treeErrors_call bytes hentry id]
    simp only [unknownMethod_eq_strayCall, and_assoc, exists_and_left, exists_eq_left]
  · obtain ⟨others, stray, hothers, -, herrors⟩ := treeErrors_eq bytes hentry
    exact ⟨others, _, herrors, fun place => hothers _ (not_breaksRule_strayCall place),
      pairwise_idxOf_dropRepeats.filter stray⟩
  · constructor
    · intro h w e n call hw he hn hself hmethod
      have hcode : InCode entry.body n := inCode_iff.mpr (Or.inr ⟨w, e, hw, he, hn⟩)
      have hreported := (h (call.place (lineAt bytes))).mpr ⟨hmethod, n, call, hcode, hself, rfl⟩
      exact ((mem_treeErrors_strayCall bytes hentry _).mp hreported).2
    · intro h place
      rw [mem_treeErrors_strayCall bytes hentry]
      refine and_congr_right fun hmethod => ⟨?_, ?_⟩
      · rintro ⟨n, call, hn, hself, hplace⟩
        exact ⟨n, call, hn.inCode, hself, hplace⟩
      · rintro ⟨n, call, hn, hself, rfl⟩
        rcases inCode_iff.mp hn with hwalked | ⟨w, e, hw, he, hpre⟩
        · exact ⟨n, call, hwalked, hself, rfl⟩
        · exact h w e n call hw he hpre hself hmethod
  · rintro source hreads rfl
    exact hreads.errors_eq

/-- A scene that calls methods which it has not, one of them twice on a line. -/
def strayCallsScene : String :=
  "from manim import *\nclass GeneratedScene(Scene):\n    def construct(self):\n" ++
    "        self._a(self.b(), self.b())\n        self.wait()\n"

/-- A module of which nothing but calls is reported has an entry class. -/
theorem exists_entry (h : ∀ m ∈ treeErrors index body, ∃ place, m = (strayCall place).message) :
    ∃ entry, Resolves (topClasses body) entryClass entry := by
  rcases resolves_or_absent (topClasses body) entryClass with hentry | habsent
  · exact hentry
  · have hmissing : EntryFlaw.missingClass.message ∈ treeErrors index body := by
      rw [mem_treeErrors .missingClass trivial, entryFlaws_of_absent habsent]
      exact List.mem_cons_self
    obtain ⟨place, hplace⟩ := h _ hmissing
    have hcall := not_breaksRule_strayCall place
    have hflaw : Violation.flaw .missingClass = .flaw (strayCall place) :=
      EntryFlaw.eq_of_call_message hcall hplace
    rw [← Violation.flaw.inj hflaw] at hcall
    exact absurd trivial hcall

/-- In that scene both methods are reported with the fourth line, each once. -/
theorem stray_calls_reported :
    ∃ body entry, ReadsAs strayCallsScene body ∧
      Resolves (topClasses body) entryClass entry ∧
      (validate strayCallsScene).errors =
        [(strayCall (4, "_a")).message, (strayCall (4, "b")).message] ∧
      (¬ HasMethod body entry "_a" ∧
        CallsAt (Walked entry.body) (lineAt (utf8 strayCallsScene)) (4, "_a")) ∧
      ¬ HasMethod body entry "b" ∧
        CallsAt (Walked entry.body) (lineAt (utf8 strayCallsScene)) (4, "b") := by
  have hhelper : strayCall (4, "_a") = .undefinedHelper 4 "_a" :=
    (undefinedHelper_eq_strayCall.mpr ⟨by simp, rfl⟩).symm
  have hmethod : strayCall (4, "b") = .unknownMethod 4 "b" :=
    (unknownMethod_eq_strayCall.mpr ⟨by simp, rfl⟩).symm
  have hchars : strayCallsScene.toList = _ := toList_ofList_append _ _
  have reported : (validate strayCallsScene).errors =
      [(strayCall (4, "_a")).message, (strayCall (4, "b")).message] := by
    rw [validate, violations, hchars]
    decide +kernel
  obtain ⟨body, h⟩ := exists_readsAs reported (List.forall_mem_cons.mpr
    ⟨EntryFlaw.not_unread _, List.forall_mem_singleton.mpr (EntryFlaw.not_unread _)⟩)
  have herrors := h.errors_eq.symm.trans reported
  have honly : ∀ m ∈ treeErrors (.ofBytes (utf8 strayCallsScene)) body,
      ∃ place, m = (strayCall place).message := by
    rw [herrors]
    exact List.forall_mem_cons.mpr ⟨⟨_, rfl⟩, List.forall_mem_singleton.mpr ⟨_, rfl⟩⟩
  obtain ⟨entry, hentry⟩ := exists_entry honly
  obtain ⟨hcalls, -⟩ := self_calls_reported (utf8 strayCallsScene) hentry
  rw [herrors, hhelper, hmethod] at hcalls
  have hhelperCall := (hcalls 4 "_a").1.mp List.mem_cons_self
  have hmethodCall := (hcalls 4 "b").2.mp (List.mem_cons_of_mem _ List.mem_cons_self)
  exact ⟨body, entry, h, hentry, reported, hhelperCall.2, hmethodCall.2⟩

/-! ## A call that is passed over -/

/-- Is there a call at an offset within a pattern of the node? -/
def TreeNode.patternCalls (call : SelfCall) (n : TreeNode) : Bool :=
  n.patternExprs.any fun e => (walkExpr selfCallVisitor [] e).contains call

/-- Does the entry class have a call within a pattern, of a method that it has not? -/
def passesOver (call : SelfCall) (body : List Stmt) : Bool :=
  match (topClasses body).find? fun c => c.name == entryClass with
  | none => false
  | some entry =>
    walkBody (.seeking (TreeNode.patternCalls call)) false entry.body &&
      !(methodsOf (topClasses body) (classFuel (topClasses body)) entry ([], [])).1.contains
        call.name && !sceneMethods.contains call.name

/-- A scene that calls a method which it has not, in the replacement field of a text that stands
for a pattern. -/
def patternCallScene : String :=
  "from manim import *\nclass GeneratedScene(Scene):\n    def construct(self):\n" ++
    "        match 1:\n            case f\"\x7bself.helper()\x7d\":\n                pass\n"

/-- What is passed over is in the code. -/
theorem callsAt_of_passesOver (lineOf : Nat → Nat) {call : SelfCall}
    (h : passesOver call body = true) :
    ∃ entry, Resolves (topClasses body) entryClass entry ∧ ¬ HasMethod body entry call.name ∧
      CallsAt (InCode entry.body) lineOf (call.place lineOf) := by
  rw [passesOver] at h
  split at h
  · cases h
  · next entry hfind =>
    have hentry := find?_name_eq_some.mp hfind
    simp only [Bool.and_eq_true, Bool.not_eq_true', List.contains_eq_mem,
      decide_eq_false_iff_not] at h
    obtain ⟨⟨hseek, hdefined⟩, hlibrary⟩ := h
    refine ⟨entry, hentry, ?_, ?_⟩
    · rintro (hmethod | hmethod)
      · exact hdefined ((mem_methodsOf hentry.self).mpr hmethod)
      · exact hlibrary hmethod
    · rw [walkBody_seeking] at hseek
      obtain ⟨w, hw, hpattern⟩ := List.any_eq_true.mp hseek
      obtain ⟨e, he, hcalls⟩ := List.any_eq_true.mp hpattern
      have hwalk : walkExpr selfCallVisitor [] e =
          ((TreeNode.expr e).preorder.filterMap TreeNode.selfCall?).reverse :=
        (walkNode_eq_foldl (.collecting TreeNode.selfCall?) [] (.expr e)).trans
          ((foldl_collecting _ _ _).trans (List.append_nil _))
      rw [hwalk, List.contains_iff_mem, List.mem_reverse, List.mem_filterMap] at hcalls
      obtain ⟨n, hn, hself⟩ := hcalls
      have hcode := inCode_iff.mpr (Or.inr ⟨w, e, mem_walkedNodes.mp hw, he, hn⟩)
      exact ⟨n, call, hcode, hself, rfl⟩

/-- **A call within a pattern goes unnoticed.**  The scene passes, although its class calls a method
that it has not. -/
theorem pattern_call_unnoticed :
    ¬ ∀ source body entry, ReadsAs source body →
      Resolves (topClasses body) entryClass entry → ∀ place,
        (strayCall place).message ∈ (validate source).errors ↔
          ¬ HasMethod body entry place.2 ∧
            CallsAt (InCode entry.body) (lineAt (utf8 source)) place := by
  intro law
  have hchars : patternCallScene.toList = _ := toList_ofList_append _ _
  have passes : (validate patternCallScene).errors = [] := by
    rw [validate, violations, hchars]
    decide +kernel
  have called : (readScript patternCallScene.toList).toOption.map
      (passesOver ⟨"helper", 111⟩) = some true := by
    rw [hchars]
    decide +kernel
  obtain ⟨body, h⟩ := exists_readsAs passes (List.forall_mem_nil _)
  rw [h.parsed] at called
  obtain ⟨entry, hentry, hmethod, hcalls⟩ := callsAt_of_passesOver
    (lineAt (utf8 patternCallScene)) (Option.some.inj called)
  have hreported := (law _ _ _ h hentry _).mpr ⟨hmethod, hcalls⟩
  rw [passes] at hreported
  cases hreported

end SceneRender.Script
