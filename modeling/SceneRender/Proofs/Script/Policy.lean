import SceneRender.Proofs.Script.Preorder
import SceneRender.Script.Validation

/-!
# What the safety policy reports

For a script that can be read, the wordings of the policy are decided by the tree:
`policy_reports` says that a breach is reported exactly if a walked node of the tree
has it, and that every wording of a refusal comes from such a node.

It also says when the report is complete.  The nodes that are hidden from the walk,
in bounds of type parameters, in values of type aliases and in patterns, breach the
policy unnoticed unless a walked node has the same breach.

No statement is hidden, so `missing_import_reported` can say without such a proviso that
the required import is reported missing exactly if no statement has it.  Its level is not
looked at: a relative import of the same name counts (`relative_import_passes`).
-/

namespace SceneRender.Script

variable {source : String} {body : List Stmt}

/-! ## The report of a walk -/

/-- The breaches of a node itself. -/
def TreeNode.breaches : TreeNode → List Breach
  | stmt t => t.breaches
  | expr e => e.breaches

/-- Does the node import from the required module? -/
def TreeNode.importsRequired : TreeNode → Bool
  | stmt t => t.importsRequired
  | expr _ => false

/-- The visitor collects the breaches and looks for the import. -/
theorem foldl_safetyVisitor (r : SafetyReport) (nodes : List TreeNode) :
    nodes.foldl safetyVisitor.node r =
      ⟨(nodes.flatMap (·.breaches)).reverse ++ r.breaches,
        r.imported || nodes.any (·.importsRequired)⟩ := by
  induction nodes generalizing r with
  | nil => simp
  | cons n nodes ih =>
      rw [List.foldl_cons, ih]
      cases n <;>
        simp [Visitor.node, safetyVisitor, TreeNode.breaches, TreeNode.importsRequired,
          Bool.or_assoc]

/-- **The safety report** is read off the walked nodes: their breaches in order, and
whether one of them imports from the required module. -/
theorem safetyReport_eq (body : List Stmt) :
    safetyReport body =
      ⟨(walkedNodes body).flatMap (·.breaches), (walkedNodes body).any (·.importsRequired)⟩ := by
  rw [safetyReport, walkBody_eq_foldl, foldl_safetyVisitor]
  simp

/-! ## Wordings -/

/-- Dropping repeats drops no member. -/
theorem mem_dropRepeats {α : Type} [BEq α] [LawfulBEq α] {seen l : List α} {a : α} :
    a ∈ dropRepeats seen l ↔ a ∈ l ∧ a ∉ seen := by
  induction l generalizing seen with
  | nil => simp [dropRepeats]
  | cons b l ih =>
      by_cases hb : b ∈ seen
      · rw [dropRepeats, if_pos (by simpa using hb), ih, List.mem_cons]
        constructor
        · rintro ⟨hl, hseen⟩
          exact ⟨Or.inr hl, hseen⟩
        · rintro ⟨rfl | hl, hseen⟩
          · exact absurd hb hseen
          · exact ⟨hl, hseen⟩
      · rw [dropRepeats, if_neg (by simpa using hb), List.mem_cons, ih, List.mem_cons,
          List.mem_cons]
        constructor
        · rintro (rfl | ⟨hl, hseen⟩)
          · exact ⟨Or.inl rfl, hb⟩
          · exact ⟨Or.inr hl, fun h => hseen (Or.inr h)⟩
        · rintro ⟨rfl | hl, hseen⟩
          · exact Or.inl rfl
          · by_cases hab : a = b
            · exact Or.inl hab
            · exact Or.inr ⟨hl, by simp [hab, hseen]⟩

/-- A text begins as its first part does. -/
theorem begins_append {start a b : String} (h : start.toList <+: a.toList) :
    start.toList <+: (a ++ b).toList := by
  rw [String.toList_append]
  exact h.trans (List.prefix_append _ _)

/-- How the wording of a breach begins. -/
def Breach.lead : Breach → String
  | importOf _ => "Forbidden import: "
  | importFrom _ => "Forbidden import from: "
  | call _ => "Forbidden call: "

/-- What the wording of a breach ends with. -/
def Breach.subject : Breach → String
  | importOf module => module
  | importFrom module => module
  | call name => name

/-- The message of a breach is its lead and its subject. -/
theorem Breach.message_eq (b : Breach) : b.message = b.lead ++ b.subject := by
  cases b <;> rfl

/-- How the wordings of breaches begin. -/
def Breach.leads : List String :=
  ["Forbidden import: ", "Forbidden import from: ", "Forbidden call: "]

/-- The lead of a breach is one of the leads. -/
theorem Breach.lead_mem (b : Breach) : b.lead ∈ leads := by
  cases b <;> simp [lead, leads]

/-- The message of a breach begins with its lead. -/
theorem Breach.begins_lead (b : Breach) : b.lead.toList <+: b.message.toList := by
  cases b <;> exact begins_append List.prefix_rfl

/-- How the wording of a flaw of the entry class begins. -/
def EntryFlaw.lead : EntryFlaw → String
  | missingClass => "Missing required class: "
  | duplicateClass _ => "Duplicate required class: "
  | wrongBase => "Required class "
  | missingMethod => "Missing required method: "
  | undefinedHelper _ _ => "Undefined helper method at line "
  | unknownMethod _ _ => "Unknown Scene method at line "

/-- How the wordings of flaws of the entry class begin. -/
def EntryFlaw.leads : List String :=
  ["Missing required class: ", "Duplicate required class: ", "Required class ",
   "Missing required method: ", "Undefined helper method at line ",
   "Unknown Scene method at line "]

/-- The lead of an entry flaw is one of the leads. -/
theorem EntryFlaw.lead_mem (f : EntryFlaw) : f.lead ∈ leads := by
  cases f <;> simp [lead, leads]

/-- The message of an entry flaw begins with its lead. -/
theorem EntryFlaw.begins_lead (f : EntryFlaw) : f.lead.toList <+: f.message.toList := by
  cases f with
  | missingClass => decide +kernel
  | duplicateClass count =>
      exact begins_append (begins_append (begins_append (begins_append List.prefix_rfl)))
  | wrongBase => decide +kernel
  | missingMethod => decide +kernel
  | undefinedHelper line name =>
      exact begins_append (begins_append (begins_append (begins_append (begins_append
        (begins_append List.prefix_rfl)))))
  | unknownMethod line name =>
      exact begins_append (begins_append (begins_append (begins_append (begins_append
        (begins_append (begins_append List.prefix_rfl))))))

/-- How the wording of a violation begins. -/
def Violation.lead : Violation → String
  | tooLong => "Code exceeds max size "
  | unreadable _ _ => "Syntax error: "
  | breach b => b.lead
  | missingImport => "Missing required import: "
  | flaw f => f.lead

/-- How the wordings of violations begin. -/
def Violation.leads : List String :=
  "Code exceeds max size " :: "Syntax error: " :: "Missing required import: " ::
    (Breach.leads ++ EntryFlaw.leads)

/-- The lead of a violation is one of the leads. -/
theorem Violation.lead_mem (v : Violation) : v.lead ∈ leads := by
  cases v with
  | breach b => simp [lead, leads, b.lead_mem]
  | flaw f => simp [lead, leads, f.lead_mem]
  | _ => simp [lead, leads]

/-- The message of a violation begins with its lead. -/
theorem Violation.begins_lead (v : Violation) : v.lead.toList <+: v.message.toList := by
  cases v with
  | tooLong => decide +kernel
  | unreadable message line =>
      exact begins_append (begins_append (begins_append List.prefix_rfl))
  | breach b => exact b.begins_lead
  | missingImport => decide +kernel
  | flaw f => exact f.begins_lead

/-- No wording begins like one of another kind. -/
theorem Violation.eq_of_lead_begins :
    ∀ p ∈ leads, ∀ q ∈ leads, p.toList <+: q.toList → p = q := by
  decide +kernel

/-- **Wordings that agree** are of one kind. -/
theorem Violation.lead_eq_of_message_eq {v w : Violation} (h : v.message = w.message) :
    v.lead = w.lead := by
  rcases List.prefix_or_prefix_of_prefix v.begins_lead (h ▸ w.begins_lead) with hvw | hwv
  · exact eq_of_lead_begins _ v.lead_mem _ w.lead_mem hvw
  · exact (eq_of_lead_begins _ w.lead_mem _ v.lead_mem hwv).symm

/-- A wording does not begin like one of another kind. -/
theorem Violation.not_begins {v : Violation} {p : String} (hp : p ∈ leads) (hne : p ≠ v.lead) :
    ¬ p.toList <+: v.message.toList := by
  intro h
  rcases List.prefix_or_prefix_of_prefix h v.begins_lead with hpv | hvp
  · exact hne (eq_of_lead_begins _ hp _ v.lead_mem hpv)
  · exact hne (eq_of_lead_begins _ v.lead_mem _ hp hvp).symm

/-- Breaches are told apart by their wordings. -/
theorem Breach.message_injective {a b : Breach} (h : a.message = b.message) : a = b := by
  have hlead : a.lead = b.lead :=
    Violation.lead_eq_of_message_eq (v := .breach a) (w := .breach b) h
  rw [a.message_eq, b.message_eq, hlead] at h
  have hsubject : a.subject = b.subject := (String.append_right_inj _).mp h
  cases a <;> cases b <;> first
    | exact congrArg _ hsubject
    | simp [lead] at hlead

/-- The missing import is told by its wording. -/
theorem Violation.eq_missingImport {v : Violation} (h : v.message = missingImport.message) :
    v = missingImport := by
  have hlead := lead_eq_of_message_eq h
  cases v with
  | missingImport => rfl
  | breach b => cases b <;> simp [lead, Breach.lead] at hlead
  | flaw f => cases f <;> simp [lead, EntryFlaw.lead] at hlead
  | _ => simp [lead] at hlead

/-- How the wording of a breach begins, whatever it is. -/
def refusal : String := "Forbidden "

/-- The message of a breach begins as a refusal. -/
theorem Breach.begins_refusal (b : Breach) : refusal.toList <+: b.message.toList := by
  have hleads : ∀ p ∈ leads, refusal.toList <+: p.toList := by decide +kernel
  exact (hleads _ b.lead_mem).trans b.begins_lead

/-- A wording of another kind does not begin like that of a breach. -/
theorem Violation.not_refusal {v : Violation} (h : v.lead ∉ Breach.leads) :
    ¬ refusal.toList <+: v.message.toList := by
  have hleads : ∀ p ∈ leads, p ∉ Breach.leads →
      ¬ refusal.toList <+: p.toList ∧ ¬ p.toList <+: refusal.toList := by decide +kernel
  obtain ⟨hnot, hnot'⟩ := hleads _ v.lead_mem h
  intro hbegins
  rcases List.prefix_or_prefix_of_prefix hbegins v.begins_lead with hle | hle
  · exact hnot hle
  · exact hnot' hle

/-- No flaw of the entry class is worded like a breach. -/
theorem EntryFlaw.not_refusal (f : EntryFlaw) : ¬ refusal.toList <+: f.message.toList := by
  refine Violation.not_refusal (v := .flaw f) ?_
  cases f <;> simp [Violation.lead, EntryFlaw.lead, Breach.leads]

/-- The wording for the missing import is not that of a breach. -/
theorem not_refusal_missingImport :
    ¬ refusal.toList <+: Violation.missingImport.message.toList :=
  Violation.not_refusal (by simp [Violation.lead, Breach.leads])

/-! ## Scripts that can be read -/

/-- The characters of a script that is given as two literals.  A literal is the text of its
characters, so they need not be read off the bytes when the script is evaluated. -/
theorem toList_ofList_append (cs cs' : List Char) :
    (String.ofList cs ++ String.ofList cs').toList = cs ++ cs' := by
  rw [String.toList_append, String.toList_ofList, String.toList_ofList]

/-- The script is small, its nesting is accepted, and it reads as the module. -/
structure ReadsAs (source : String) (body : List Stmt) : Prop where
  small : source.utf8ByteSize ≤ maxScriptBytes
  shallow : Nesting.check (utf8 source) = none
  parsed : readScript source.toList = .ok body

/-- The violations of a script that can be read are those of its tree. -/
theorem ReadsAs.violations_eq (h : ReadsAs source body) :
    violations source = treeViolations (LineIndex.ofBytes (utf8 source)) body := by
  rw [violations, if_neg (Nat.not_lt.mpr h.small)]
  simp only [h.shallow, h.parsed]

/-- The wordings are those of the violations. -/
theorem mem_validate_errors {m : String} :
    m ∈ (validate source).errors ↔ ∃ v ∈ violations source, v.message = m := by
  simp [validate, mem_dropRepeats]

/-- How the wordings begin for scripts that are too long or cannot be read. -/
def Violation.unreadLeads : List String := ["Code exceeds max size ", "Syntax error: "]

/-- No wording of another kind says so. -/
theorem Violation.not_unread {v : Violation} (h : v.lead ∉ unreadLeads) :
    ∀ p ∈ unreadLeads, ¬ p.toList <+: v.message.toList := by
  have hleads : unreadLeads ⊆ leads := by simp [unreadLeads, leads]
  exact fun p hp => not_begins (hleads hp) (ne_of_mem_of_not_mem hp h)

/-- No entry flaw is taken for a script that cannot be read. -/
theorem EntryFlaw.not_unread (f : EntryFlaw) :
    ∀ p ∈ Violation.unreadLeads, ¬ p.toList <+: f.message.toList := by
  refine Violation.not_unread (v := .flaw f) ?_
  cases f <;> simp [Violation.lead, lead, Violation.unreadLeads]

/-- **A script reads as some module** unless a wording says that it does not. -/
theorem exists_readsAs {errors : List String} (herrors : (validate source).errors = errors)
    (hread : ∀ m ∈ errors, ∀ p ∈ Violation.unreadLeads, ¬ p.toList <+: m.toList) :
    ∃ body, ReadsAs source body := by
  have hlead : ∀ v ∈ violations source, v.lead ∉ Violation.unreadLeads := by
    intro v hv hmem
    have hmessage : v.message ∈ errors := herrors ▸ mem_validate_errors.mpr ⟨v, hv, rfl⟩
    exact hread _ hmessage _ hmem v.begins_lead
  rw [violations] at hlead
  split at hlead
  · exact absurd (by decide) (hlead .tooLong List.mem_cons_self)
  · next hsmall =>
    dsimp only at hlead
    split at hlead
    · exact absurd (by simp [Violation.lead, Violation.unreadLeads])
        (hlead (.unreadable _ _) List.mem_cons_self)
    · next hshallow =>
      split at hlead
      · exact absurd (by simp [Violation.lead, Violation.unreadLeads])
          (hlead (.unreadable _ _) List.mem_cons_self)
      · next body hparsed => exact ⟨body, Nat.not_lt.mp hsmall, hshallow, hparsed⟩

/-- The wordings that begin like a breach are those of the report's breaches. -/
theorem ReadsAs.refusal_mem_errors_iff (h : ReadsAs source body) {m : String}
    (hm : refusal.toList <+: m.toList) :
    m ∈ (validate source).errors ↔ ∃ b ∈ (safetyReport body).breaches, b.message = m := by
  rw [mem_validate_errors, h.violations_eq, treeViolations]
  simp only [List.mem_append, List.mem_map]
  constructor
  · rintro ⟨v, (⟨b, hb, rfl⟩ | hv) | ⟨f, hf, rfl⟩, rfl⟩
    · exact ⟨b, hb, rfl⟩
    · split at hv
      · cases hv
      · obtain rfl := List.mem_singleton.mp hv
        exact absurd hm not_refusal_missingImport
    · exact absurd hm f.not_refusal
  · rintro ⟨b, hb, rfl⟩
    exact ⟨.breach b, Or.inl (Or.inl ⟨b, hb, rfl⟩), rfl⟩

/-- The breaches of the report are those of the walked nodes. -/
theorem mem_safetyReport_breaches {b : Breach} :
    b ∈ (safetyReport body).breaches ↔ ∃ n, Walked body n ∧ b ∈ n.breaches := by
  simp only [safetyReport_eq, List.mem_flatMap, mem_walkedNodes]

/-- **A breach is reported** exactly if a walked node has it. -/
theorem ReadsAs.breach_reported_iff (h : ReadsAs source body) (b : Breach) :
    b.message ∈ (validate source).errors ↔ ∃ n, Walked body n ∧ b ∈ n.breaches := by
  rw [h.refusal_mem_errors_iff b.begins_refusal, ← mem_safetyReport_breaches]
  constructor
  · rintro ⟨b', hb', hmessage⟩
    rwa [← Breach.message_injective hmessage]
  · intro hb
    exact ⟨b, hb, rfl⟩

/-- **What the policy reports**, for every script that can be read.

* A breach is reported exactly if a walked node of the tree has it.
* Every wording of a refusal is that of a breach which a walked node has.
* A script that passes has no walked node with a breach.
* All breaches in the tree are reported exactly if nothing that lies within something
  hidden from a walked node has a breach that no walked node has. -/
theorem policy_reports (h : ReadsAs source body) :
    (∀ b : Breach, b.message ∈ (validate source).errors ↔
      ∃ n, Walked body n ∧ b ∈ n.breaches) ∧
    (∀ m ∈ (validate source).errors, refusal.toList <+: m.toList →
      ∃ n b, Walked body n ∧ b ∈ n.breaches ∧ b.message = m) ∧
    ((validate source).ok = true → ∀ n, Walked body n → n.breaches = []) ∧
    ((∀ n, Present body n → ∀ b ∈ n.breaches, b.message ∈ (validate source).errors) ↔
      ∀ w e n, Walked body w → e ∈ w.hidden → Within (.expr e) n →
        ∀ b ∈ n.breaches, ∃ w', Walked body w' ∧ b ∈ w'.breaches) := by
  refine ⟨h.breach_reported_iff, ?_, ?_, ?_⟩
  · intro m hm hrefusal
    obtain ⟨b, hb, rfl⟩ := (h.refusal_mem_errors_iff hrefusal).mp hm
    obtain ⟨n, hn, hb⟩ := mem_safetyReport_breaches.mp hb
    exact ⟨n, b, hn, hb, rfl⟩
  · intro hok n hn
    refine List.eq_nil_iff_forall_not_mem.mpr fun b hb => ?_
    have hmem := (h.breach_reported_iff b).mpr ⟨n, hn, hb⟩
    rw [List.isEmpty_iff.mp hok] at hmem
    cases hmem
  · constructor
    · intro hall w e n hw he hn b hb
      exact (h.breach_reported_iff b).mp (hall n (hn.present_of_hidden hw he) b hb)
    · rintro hhidden n ⟨d, hn⟩ b hb
      rw [h.breach_reported_iff]
      rcases hn.walked_or_hidden with hwalked | ⟨w, e, hw, he, hin⟩
      · exact ⟨n, hwalked, hb⟩
      · exact hhidden w e n hw he hin b hb

/-- A script that imports a forbidden module. -/
def forbiddenImportScript : String := "import os\n"

/-- In the script that imports a forbidden module a walked node is found to do so. -/
theorem forbidden_import_walked :
    ∃ body, ReadsAs forbiddenImportScript body ∧
      ∃ n, Walked body n ∧ Breach.importOf "os" ∈ n.breaches := by
  have readable : (readScript forbiddenImportScript.toList).isOk = true := by decide +kernel
  have reported : (Breach.importOf "os").message ∈ (validate forbiddenImportScript).errors := by
    decide +kernel
  cases hread : readScript forbiddenImportScript.toList with
  | error fault =>
      rw [hread] at readable
      cases readable
  | ok body =>
      have h : ReadsAs forbiddenImportScript body :=
        ⟨by decide +kernel, by decide +kernel, hread⟩
      exact ⟨body, h, ((policy_reports h).1 _).mp reported⟩

/-! ## What goes unnoticed -/

/-- The breaches of the value of a type alias at the beginning of a module. -/
def aliasBreaches : List Stmt → List Breach
  | .typeAlias _ _ value :: _ => value.breaches
  | _ => []

/-- A scene that calls a forbidden function in the value of a type alias. -/
def hiddenCallScene : String :=
  "type X = eval(\"1\")\nfrom manim import *\nclass GeneratedScene(Scene):\n" ++
    "    def construct(self):\n        pass\n"

/-- **A hidden breach goes unnoticed.**  The scene passes, although a call in its tree
is forbidden. -/
theorem hidden_breach_unnoticed :
    ¬ ∀ source body, ReadsAs source body → ∀ n, Present body n →
      ∀ b ∈ n.breaches, b.message ∈ (validate source).errors := by
  intro law
  have passes : (validate hiddenCallScene).errors = [] := by decide +kernel
  have called : (readScript hiddenCallScene.toList).toOption.map aliasBreaches =
      some [.call "eval"] := by decide +kernel
  cases hread : readScript hiddenCallScene.toList with
  | error fault =>
      rw [hread] at called
      cases called
  | ok body =>
      rw [hread] at called
      have hbreaches : aliasBreaches body = [.call "eval"] := Option.some.inj called
      have h : ReadsAs hiddenCallScene body := ⟨by decide +kernel, by decide +kernel, hread⟩
      rcases body with _ | ⟨t, body⟩
      · cases hbreaches
      cases t with
      | typeAlias name params value =>
          have hslot : .expr value ∈ TreeNode.slots (.stmt (.typeAlias name params value)) := by
            simp [TreeNode.slots, TreeNode.hidden, Stmt.hidden, exprNodes]
          have hcall : Breach.call "eval" ∈ TreeNode.breaches (.expr value) := by
            change _ ∈ aliasBreaches (.typeAlias name params value :: body)
            rw [hbreaches]
            exact List.mem_cons_self
          have hreported := law _ _ h _ ⟨2, .slot (.top List.mem_cons_self) hslot⟩ _ hcall
          rw [passes] at hreported
          cases hreported
      | _ => cases hbreaches

/-! ## The required import -/

/-- Does a statement, anywhere in the tree, import from the required module at the level?
Level zero is that of absolute imports; relative ones count the packages they go up. -/
def ImportsRequired (body : List Stmt) (level : Nat) : Prop :=
  ∃ names, Present body (.stmt (.importFrom (some requiredModule) names level))

/-- The required import is one from the module of that name, at any level. -/
theorem TreeNode.importsRequired_iff {n : TreeNode} :
    n.importsRequired = true ↔
      ∃ names level, n = .stmt (.importFrom (some requiredModule) names level) := by
  constructor
  · intro h
    cases n with
    | expr e => cases h
    | stmt t =>
        cases t with
        | importFrom module names level =>
            cases module with
            | none => cases h
            | some module => exact ⟨names, level, by rw [eq_of_beq (a := module) h]⟩
        | _ => cases h
  · rintro ⟨names, level, rfl⟩
    exact beq_self_eq_true requiredModule

/-- The walk notes an import from the required module exactly if the tree has one. -/
theorem safetyReport_imported :
    (safetyReport body).imported = true ↔ ∃ level, ImportsRequired body level := by
  simp only [safetyReport_eq, List.any_eq_true, mem_walkedNodes, TreeNode.importsRequired_iff]
  constructor
  · rintro ⟨n, hn, names, level, rfl⟩
    exact ⟨level, names, hn.present⟩
  · rintro ⟨level, names, hpresent⟩
    exact ⟨_, hpresent.walked, names, level, rfl⟩

/-- The import is reported missing exactly if the walk notes none. -/
theorem ReadsAs.missingImport_mem_errors_iff (h : ReadsAs source body) :
    Violation.missingImport.message ∈ (validate source).errors ↔
      (safetyReport body).imported = false := by
  rw [mem_validate_errors, h.violations_eq, treeViolations]
  constructor
  · rintro ⟨v, hv, hmessage⟩
    rw [Violation.eq_missingImport hmessage] at hv
    cases himported : (safetyReport body).imported with
    | false => rfl
    | true => simp [himported] at hv
  · intro himported
    exact ⟨.missingImport, by simp [himported], rfl⟩

/-- **The required import**, for every script that can be read.

* It is reported missing exactly if no statement of the tree, at any depth, imports from
  a module of that name, whatever the level of the import.
* The report is therefore right about absolute imports exactly unless the only imports
  from a module of that name are relative. -/
theorem missing_import_reported (h : ReadsAs source body) :
    (Violation.missingImport.message ∈ (validate source).errors ↔
      ∀ level, ¬ ImportsRequired body level) ∧
    ((Violation.missingImport.message ∈ (validate source).errors ↔
        ¬ ImportsRequired body 0) ↔
      ∀ level, ImportsRequired body level → ImportsRequired body 0) := by
  have hreported : Violation.missingImport.message ∈ (validate source).errors ↔
      ∀ level, ¬ ImportsRequired body level := by
    rw [h.missingImport_mem_errors_iff, ← Bool.not_eq_true, safetyReport_imported, not_exists]
  refine ⟨hreported, ?_⟩
  rw [hreported]
  constructor
  · intro hright level himport
    by_contra habsolute
    exact hright.mpr habsolute level himport
  · intro hrelative
    exact ⟨fun hnone => hnone 0, fun habsolute level himport =>
      habsolute (hrelative level himport)⟩

/-- A script whose import stands deep inside a function. -/
def nestedImportScript : String :=
  "def load():\n    try:\n        pass\n    finally:\n        from manim import *\n"

/-- The import deep inside a function is found. -/
theorem nested_import_found :
    ∃ body, ReadsAs nestedImportScript body ∧ ∃ level, ImportsRequired body level := by
  have reported : (validate nestedImportScript).errors =
      [EntryFlaw.missingClass.message, EntryFlaw.missingMethod.message] := by
    decide +kernel
  obtain ⟨body, h⟩ := exists_readsAs reported (by decide +kernel)
  have unreported :
      Violation.missingImport.message ∉ (validate nestedImportScript).errors := by
    rw [reported]
    decide +kernel
  refine ⟨body, h, ?_⟩
  by_contra hnone
  exact unreported ((missing_import_reported h).1.mpr (not_exists.mp hnone))

/-- Is the node an absolute import from the required module? -/
def TreeNode.importsAbsolutely : TreeNode → Bool
  | stmt (.importFrom (some module) _ 0) => module == requiredModule
  | _ => false

/-- A scene whose only import is from a module of the package it lies in. -/
def relativeImportScene : String :=
  "from .manim import *\nclass GeneratedScene(Scene):\n    def construct(self):\n        pass\n"

/-- **A relative import goes for the required one.**  The scene passes, although no
statement of it imports from the scene library. -/
theorem relative_import_passes :
    ¬ ∀ source body, ReadsAs source body →
      (Violation.missingImport.message ∈ (validate source).errors ↔
        ¬ ImportsRequired body 0) := by
  intro law
  have passes : (validate relativeImportScene).errors = [] := by decide +kernel
  obtain ⟨body, h⟩ := exists_readsAs passes (List.forall_mem_nil _)
  have sought : (readScript relativeImportScene.toList).toOption.map
      (walkBody (.seeking (·.importsAbsolutely)) false) = some false := by decide +kernel
  rw [h.parsed] at sought
  have habsent : (walkedNodes body).any (·.importsAbsolutely) = false := by
    rw [← walkBody_seeking]
    exact Option.some.inj sought
  have hreported := (law _ _ h).mpr fun ⟨names, hpresent⟩ =>
    List.any_eq_false.mp habsent _ (mem_walkedNodes.mpr hpresent.walked)
      (beq_self_eq_true requiredModule)
  rw [passes] at hreported
  cases hreported

end SceneRender.Script
