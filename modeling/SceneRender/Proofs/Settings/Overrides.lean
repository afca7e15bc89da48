import Mathlib.Data.List.Forall2
import Mathlib.Data.List.TakeWhile
import SceneRender.Settings.Environment

/-!
# What the environment overrides

A variable says of one part of the settings what it shall be.  `parts` lists these parts in the
order in which the variables are read: the name of the variable, what its value is read as, and
the place in the settings.  A round of overrides is then a pass over the parts that puts into
each place what was chosen for it (`applyOverrides_parts`).
-/

namespace SceneRender

namespace Settings

/-- The variables of an environment. -/
abbrev Variables := String → Option String

/-- A part of the settings that a variable overrides. -/
structure Part where
  name : String
  Value : Type
  /-- What a text is read as, or why it is refused. -/
  read : String → Except String Value
  get : Settings → Value
  put : Value → Settings → Settings

namespace Part

/-- A part that takes every text. -/
def ofText {α : Type} (name : String) (of : String → α) (get : Settings → α)
    (put : α → Settings → Settings) : Part :=
  ⟨name, α, fun text => .ok (of text), get, put⟩

/-- A part that takes natural numbers of some bits. -/
def ofNumber (name : String) (bits : Nat) (get : Settings → Nat)
    (put : Nat → Settings → Settings) : Part :=
  ⟨name, Nat, fun text => (readNatural (largest bits) (Text.trim text)).mapError (·.message), get,
    put⟩

/-- A part that is on or off. -/
def ofFlag (name : String) (get : Settings → Bool) (put : Bool → Settings → Settings) : Part :=
  ⟨name, Bool, fun text => (readFlag? text).elim (.error "expected a boolean") .ok, get, put⟩

/-- A part that is chosen by name. -/
def ofName {α : Type} (name : String) (ofText? : String → Option α) (unknown : String → String)
    (get : Settings → α) (put : α → Settings → Settings) : Part :=
  ⟨name, α, fun text => (ofText? (Text.trim text)).elim (.error (unknown (Text.trim text))) .ok,
    get, put⟩

end Part

/-- The parts that variables override, in the order in which the variables are read. -/
def parts : List Part := [
  .ofText "HOST" id (·.server.host) fun v s => { s with server.host := v },
  .ofNumber "PORT" 16 (·.server.port) fun n s => { s with server.port := n },
  .ofText "CORS_ORIGINS" splitOrigins (·.server.corsOrigins) fun v s =>
    { s with server.corsOrigins := v },
  .ofNumber "RATE_LIMIT_PER_MIN" 32 (·.server.rateLimitPerMinute) fun n s =>
    { s with server.rateLimitPerMinute := n },
  .ofName "LLM_PROVIDER" Provider.ofText? Provider.unknownMessage (·.llm.provider) fun p s =>
    { s with llm.provider := p },
  .ofNumber "LLM_REQUEST_TIMEOUT_SEC" 64 (·.llm.requestTimeoutSeconds) fun n s =>
    { s with llm.requestTimeoutSeconds := n },
  .ofText "OPENAI_API_KEY" some (·.llm.openaiApiKey) fun v s => { s with llm.openaiApiKey := v },
  .ofText "OPENAI_MODEL" id (·.llm.openaiModel) fun v s => { s with llm.openaiModel := v },
  .ofText "OLLAMA_BASE_URL" id (·.llm.ollamaBaseUrl) fun v s => { s with llm.ollamaBaseUrl := v },
  .ofText "OLLAMA_MODEL" id (·.llm.ollamaModel) fun v s => { s with llm.ollamaModel := v },
  .ofName "RENDER_MODE" RenderMode.ofName? RenderMode.unknownMessage (·.render.mode) fun m s =>
    { s with render.mode := m },
  .ofNumber "RENDER_TIMEOUT_SEC" 64 (·.render.timeoutSeconds) fun n s =>
    { s with render.timeoutSeconds := n },
  .ofNumber "MAX_RENDER_RETRIES" 32 (·.render.maxRetries) fun n s =>
    { s with render.maxRetries := n },
  .ofName "DEFAULT_RENDER_QUALITY" Quality.ofName? Quality.unknownMessage
    (·.render.defaultQuality) fun q s => { s with render.defaultQuality := q },
  .ofText "VIDEO_STORAGE_ROOT" id (·.render.storageRoot) fun v s =>
    { s with render.storageRoot := v },
  .ofText "DATABASE_PATH" id (·.render.databasePath) fun v s =>
    { s with render.databasePath := v },
  .ofFlag "USE_QUEUE" (·.render.useQueue) fun b s => { s with render.useQueue := b },
  .ofNumber "RENDER_WORKERS" 64 (·.render.workers) fun n s => { s with render.workers := n },
  .ofText "RENDERER_IMAGE" id (·.sandbox.image) fun v s => { s with sandbox.image := v },
  .ofText "SANDBOX_CPU" id (·.sandbox.cpus) fun v s => { s with sandbox.cpus := v },
  .ofText "SANDBOX_MEMORY" id (·.sandbox.memory) fun v s => { s with sandbox.memory := v },
  .ofNumber "SANDBOX_PIDS_LIMIT" 32 (·.sandbox.pidsLimit) fun n s =>
    { s with sandbox.pidsLimit := n },
  .ofFlag "SANDBOX_READ_ONLY" (·.sandbox.readOnly) fun b s => { s with sandbox.readOnly := b },
  .ofFlag "SANDBOX_NETWORK_DISABLED" (·.sandbox.networkDisabled) fun b s =>
    { s with sandbox.networkDisabled := b },
  .ofFlag "SANDBOX_NO_NEW_PRIVILEGES" (·.sandbox.noNewPrivileges) fun b s =>
    { s with sandbox.noNewPrivileges := b },
  .ofText "SANDBOX_SECCOMP_PROFILE" some (·.sandbox.seccompProfile) fun v s =>
    { s with sandbox.seccompProfile := v },
  .ofText "LOG_LEVEL" id (·.logging.level) fun v s => { s with logging.level := v },
  .ofName "LOG_FORMAT" LogFormat.ofText? LogFormat.unknownMessage (·.logging.format) fun f s =>
    { s with logging.format := f },
  .ofText "LOG_DIR" some (·.logging.dir) fun v s => { s with logging.dir := v }]

/-- Does an override read its variable as the part says? -/
def Part.Reads (p : Part) (entry : String × Override) : Prop :=
  entry.1 = p.name ∧ ∀ text, entry.2.read text = (p.read text).map p.put

section Kinds

variable {α : Type} {name : String} {get : Settings → α} {put : α → Settings → Settings}

/-- A text in the settings is overridden by any text. -/
theorem reads_text {of : String → α} :
    (Part.ofText name of get put).Reads (name, .text fun v => put (of v)) :=
  ⟨rfl, fun _ => rfl⟩

/-- A number in the settings is overridden by a number of its size. -/
theorem reads_number {bits : Nat} {get : Settings → Nat} {put : Nat → Settings → Settings} :
    (Part.ofNumber name bits get put).Reads (name, .natural (largest bits) put) := by
  refine ⟨rfl, fun text => ?_⟩
  simp only [Override.read, Part.ofNumber]
  cases readNatural (largest bits) (Text.trim text) <;> rfl

/-- A flag in the settings is overridden by a flag. -/
theorem reads_flag {get : Settings → Bool} {put : Bool → Settings → Settings} :
    (Part.ofFlag name get put).Reads (name, .flag put) := by
  refine ⟨rfl, fun text => ?_⟩
  simp only [Override.read, Part.ofFlag]
  cases readFlag? text <;> rfl

/-- A choice in the settings is overridden by the name of one. -/
theorem reads_name {ofText? : String → Option α} {unknown : String → String} :
    (Part.ofName name ofText? unknown get put).Reads (name, lookup ofText? unknown put) := by
  refine ⟨rfl, fun text => ?_⟩
  simp only [lookup, Override.read, Part.ofName]
  cases ofText? (Text.trim text) <;> rfl

end Kinds

/-- The parts are the overrides, one by one and in order. -/
theorem parts_reads : List.Forall₂ Part.Reads parts overrides :=
  .cons reads_text <| .cons reads_number <| .cons reads_text <| .cons reads_number <|
  .cons reads_name <| .cons reads_number <| .cons reads_text <| .cons reads_text <|
  .cons reads_text <| .cons reads_text <| .cons reads_name <| .cons reads_number <|
  .cons reads_number <| .cons reads_name <| .cons reads_text <| .cons reads_text <|
  .cons reads_flag <| .cons reads_number <| .cons reads_text <| .cons reads_text <|
  .cons reads_text <| .cons reads_number <| .cons reads_flag <| .cons reads_flag <|
  .cons reads_flag <| .cons reads_text <| .cons reads_text <| .cons reads_name <|
  .cons reads_text <| .nil

/-- Putting back what a part holds changes nothing. -/
theorem put_get : ∀ p ∈ parts, ∀ s, p.put (p.get s) s = s := by
  simp only [parts, List.forall_mem_cons, List.not_mem_nil]
  exact ⟨fun _ => rfl, fun _ => rfl, fun _ => rfl, fun _ => rfl, fun _ => rfl, fun _ => rfl,
    fun _ => rfl, fun _ => rfl, fun _ => rfl, fun _ => rfl, fun _ => rfl, fun _ => rfl,
    fun _ => rfl, fun _ => rfl, fun _ => rfl, fun _ => rfl, fun _ => rfl, fun _ => rfl,
    fun _ => rfl, fun _ => rfl, fun _ => rfl, fun _ => rfl, fun _ => rfl, fun _ => rfl,
    fun _ => rfl, fun _ => rfl, fun _ => rfl, fun _ => rfl, fun _ => rfl, nofun⟩

/-! ## A round of overrides -/

variable {e e' : Variables} {s r : Settings}

/-- What the environment chooses for a part: what its variable says, or what was there when the
variable is blank, absent, or not understood. -/
def Part.chosen (p : Part) (e : Variables) (old : p.Value) : p.Value :=
  match presentVariable? e p.name with
  | none => old
  | some text => (p.read text).toOption.getD old

/-- The refusal of a variable whose value is not understood. -/
def Part.refusal? (p : Part) (e : Variables) : Option InvalidSetting :=
  match presentVariable? e p.name with
  | none => none
  | some text =>
    match p.read text with
    | .ok _ => none
    | .error reason => some ⟨p.name, text, reason⟩

/-- The settings with one part as the environment chooses it. -/
def Part.fill (e : Variables) (s : Settings) (p : Part) : Settings :=
  p.put (p.chosen e (p.get s)) s

section Variable

variable {p : Part} {text reason : String}

/-- A blank or absent variable leaves its part alone. -/
theorem Part.absent (h : presentVariable? e p.name = none) :
    p.refusal? e = none ∧ ∀ old, p.chosen e old = old := by
  simp only [Part.refusal?, Part.chosen, h, implies_true, and_self]

/-- A variable that is understood is chosen. -/
theorem Part.understood {a : p.Value} (h : presentVariable? e p.name = some text)
    (hread : p.read text = .ok a) : p.refusal? e = none ∧ ∀ old, p.chosen e old = a := by
  simp only [Part.refusal?, Part.chosen, h, hread, Except.toOption, Option.getD_some, implies_true,
    and_self]

/-- A part refuses exactly a present value that it cannot read. -/
theorem Part.refusal?_eq_some {fault : InvalidSetting} :
    p.refusal? e = some fault ↔ ∃ text reason, presentVariable? e p.name = some text ∧
      p.read text = .error reason ∧ fault = ⟨p.name, text, reason⟩ := by
  rw [Part.refusal?]
  split
  · next h => simp [h]
  · next text h =>
    split
    · next hread => simp [h, hread]
    · next reason hread => simp [h, hread, eq_comm]

/-- What a part is read as does not depend on the other variables. -/
theorem Part.congr (h : presentVariable? e p.name = presentVariable? e' p.name) :
    p.refusal? e = p.refusal? e' ∧ ∀ old, p.chosen e old = p.chosen e' old := by
  simp only [Part.refusal?, Part.chosen, h, implies_true, and_self]

end Variable

/-- **A round of overrides** fills the parts in front of the first variable that is refused. -/
theorem applyOverrides_parts {ps : List Part} {os : List (String × Override)}
    (h : List.Forall₂ Part.Reads ps os) (hput : ∀ p ∈ ps, ∀ s, p.put (p.get s) s = s) :
    applyOverrides e os s =
      ((ps.takeWhile fun p => (p.refusal? e).isNone).foldl (Part.fill e) s,
        ps.findSome? (·.refusal? e)) := by
  induction h generalizing s with
  | nil => rfl
  | @cons p entry ps os hreads _ ih =>
      obtain ⟨name, o⟩ := entry
      obtain ⟨rfl, hread⟩ := hreads
      have ih := fun s => ih (s := s) fun q hq => hput q (List.mem_cons_of_mem _ hq)
      rw [applyOverrides, List.takeWhile_cons, List.findSome?_cons]
      cases hvalue : presentVariable? e p.name with
      | none =>
          obtain ⟨hnone, hold⟩ := p.absent hvalue
          have hfill : Part.fill e s p = s := by rw [Part.fill, hold, hput p List.mem_cons_self]
          simp only [hnone, Option.isNone_none, if_true, List.foldl_cons, hfill]
          exact ih s
      | some text =>
          cases hp : p.read text with
          | ok a =>
              obtain ⟨hnone, hnew⟩ := p.understood hvalue hp
              have hfill : Part.fill e s p = p.put a s := by rw [Part.fill, hnew]
              simp only [hread, hp, Except.map, hnone, Option.isNone_none, if_true,
                List.foldl_cons, hfill]
              exact ih _
          | error reason =>
              have hsome := p.refusal?_eq_some.mpr ⟨text, reason, hvalue, hp, rfl⟩
              simp only [hread, hp, Except.map, hsome, Option.isNone_some, Bool.false_eq_true,
                if_false, List.foldl_nil]

/-- The settings with every part as the environment chooses it. -/
def overridden (s : Settings) (e : Variables) : Settings := parts.foldl (Part.fill e) s

/-- The environment fills the parts before the first refusal, and answers with it. -/
theorem applyEnvironment_eq (s : Settings) (e : Variables) :
    s.applyEnvironment e =
      ((parts.takeWhile fun p => (p.refusal? e).isNone).foldl (Part.fill e) s,
        parts.findSome? (·.refusal? e)) :=
  applyOverrides_parts parts_reads put_get

/-- Without a refusal every part is filled. -/
theorem applyEnvironment_ok (h : ∀ p ∈ parts, p.refusal? e = none) :
    s.applyEnvironment e = (s.overridden e, none) := by
  rw [applyEnvironment_eq, List.findSome?_eq_none_iff.mpr h, List.takeWhile_eq_self_iff.mpr]
  · rfl
  · intro p hp
    rw [h p hp, Option.isNone_none]

/-- The settings that no variable overrides. -/
structure Untouched (s r : Settings) : Prop where
  openaiBaseUrl : r.llm.openaiBaseUrl = s.llm.openaiBaseUrl
  command : r.render.command = s.render.command
  spoolDir : r.render.spoolDir = s.render.spoolDir
  scratchDir : r.render.scratchDir = s.render.scratchDir
  queueCapacity : r.render.queueCapacity = s.render.queueCapacity
  tmpfsSize : r.sandbox.tmpfsSize = s.sandbox.tmpfsSize

/-- Settings that no variable is for stay as they are. -/
theorem untouched_overridden (s : Settings) (e : Variables) : Untouched s (s.overridden e) :=
  ⟨rfl, rfl, rfl, rfl, rfl, rfl⟩

/-- **Each part is overridden by its own variable** and by nothing else. -/
theorem get_overridden (s : Settings) (e : Variables) :
    ∀ p ∈ parts, p.get (s.overridden e) = p.chosen e (p.get s) := by
  simp only [parts, List.forall_mem_cons, List.not_mem_nil]
  exact ⟨rfl, rfl, rfl, rfl, rfl, rfl, rfl, rfl, rfl, rfl, rfl, rfl, rfl, rfl, rfl, rfl, rfl, rfl,
    rfl, rfl, rfl, rfl, rfl, rfl, rfl, rfl, rfl, rfl, rfl, nofun⟩

/-- Settings are told apart by their parts and by what no variable overrides. -/
theorem eq_of_parts (h : ∀ p ∈ parts, p.get r = p.get s) (hrest : Untouched s r) : r = s := by
  obtain ⟨⟨_, _, _, _⟩, ⟨_, _, _, _, _, _, _⟩, ⟨_, _, _, _, _, _, _, _, _, _, _, _⟩,
    ⟨_, _, _, _, _, _, _, _, _⟩, ⟨_, _, _⟩⟩ := r
  obtain ⟨⟨_, _, _, _⟩, ⟨_, _, _, _, _, _, _⟩, ⟨_, _, _, _, _, _, _, _, _, _, _, _⟩,
    ⟨_, _, _, _, _, _, _, _, _⟩, ⟨_, _, _⟩⟩ := s
  obtain ⟨rfl, rfl, rfl, rfl, rfl, rfl⟩ := hrest
  simp only [parts, List.forall_mem_cons, Part.ofText, Part.ofNumber, Part.ofFlag, Part.ofName] at h
  obtain ⟨rfl, rfl, rfl, rfl, rfl, rfl, rfl, rfl, rfl, rfl, rfl, rfl, rfl, rfl, rfl, rfl, rfl, rfl,
    rfl, rfl, rfl, rfl, rfl, rfl, rfl, rfl, rfl, rfl, rfl, -⟩ := h
  rfl

/-- No two parts have the same variable. -/
theorem parts_nodup : (parts.map (·.name)).Nodup := by decide

/-- The environment with some of its variables only. -/
def Variables.only (names : List String) (e : Variables) : Variables :=
  fun name => if name ∈ names then e name else none

/-- Among the chosen variables those that were present are present. -/
theorem present_only {names : List String} {name : String} :
    presentVariable? (e.only names) name =
      if name ∈ names then presentVariable? e name else none := by
  simp only [presentVariable?, Variables.only]
  split <;> rfl

/-- Two environments that do not both say something of one variable. -/
def Apart (e e' : Variables) : Prop :=
  ∀ name, presentVariable? e name = none ∨ presentVariable? e' name = none

/-- **Overriding twice** changes nothing. -/
theorem overridden_twice (s : Settings) (e : Variables) :
    (s.overridden e).overridden e = s.overridden e := by
  refine eq_of_parts (fun p hp => ?_) (untouched_overridden _ e)
  rw [get_overridden _ e p hp, get_overridden s e p hp]
  cases hvalue : presentVariable? e p.name with
  | none => rw [(p.absent hvalue).2]
  | some text =>
      simp only [Part.chosen, hvalue]
      cases p.read text <;> rfl

/-- **The order** of environments that override different variables does not matter. -/
theorem overridden_comm (s : Settings) (h : Apart e e') :
    (s.overridden e).overridden e' = (s.overridden e').overridden e := by
  refine eq_of_parts (fun p hp => ?_) ?_
  · rw [get_overridden _ e p hp, get_overridden _ e' p hp, get_overridden s e p hp,
      get_overridden s e' p hp]
    rcases h p.name with hnone | hnone
    · rw [(p.absent hnone).2, (p.absent hnone).2]
    · rw [(p.absent hnone).2, (p.absent hnone).2]
  · exact ⟨rfl, rfl, rfl, rfl, rfl, rfl⟩

/-- Does the environment say of a part only what it understands? -/
def Part.Accepts (p : Part) (e : Variables) : Prop :=
  ∀ text ∈ presentVariable? e p.name, ∃ a, p.read text = .ok a

/-- A part accepts what it does not refuse. -/
theorem Part.accepts_iff {p : Part} : p.Accepts e ↔ p.refusal? e = none := by
  rw [Part.Accepts, Part.refusal?]
  cases presentVariable? e p.name with
  | none => simp
  | some text => cases hread : p.read text <;> simp [hread]

/-- Absent variables fill nothing. -/
theorem fill_absent {ps : List Part} (hps : ∀ p ∈ ps, p ∈ parts)
    (h : ∀ p ∈ ps, presentVariable? e p.name = none) : ps.foldl (Part.fill e) s = s := by
  induction ps with
  | nil => rfl
  | cons p ps ih =>
      have hsame : Part.fill e s p = s := by
        rw [Part.fill, (p.absent (h p List.mem_cons_self)).2, put_get p (hps p List.mem_cons_self)]
      rw [List.foldl_cons, hsame]
      exact ih (fun q hq => hps q (List.mem_cons_of_mem _ hq))
        fun q hq => h q (List.mem_cons_of_mem _ hq)

/-- **What came before a refusal** is what the variables before it say alone. -/
theorem applyEnvironment_only {before after : List Part} {p : Part}
    (hparts : parts = before ++ p :: after) (hbefore : ∀ q ∈ before, q.refusal? e = none) :
    s.applyEnvironment (e.only (before.map (·.name))) = (before.foldl (Part.fill e) s, none) := by
  have hnodup := parts_nodup
  rw [hparts, List.map_append, List.nodup_append] at hnodup
  -- of the variables from the refused one on nothing is left
  have hrest : ∀ q ∈ p :: after,
      presentVariable? (e.only (before.map (·.name))) q.name = none := by
    intro q hq
    rw [present_only, if_neg]
    intro hmem
    exact hnodup.2.2 _ hmem _ (List.mem_map_of_mem hq) rfl
  have hfront : ∀ q ∈ before,
      presentVariable? (e.only (before.map (·.name))) q.name = presentVariable? e q.name := by
    intro q hq
    rw [present_only, if_pos (List.mem_map_of_mem hq)]
  have hnone : ∀ q ∈ parts, q.refusal? (e.only (before.map (·.name))) = none := by
    intro q hq
    rw [hparts] at hq
    rcases List.mem_append.mp hq with hq | hq
    · rw [(Part.congr (hfront q hq)).1, hbefore q hq]
    · exact (q.absent (hrest q hq)).1
  rw [applyEnvironment_ok hnone, overridden, hparts, List.foldl_append,
    fill_absent (fun q hq => hparts ▸ List.mem_append_right _ hq) hrest]
  refine congrArg (·, none) (List.foldl_ext _ _ _ fun x q hq => ?_)
  rw [Part.fill, Part.fill, (Part.congr (hfront q hq)).2]

/-- **Overrides are independent and repeatable.**  Let an environment override settings.

* It is accepted exactly if every variable that is not blank is understood as its part wants it.
* Then each part is what its own variable says, or what it was when that variable is blank or
  absent; everything without a variable stays; overriding again changes nothing; and a second
  environment that is accepted too and has no variable in common may as well come first.
* Otherwise the refusal names the first variable, in the order of the parts, that is not
  understood, with its value, and the settings are those that the variables before it make. -/
theorem environment_overrides (s : Settings) (e : Variables) :
    let r := (s.applyEnvironment e).1
    let refused := (s.applyEnvironment e).2
    (refused = none ↔ ∀ p ∈ parts, p.Accepts e) ∧
    (refused = none →
      (∀ p ∈ parts, p.get r = p.chosen e (p.get s)) ∧
      Untouched s r ∧
      r.applyEnvironment e = (r, none) ∧
      ∀ e', Apart e e' → (s.applyEnvironment e').2 = none →
        (r.applyEnvironment e').2 = none ∧
        r.applyEnvironment e' = (s.applyEnvironment e').1.applyEnvironment e) ∧
    ∀ fault, refused = some fault →
      ∃ before p after text reason, parts = before ++ p :: after ∧
        (∀ q ∈ before, q.Accepts e) ∧
        presentVariable? e p.name = some text ∧ p.read text = .error reason ∧
        fault = ⟨p.name, text, reason⟩ ∧
        s.applyEnvironment (e.only (before.map (·.name))) = (r, none) := by
  intro r refused
  have haccepted : ∀ e, (s.applyEnvironment e).2 = none ↔ ∀ p ∈ parts, p.refusal? e = none := by
    intro e
    rw [applyEnvironment_eq, List.findSome?_eq_none_iff]
  refine ⟨?_, fun hnone => ?_, fun fault hfault => ?_⟩
  · rw [haccepted]
    exact forall₂_congr fun p _ => Part.accepts_iff.symm
  · have hall := (haccepted e).mp hnone
    have hr : r = s.overridden e := congrArg Prod.fst (applyEnvironment_ok hall)
    rw [hr]
    refine ⟨get_overridden s e, untouched_overridden s e, ?_, fun e' hapart hnone' => ?_⟩
    · rw [applyEnvironment_ok hall, overridden_twice]
    · have hall' := (haccepted e').mp hnone'
      rw [applyEnvironment_ok hall', applyEnvironment_ok hall', applyEnvironment_ok hall,
        overridden_comm s hapart]
      exact ⟨rfl, rfl⟩
  · have hfirst : parts.findSome? (·.refusal? e) = some fault := by
      rw [← hfault]
      exact (congrArg Prod.snd (applyEnvironment_eq s e)).symm
    obtain ⟨before, p, after, hparts, hrefused, hbefore⟩ := List.findSome?_eq_some_iff.mp hfirst
    obtain ⟨text, reason, hvalue, hread, rfl⟩ := Part.refusal?_eq_some.mp hrefused
    have hfront : (parts.takeWhile fun p => (p.refusal? e).isNone) = before := by
      rw [hparts, List.takeWhile_append_of_pos, List.takeWhile_cons_of_neg, List.append_nil]
      · rw [hrefused, Option.isNone_some]
        exact Bool.false_ne_true
      · intro q hq
        rw [hbefore q hq, Option.isNone_none]
    have hr : r = before.foldl (Part.fill e) s := by
      rw [← hfront]
      exact congrArg Prod.fst (applyEnvironment_eq s e)
    refine ⟨before, p, after, text, reason, hparts, fun q hq => Part.accepts_iff.mpr (hbefore q hq),
      hvalue, hread, rfl, ?_⟩
    rw [applyEnvironment_only hparts hbefore, hr]

/-- An environment with a blank variable and one that is not understood. -/
def hastyEnvironment : Variables := fun name =>
  [("HOST", "  "), ("PORT", " 8080 "), ("RENDER_MODE", "kubernetes"), ("LOG_DIR", "logs")].lookup
    name

/-- The blank variable counts as absent, the port is taken over, and the folder of the log files,
which comes after the unknown mode, is not. -/
theorem hasty_environment_refused :
    let r := (Settings.default.applyEnvironment hastyEnvironment).1
    let refused := (Settings.default.applyEnvironment hastyEnvironment).2
    refused = some ⟨"RENDER_MODE", "kubernetes", RenderMode.unknownMessage "kubernetes"⟩ ∧
      r.server.host = "0.0.0.0" ∧ r.server.port = 8080 ∧ r.logging.dir = none ∧
      ∃ names, Settings.default.applyEnvironment (Variables.only names hastyEnvironment) =
        (r, none) := by
  intro r refused
  have hrefused : refused =
      some ⟨"RENDER_MODE", "kubernetes", RenderMode.unknownMessage "kubernetes"⟩ := by
    decide +kernel
  obtain ⟨before, -, -, -, -, -, -, -, -, -, hbefore⟩ :=
    (environment_overrides Settings.default hastyEnvironment).2.2 _ hrefused
  exact ⟨hrefused, by decide +kernel, by decide +kernel, by decide +kernel, _, hbefore⟩

end Settings

end SceneRender
