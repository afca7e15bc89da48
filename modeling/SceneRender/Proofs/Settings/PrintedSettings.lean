import SceneRender.Program.Run
import SceneRender.Proofs.Disk.Paths
import SceneRender.Proofs.Schema.TomlTables

/-!
# Printed settings load back

Settings are written table by table and read by forms that know nothing of the writer: an
option that is not set is not written, and a field that is not there keeps what the defaults
say.  `printed_settings_load_back` says that the two agree, whatever the texts hold and
whichever options are set, and that the settings which the program shows, with their secrets
masked, can be loaded too.

Each section is taken by itself.  Its printed fields fill its form: they make it what was
printed, except that an option that is not set stays as it was (`RenderSettings.fills` and its
like).  In the defaults no option is set.

The text that is shown has the name of a file in a comment, as it is.  A name with a line break
ends the comment, and what follows is no line of a settings file (`broken_name_not_loaded`).
-/

namespace SceneRender

open Schema Toml

/-! ## Parts of a whole -/

namespace Schema

variable {σ τ : Type} {form : Form σ} {printed : List (String × Written)}
  {changes : List (σ → σ)} {change : σ → σ} {lift : (σ → σ) → τ → τ}

/-- Looking up a name among named things is finding the thing. -/
theorem lookup_named {α β : Type} (all : List α) (name : α → String) (fill : α → β)
    (key : String) : (all.map fun a => (name a, fill a)).lookup key =
      (all.find? (name · == key)).map fill := by
  induction all with
  | nil => rfl
  | cons a all ih =>
      rw [List.map_cons, List.lookup_cons, List.find?_cons, ih, BEq.comm]
      split <;> rfl

/-- One of several things with different names is found by its own. -/
theorem lookup_own_name {α β : Type} {all : List α} (name : α → String) (fill : α → β)
    (hnodup : (all.map name).Nodup) {a : α} (ha : a ∈ all) :
    (all.map fun a => (name a, fill a)).lookup (name a) = some (fill a) := by
  rw [lookup_named, find?_name name hnodup ha, Option.map_some]

/-- How a change of a part becomes one of the whole: no change and one change after another
stay what they are. -/
structure Lifts (lift : (σ → σ) → τ → τ) : Prop where
  id : ∀ t, lift id t = t
  comp : ∀ f g t, lift f (lift g t) = lift (f ∘ g) t

/-- Lifted changes make the lifted change. -/
theorem Lifts.apply_map (h : Lifts lift) (changes : List (σ → σ)) (t : τ) :
    apply (changes.map lift) t = lift (apply changes) t := by
  induction changes generalizing t with
  | nil => exact (h.id t).symm
  | cons f changes ih => exact (ih (lift f t)).trans (h.comp _ _ _)

/-- Printed fields do to the whole what they do to the part. -/
theorem Follows.within (h : Follows form.fields printed changes) :
    Follows (form.within lift).fields printed (changes.map lift) := by
  rw [Form.within]
  generalize form.fields = fs at h
  induction h with
  | nil => exact .nil
  | absent _ ih => exact .absent ih
  | @field f w change _ _ _ hmoderate heffect _ ih =>
      refine .field hmoderate ?_ ih
      obtain ⟨name, required, slot⟩ := f
      cases slot with
      | text _ _ fill | flag fill | texts fill =>
          cases w <;> first | cases heffect; done | (cases heffect; rfl)
      | natural kind largest fill =>
          cases w with
          | natural n =>
              obtain ⟨hfits, rfl⟩ : n ≤ largest ∧ fill n = change := by
                simpa [Slot.effect?] using heffect
              exact if_pos hfits
          | text _ | flag _ | texts _ => cases heffect
      | choice options =>
          cases w with
          | text name =>
              have hself : (options.map fun o => (o.1, o.2)) = options := by simp
              have hfound : options.lookup name = some change := heffect
              rw [← hself, lookup_named] at hfound
              obtain ⟨o, hfind, rfl⟩ := Option.map_eq_some_iff.mp hfound
              exact (lookup_named options _ _ name).trans (by rw [hfind]; rfl)
          | natural _ | flag _ | texts _ => cases heffect

/-- A part that is filled is filled within the whole. -/
theorem Form.Fills.within (h : form.Fills printed change) (hlift : Lifts lift) :
    (form.within lift).Fills printed (lift change) := by
  obtain ⟨changes, hfollows, hcommuting, hchange⟩ := h
  refine ⟨changes.map lift, hfollows.within, ?_, fun t => ?_⟩
  · refine List.pairwise_map.mpr (hcommuting.imp fun hfg t => ?_)
    rw [hlift.comp, hlift.comp, show _ ∘ _ = _ ∘ _ from funext hfg]
  · rw [hlift.apply_map, show apply changes = change from funext hchange]

/-- A form within another one keeps its names. -/
theorem Form.Named.within (h : form.Named) : (form.within lift).Named := by
  have hnames : (form.within lift).fields.map (·.name) = form.fields.map (·.name) :=
    List.map_map ..
  obtain ⟨hdistinct, hwords⟩ := h
  rw [← hnames] at hdistinct hwords
  exact ⟨hdistinct, hwords⟩

end Schema

/-! ## Sections -/

namespace Schema.Follows

variable {σ : Type} {name kind : String} {required : Bool} {bits n : Nat}
  {fill : Nat → σ → σ} {fillText : String → σ → σ} {options : List (String × (σ → σ))}
  {fs : List (Field σ)} {printed : List (String × Written)} {changes : List (σ → σ)}

/-- A number of at most 32 bits. -/
theorem small (h : n < Nat.pow 2 bits) (hbits : bits ≤ 32) (rest : Follows fs printed changes) :
    Follows (⟨name, required, .natural kind (Nat.pow 2 bits - 1) fill⟩ :: fs)
      ((name, .natural n) :: printed) (fill n :: changes) := by
  have hmoderate : n < Nat.pow 2 63 :=
    Nat.lt_of_lt_of_le h (Nat.pow_le_pow_right Nat.two_pos (Nat.le_trans hbits (by decide)))
  exact .field (f := ⟨name, required, .natural kind (Nat.pow 2 bits - 1) fill⟩) hmoderate
    (if_pos (Nat.le_pred_of_lt h)) rest

/-- A number of 64 bits that can be written. -/
theorem large (h : n < Nat.pow 2 63) (rest : Follows fs printed changes) :
    Follows (⟨name, required, .natural kind (Nat.pow 2 64 - 1) fill⟩ :: fs)
      ((name, .natural n) :: printed) (fill n :: changes) :=
  .field (f := ⟨name, required, .natural kind (Nat.pow 2 64 - 1) fill⟩) h
    (if_pos (Nat.le_trans (Nat.le_of_lt h) (by decide))) rest

/-- A printed text fills the field of a text. -/
theorem text {s : String} {expected : String} {nullable : Bool}
    (rest : Follows fs printed changes) :
    Follows (⟨name, required, .text expected nullable fillText⟩ :: fs)
      ((name, .text s) :: printed) (fillText s :: changes) :=
  .field (f := ⟨name, required, .text expected nullable fillText⟩) trivial rfl rest

/-- A printed flag fills the field of a flag. -/
theorem flag {b : Bool} {fill : Bool → σ → σ} (rest : Follows fs printed changes) :
    Follows (⟨name, required, .flag fill⟩ :: fs) ((name, .flag b) :: printed)
      (fill b :: changes) :=
  .field (f := ⟨name, required, .flag fill⟩) trivial rfl rest

/-- Printed texts fill the field of a list. -/
theorem texts {ss : List String} {fill : List String → σ → σ}
    (rest : Follows fs printed changes) :
    Follows (⟨name, required, .texts fill⟩ :: fs) ((name, .texts ss) :: printed)
      (fill ss :: changes) :=
  .field (f := ⟨name, required, .texts fill⟩) trivial rfl rest

/-- One of several names. -/
theorem choice {s : String} {change : σ → σ} (h : options.lookup s = some change)
    (rest : Follows fs printed changes) :
    Follows (⟨name, required, .choice options⟩ :: fs) ((name, .text s) :: printed)
      (change :: changes) :=
  .field (f := ⟨name, required, .choice options⟩) trivial h rest

/-- An option that is set is one field, and one that is not is none. -/
theorem option {expected : String} (o : Option String) (rest : Follows fs printed changes) :
    Follows (⟨name, required, .text expected true fillText⟩ :: fs)
      (Settings.optional name o ++ printed) (o.toList.map fillText ++ changes) := by
  cases o with
  | none => exact .absent rest
  | some s => exact .field (f := ⟨name, required, .text expected true fillText⟩) trivial rfl rest

/-- An option at the end of a form. -/
theorem lastOption {expected : String} (o : Option String) :
    Follows [⟨name, required, .text expected true fillText⟩] (Settings.optional name o)
      (o.toList.map fillText) := by
  have hoption : Follows [⟨name, required, .text expected true fillText⟩]
      (Settings.optional name o ++ []) (o.toList.map fillText ++ []) := option o .nil
  simpa only [List.append_nil] using hoption

end Schema.Follows

/-- What sets an option that is set once gets in its own way with nobody. -/
theorem pairwise_option {α β : Type} {r : β → β → Prop} (o : Option α) (f : α → β) :
    (o.toList.map f).Pairwise r := by
  cases o <;> simp

/-- The printed settings of the server fill their section. -/
theorem ServerSettings.fills (c : ServerSettings) (hport : c.port < Nat.pow 2 16)
    (hrate : c.rateLimitPerMinute < Nat.pow 2 32) :
    ServerSettings.form.Fills c.fields fun _ => c := by
  refine ⟨?changes, ?follows, ?commuting, fun _ => ?whole⟩
  case follows => exact .text <| .small hport (by decide) <| .texts <| .small hrate (by decide) .nil
  case commuting => simp [Commuting]
  case whole => rfl

/-- The printed settings of the model fill their section. -/
theorem ModelSettings.fills (c : ModelSettings)
    (htimeout : c.requestTimeoutSeconds < Nat.pow 2 63) :
    ModelSettings.form.Fills c.fields fun start =>
      { c with openaiApiKey := c.openaiApiKey.or start.openaiApiKey } := by
  have hprovider : c.provider ∈ Provider.all := by cases c.provider <;> decide
  refine ⟨?changes, ?follows, ?commuting, fun start => ?whole⟩
  case follows =>
    simp only [ModelSettings.fields, List.cons_append, List.nil_append]
    exact .choice (lookup_own_name Provider.name _ (by decide) hprovider) <| .large htimeout <|
      .option _ <| .text <| .text <| .text <| .text .nil
  case commuting => simp [Commuting, List.pairwise_append, or_imp, forall_and, pairwise_option]
  case whole => cases c.openaiApiKey <;> rfl

/-- The printed settings of the renderer fill their section. -/
theorem RenderSettings.fills (c : RenderSettings) (htimeout : c.timeoutSeconds < Nat.pow 2 63)
    (hretries : c.maxRetries < Nat.pow 2 32) (hworkers : c.workers < Nat.pow 2 63)
    (hcapacity : c.queueCapacity < Nat.pow 2 63) :
    RenderSettings.form.Fills c.fields fun start =>
      { c with command := c.command.or start.command
               scratchDir := c.scratchDir.or start.scratchDir } := by
  have hmode : c.mode ∈ RenderMode.all := by cases c.mode <;> decide
  have hquality : c.defaultQuality ∈ Quality.all := by cases c.defaultQuality <;> decide
  refine ⟨?changes, ?follows, ?commuting, fun start => ?whole⟩
  case follows =>
    simp only [RenderSettings.fields, List.append_assoc, List.cons_append, List.nil_append]
    exact .choice (lookup_own_name RenderMode.name _ (by decide) hmode) <| .option _ <|
      .large htimeout <| .small hretries (by decide) <|
      .choice (lookup_own_name Quality.name _ (by decide) hquality) <| .text <| .text <|
      .option _ <| .text <| .flag <| .large hworkers <| .large hcapacity .nil
  case commuting => simp [Commuting, List.pairwise_append, or_imp, forall_and, pairwise_option]
  case whole => cases c.command <;> cases c.scratchDir <;> rfl

/-- The printed isolation fills its section. -/
theorem Isolation.fills (i : Isolation) (hpids : i.pidsLimit < Nat.pow 2 32) :
    Isolation.form.Fills i.fields fun start =>
      { i with seccompProfile := i.seccompProfile.or start.seccompProfile } := by
  refine ⟨?changes, ?follows, ?commuting, fun start => ?whole⟩
  case follows =>
    exact .text <| .text <| .text <| .small hpids (by decide) <| .text <| .flag <| .flag <|
      .flag <| .lastOption _
  case commuting => simp [Commuting, or_imp, forall_and, pairwise_option]
  case whole => cases i.seccompProfile <;> rfl

/-- The printed settings of the log fill their section. -/
theorem LogSettings.fills (c : LogSettings) :
    LogSettings.form.Fills c.fields fun start => { c with dir := c.dir.or start.dir } := by
  have hformat : c.format ∈ LogFormat.all := by cases c.format <;> decide
  refine ⟨?changes, ?follows, ?commuting, fun start => ?whole⟩
  case follows =>
    exact .text <| .choice (lookup_own_name LogFormat.name _ (by decide) hformat) <| .lastOption _
  case commuting => simp [Commuting, pairwise_option]
  case whole => cases c.dir <;> rfl

/-! ## All sections -/

namespace Settings

/-- The numbers of the settings have the sizes of their fields, and 63 bits at most. -/
structure Sized (s : Settings) : Prop where
  port : s.server.port < Nat.pow 2 16
  rateLimit : s.server.rateLimitPerMinute < Nat.pow 2 32
  requestTimeout : s.llm.requestTimeoutSeconds < Nat.pow 2 63
  timeout : s.render.timeoutSeconds < Nat.pow 2 63
  maxRetries : s.render.maxRetries < Nat.pow 2 32
  workers : s.render.workers < Nat.pow 2 63
  queueCapacity : s.render.queueCapacity < Nat.pow 2 63
  pidsLimit : s.sandbox.pidsLimit < Nat.pow 2 32

variable {s : Settings}

/-- Masking a key keeps the numbers in range. -/
theorem Sized.redacted (h : s.Sized) : s.redacted.Sized := by
  obtain ⟨hport, hrate, hrequest, htimeout, hretries, hworkers, hcapacity, hpids⟩ := h
  exact ⟨hport, hrate, hrequest, htimeout, hretries, hworkers, hcapacity, hpids⟩

/-- The forms of the sections name their fields by different words. -/
theorem forms_named : ServerSettings.form.Named ∧ ModelSettings.form.Named ∧
    RenderSettings.form.Named ∧ Isolation.form.Named ∧ LogSettings.form.Named := by
  and_intros <;> constructor <;> decide

/-- A section is filled by what fills its form. -/
theorem fillsSection {σ : Type} {form : Form σ} {printed : List (String × Written)}
    {change : σ → σ} (name : String) (lift : (σ → σ) → Settings → Settings)
    (hlift : Lifts lift) (hfind : sections.find? (·.name == name) = some ⟨name, form.within lift⟩)
    (hnamed : form.Named) (hfills : form.Fills printed change) :
    FillsSection sections (name, printed) (lift change) :=
  ⟨_, hfind, hnamed.within, hfills.within hlift⟩

/-- **The tables fill the sections**: in the defaults they set everything. -/
theorem Sized.fills (h : s.Sized) : ∃ changes,
    List.Forall₂ (FillsSection sections) s.tables changes ∧ Commuting changes ∧
      apply changes Settings.default = s := by
  obtain ⟨hserver, hllm, hrender, hsandbox, hlogging⟩ := forms_named
  have hserver := fillsSection "server" (fun f s => { s with server := f s.server })
    ⟨fun _ => rfl, fun _ _ _ => rfl⟩ rfl hserver (s.server.fills h.port h.rateLimit)
  have hllm := fillsSection "llm" (fun f s => { s with llm := f s.llm })
    ⟨fun _ => rfl, fun _ _ _ => rfl⟩ rfl hllm (s.llm.fills h.requestTimeout)
  have hrender := fillsSection "render" (fun f s => { s with render := f s.render })
    ⟨fun _ => rfl, fun _ _ _ => rfl⟩ rfl hrender
    (s.render.fills h.timeout h.maxRetries h.workers h.queueCapacity)
  have hsandbox := fillsSection "sandbox" (fun f s => { s with sandbox := f s.sandbox })
    ⟨fun _ => rfl, fun _ _ _ => rfl⟩ rfl hsandbox (s.sandbox.fills h.pidsLimit)
  have hlogging := fillsSection "logging" (fun f s => { s with logging := f s.logging })
    ⟨fun _ => rfl, fun _ _ _ => rfl⟩ rfl hlogging s.logging.fills
  refine ⟨_, .cons hserver <| .cons hllm <| .cons hrender <| .cons hsandbox <|
    .cons hlogging .nil, ?_, ?_⟩
  · simp [Commuting]
  · simp [apply, Settings.default, ModelSettings.default, RenderSettings.default,
      Isolation.default, LogSettings.default]

/-! ## Printing and loading -/

/-- What can be written is what is moderate. -/
theorem isWritable_iff {w : Written} : isWritable w = true ↔ Moderate w := by
  cases w <;> simp [isWritable, Moderate]

/-- Settings whose numbers are not too large can be printed. -/
theorem Sized.toToml?_eq (h : s.Sized) : s.toToml? = some s.toToml := by
  obtain ⟨changes, hfills, -⟩ := h.fills
  refine if_pos (List.all_eq_true.mpr fun t ht => List.all_eq_true.mpr fun f hf => ?_)
  exact isWritable_iff.mpr (moderate_of_fills hfills t ht f hf)

/-- The printed text says the tables. -/
theorem Sized.says_toToml (h : s.Sized) : Says s.toToml.toList (entriesOf s.tables) := by
  obtain ⟨changes, hfills, -⟩ := h.fills
  have hwords : ∀ name ∈ s.tables.map (·.1), IsWord name.toList := by
    change ∀ name ∈ ["server", "llm", "render", "sandbox", "logging"], IsWord name.toList
    decide
  exact says_writeTables (named_of_fills hfills fun t ht => hwords t.1 (List.mem_map_of_mem ht))

/-- **Every text that says the tables** is read as the settings. -/
theorem Sized.ofToml_says (h : s.Sized) {source : String}
    (hlines : Says source.toList (entriesOf s.tables))
    (hmark : ∀ c ∈ source.toList.head?, c.toNat ≠ 0xFEFF) : ofToml source = .ok s := by
  obtain ⟨changes, hfills, hcommuting, hwhole⟩ := h.fills
  have houter : (s.tables.map (·.1)).Nodup := by
    change ["server", "llm", "render", "sandbox", "logging"].Nodup
    decide
  rw [ofToml, readSections_says hlines hmark houter hfills hcommuting, hwhole]

/-- Printed settings begin with the bracket of a section. -/
theorem head?_toToml (s : Settings) : s.toToml.toList.head? = some '[' := by
  simp [toToml, tables, writeTables, writeTable]

/-- A file that holds a text is read as the text. -/
theorem readText_of_read {d : Disk} {path text : String} (h : d.read path = .ok text.toUTF8) :
    d.readText path = .ok text := by
  have hvalid : String.fromUTF8? text.toUTF8 = some text := dif_pos text.isValidUTF8
  simp only [Disk.readText, h, hvalid]

/-- A file whose text is read as settings is loaded as these. -/
theorem ofFile_of_read {d : Disk} {path text : String} (hread : d.read path = .ok text.toUTF8)
    (htext : ofToml text = .ok s) : ofFile path d = .ok s := by
  simp only [ofFile, readText_of_read hread, htext]

/-! ## Showing -/

/-- A name without control characters, except for tabs: a comment may hold it. -/
def Displayable (name : String) : Prop := ∀ c ∈ name.toList, commentMayHold c = true

instance (name : String) : Decidable (Displayable name) :=
  decidable_of_iff (name.toList.all commentMayHold = true) List.all_eq_true

/-- What the title above the settings says. -/
def titleLine : List Char := " renderforge configuration".toList

/-- What the line that names the file says. -/
def fileLine (source : Option String) : List Char :=
  " file: ".toList ++ (source.getD "built-in defaults").toList

/-- What is said about where the settings come from. -/
def originLine : List Char := " environment overrides and .env applied".toList

/-- The header is three comments and an empty line. -/
theorem toList_settingsHeader (source : Option String) :
    (Program.settingsHeader source).toList =
      '#' :: titleLine ++ '\n' :: ('#' :: fileLine source ++
        '\n' :: ('#' :: originLine ++ ['\n', '\n'])) := by
  have hfront : "# renderforge configuration\n# file: ".toList =
      '#' :: titleLine ++ '\n' :: '#' :: " file: ".toList := by
    unfold titleLine
    simp
  have hback : "\n# environment overrides and .env applied\n\n".toList =
      '\n' :: '#' :: originLine ++ ['\n', '\n'] := by
    unfold originLine
    simp
  unfold Program.settingsHeader fileLine
  simp only [String.toList_append, hfront, hback, List.cons_append, List.append_assoc]

/-- The title fits a comment. -/
theorem titleLine_held : ∀ c ∈ titleLine, commentMayHold c = true :=
  List.all_eq_true.mp (by decide)

/-- The line on the origin fits a comment. -/
theorem originLine_held : ∀ c ∈ originLine, commentMayHold c = true :=
  List.all_eq_true.mp (by decide)

/-- The line on the file fits a comment if the name can be displayed. -/
theorem fileLine_held {source : Option String} (hsource : ∀ name ∈ source, Displayable name) :
    ∀ c ∈ fileLine source, commentMayHold c = true := by
  refine List.forall_mem_append.mpr ⟨List.all_eq_true.mp (by decide), ?_⟩
  cases source with
  | none => exact List.all_eq_true.mp (by decide)
  | some name => exact hsource name rfl

/-- What follows the line that names the file. -/
def belowFile (s : Settings) : List Char :=
  '#' :: originLine ++ '\n' :: '\n' :: s.toToml.toList

/-- The text that is shown, line by line. -/
theorem toList_shown (source : Option String) (s : Settings) :
    (Program.settingsHeader source ++ s.toToml).toList =
      '#' :: titleLine ++ '\n' :: ('#' :: fileLine source ++ '\n' :: s.belowFile) := by
  rw [String.toList_append, toList_settingsHeader, belowFile]
  simp only [List.cons_append, List.append_assoc, List.nil_append]

/-- Printed settings say the entries of their tables. -/
theorem Sized.says_belowFile (h : s.Sized) : Says s.belowFile (entriesOf s.tables) :=
  h.says_toToml.newline.comment originLine_held

/-- **The text that is shown** is read as the settings, if the name of the file can stand in it. -/
theorem Sized.ofToml_shown (h : s.Sized) {source : Option String}
    (hsource : ∀ name ∈ source, Displayable name) :
    ofToml (Program.settingsHeader source ++ s.toToml) = .ok s := by
  refine h.ofToml_says ?_ ?_ <;> rw [toList_shown]
  · exact (h.says_belowFile.comment (fileLine_held hsource)).comment titleLine_held
  · rintro c ⟨⟩
    decide

/-- The text that is shown is no settings file if the name of the file goes on with a word on
a second line. -/
theorem Sized.ofToml_twoLines (h : s.Sized) {front word : String} (hfront : Displayable front)
    (hword : IsWord word.toList) : ∃ report,
    ofToml (Program.settingsHeader (some (front ++ "\n" ++ word)) ++ s.toToml) =
      .error report := by
  obtain ⟨ls, -, hcuts⟩ := h.says_belowFile
  have hfile : ∀ c ∈ fileLine (some front), commentMayHold c = true :=
    fileLine_held fun name hname => Option.some.inj hname ▸ hfront
  have hline : fileLine (some (front ++ "\n" ++ word)) =
      fileLine (some front) ++ '\n' :: word.toList := by
    have hbreak : "\n".toList = ['\n'] := by decide
    unfold fileLine
    simp only [Option.getD, String.toList_append, hbreak, List.append_assoc, List.cons_append,
      List.nil_append]
  have hshown : (Program.settingsHeader (some (front ++ "\n" ++ word)) ++ s.toToml).toList =
      '#' :: titleLine ++ '\n' :: ('#' :: fileLine (some front) ++
        '\n' :: (word.toList ++ '\n' :: s.belowFile)) := by
    rw [toList_shown, hline]
    simp only [List.cons_append, List.append_assoc]
  obtain ⟨fault, hfault⟩ := readDocument_strayWord titleLine_held hfile hword hcuts hshown
  refine ⟨fault.report (Program.settingsHeader (some (front ++ "\n" ++ word)) ++ s.toToml), ?_⟩
  rw [ofToml, readSections, hfault]

/-- No variable overrides anything in an empty environment. -/
theorem applyOverrides_none (os : List (String × Override)) :
    applyOverrides (fun _ => none) os s = (s, none) := by
  induction os with
  | nil => rfl
  | cons o os ih => exact ih

/-- Settings from a file that pass the check are loaded without an environment. -/
theorem load_of_ofFile {d : Disk} {path : String} (hfile : ofFile path d = .ok s)
    (hcheck : s.check = none) : load (some path) [] d = .ok s := by
  have henvironment : s.applyEnvironment (fun name => List.lookup name []) = (s, none) :=
    applyOverrides_none overrides
  simp only [load, source?, Option.some_or, hfile, henvironment, hcheck, bind, Except.bind]
  rfl

/-- The program shows the settings with their secrets masked, and changes nothing. -/
theorem Sized.showSettings_run (h : s.Sized) (config : Option String) (d : Disk) :
    (Program.showSettings s config).run d =
      .done (.ok (.answered true (Program.settingsHeader (source? config d) ++
        s.redacted.toToml)), d) := by
  rw [Program.showSettings]
  simp only [h.redacted.toToml?_eq]
  rfl

/-- Where the name of the file has a word on a second line, what is shown is no settings file. -/
theorem Sized.twoLines_not_loaded (h : s.Sized) {front word : String} (hfront : Displayable front)
    (hword : IsWord word.toList) (d : Disk) :
    ∃ output, (Program.showSettings s (some (front ++ "\n" ++ word))).run d =
      .done (.ok (.answered true output), d) ∧
        ∀ path d', d'.read path = .ok output.toUTF8 → ∀ s', ofFile path d' ≠ .ok s' := by
  obtain ⟨report, hreport⟩ := h.redacted.ofToml_twoLines hfront hword
  refine ⟨_, h.showSettings_run (some (front ++ "\n" ++ word)) d, fun path d' hread s' hfile => ?_⟩
  have hfailed : ofFile path d' = .error (.malformed path report) := by
    simp only [ofFile, readText_of_read hread, source?, Option.some_or, hreport]
  rw [hfailed] at hfile
  cases hfile

/-- **Printed settings load back**, and so do those that the program shows, if the name of the
file that they came from can be shown. -/
theorem printed_settings_load_back (s : Settings) (hsized : s.Sized) :
    (∃ text, s.toToml? = some text ∧
      ∀ path d, d.read path = .ok text.toUTF8 → ofFile path d = .ok s) ∧
    ∀ config d, (∀ name ∈ source? config d, Displayable name) →
      ∃ output, (Program.showSettings s config).run d = .done (.ok (.answered true output), d) ∧
        ∀ path d', d'.read path = .ok output.toUTF8 → ofFile path d' = .ok s.redacted ∧
          (s.check = none → load (some path) [] d' = .ok s.redacted) := by
  refine ⟨⟨s.toToml, hsized.toToml?_eq, fun path d hread => ofFile_of_read hread ?_⟩,
    fun config d hname => ⟨_, hsized.showSettings_run config d, fun path d' hread => ?_⟩⟩
  · refine hsized.ofToml_says hsized.says_toToml ?_
    rw [head?_toToml]
    rintro c ⟨⟩
    decide
  · have hfile := ofFile_of_read hread (hsized.redacted.ofToml_shown hname)
    exact ⟨hfile, fun hcheck => load_of_ofFile hfile hcheck⟩

/-- A disk with one file, that settings were printed to. -/
def printedOn (text : String) : Disk where
  working := []
  nodes := [(["printed.toml"], .file text.toUTF8)]

/-- The printed text can be read back from its file. -/
theorem read_printedOn (text : String) :
    (printedOn text).read "printed.toml" = .ok text.toUTF8 := by
  have hnames : Disk.names "printed.toml" = ["printed.toml"] :=
    Disk.names_plain (by unfold IsPlainName; decide)
  have hstart : (printedOn text).start "printed.toml" = [] := ite_self _
  have hlocate : (printedOn text).locate "printed.toml" = .ok ["printed.toml"] := by
    rw [Disk.locate, hnames, hstart, if_neg (by decide), if_neg (by decide)]
    rfl
  simp only [Disk.read, Disk.find, hlocate, bind, Except.bind]
  rfl

/-- Settings whose texts have to be escaped. -/
def noisySettings : Settings :=
  { Settings.default with
    llm := { ModelSettings.default with openaiApiKey := some "sk-'''\"\\" }
    render := { RenderSettings.default with command := some "sudo\t\"docker\"\n\x07" } }

/-- The numbers of the noisy settings are in range. -/
theorem noisySettings_sized : noisySettings.Sized := by
  constructor <;> decide

/-- Settings with quotes, breaks and control characters load back. -/
theorem noisy_settings_load_back : noisySettings.Sized ∧ ∃ text output,
    noisySettings.toToml? = some text ∧
    ofFile "printed.toml" (printedOn text) = .ok noisySettings ∧
    (Program.showSettings noisySettings (some "noisy.toml")).run .empty =
      .done (.ok (.answered true output), .empty) ∧
    load (some "printed.toml") [] (printedOn output) = .ok noisySettings.redacted ∧
    noisySettings.redacted.llm.openaiApiKey = some "***" := by
  obtain ⟨⟨text, htext, hloads⟩, hshown⟩ :=
    printed_settings_load_back noisySettings noisySettings_sized
  have hname : ∀ name ∈ source? (some "noisy.toml") .empty, Displayable name := by
    rintro name ⟨⟩
    decide
  obtain ⟨output, hshows, houtput⟩ := hshown (some "noisy.toml") .empty hname
  exact ⟨noisySettings_sized, text, output, htext, hloads _ _ (read_printedOn text), hshows,
    (houtput _ _ (read_printedOn output)).2 (by decide), rfl⟩

/-- What is shown of settings from a file with a line break in its name is no settings file. -/
theorem broken_name_not_loaded : Settings.default.Sized ∧ ∃ output,
    (Program.showSettings .default (some "a\nb")).run .empty =
      .done (.ok (.answered true output), .empty) ∧
    ∀ s, ofFile "printed.toml" (printedOn output) ≠ .ok s := by
  have hsized : Settings.default.Sized := by constructor <;> decide
  have hfront : Displayable "a" := by decide
  have hword : IsWord "b".toList := by decide
  have hname : "a" ++ "\n" ++ "b" = "a\nb" := by decide
  obtain ⟨output, hshows, hrefused⟩ := hsized.twoLines_not_loaded hfront hword .empty
  rw [hname] at hshows
  exact ⟨hsized, output, hshows, hrefused _ _ (read_printedOn output)⟩

end Settings

end SceneRender
