import SceneRender.Generation.Request
import SceneRender.Proofs.Script.PlaceholderScene
import SceneRender.Proofs.Script.Policy

/-!
# What the placeholder scene says

The topic of a request is text of the client's within a script of the service's.  Whatever
it is, the script says the same: its tree has the statements and the calls of the template
and one text, which is the topic.  So nothing that the topic may look like, be it code, an
escape, a comment or the end of the text, gets out of its quotes.
-/

namespace SceneRender.Script

/-! ## What a tree says -/

/-- What a statement does, a call calls, or a literal says. -/
inductive Saying where
  | importFrom (module : Option String) (names : List String) (level : Nat)
  | classOf (name : String)
  | method (name : String)
  | assignment
  | expression
  /-- Any other statement. -/
  | statement
  /-- A call, with the name that the callee is known by. -/
  | call (callee : Option String)
  /-- A literal text. -/
  | text (value : String)
  /-- A literal of bytes, or a text with replacement fields. -/
  | literal
  deriving DecidableEq, Repr

/-- What a node of a tree says, unless it is a name, a number or the like. -/
def TreeNode.saying? : TreeNode → Option Saying
  | .stmt (.importFrom module names level) => some (.importFrom module (names.map (·.name)) level)
  | .stmt (.classDef name _ _ _ _ _) => some (.classOf name)
  | .stmt (.functionDef _ name _ _ _ _ _) => some (.method name)
  | .stmt (.assign _ _) => some .assignment
  | .stmt (.expr _) => some .expression
  | .stmt _ => some .statement
  | .expr (.call _ func _ _) => some (.call (calleeName? func))
  | .expr (.constant (.text value)) => some (.text value)
  | .expr (.constant (.bytes _)) | .expr (.joined _) | .expr (.formatted ..) => some .literal
  | .expr _ => none

/-- What a module says, in the order of a walk. -/
def sayings (body : List Stmt) : List Saying := (walkedNodes body).filterMap TreeNode.saying?

/-- What the template says with a title in it. -/
def templateSayings (title : String) : List Saying :=
  [.importFrom (some "manim") ["*"] 0, .classOf "GeneratedScene", .method "construct",
    .assignment, .call (some "Text"), .text title,
    .expression, .call (some "play"), .call (some "Write"),
    .expression, .call (some "wait")]

variable {body : List Stmt} {pos : Nat}

/-- Nothing of a module is hidden from a walk if no walked node hides anything. -/
theorem walked_of_nothing_hidden (h : ∀ n ∈ walkedNodes body, n.hidden = []) {n : TreeNode}
    (hn : Present body n) : Walked body n := by
  obtain ⟨d, hd⟩ := hn
  rcases hd.walked_or_hidden with hwalked | ⟨w, e, hw, he, -⟩
  · exact hwalked
  · rw [h w (mem_walkedNodes.mpr hw)] at he
    cases he

/-- The tree says what the template says, with the shown topic. -/
theorem sayings_sceneBody (topic : List Char) :
    sayings (sceneBody topic pos) = templateSayings (String.ofList (topic.map shownChar)) := by
  rw [sayings, ← walkBody_collecting]
  rfl

/-- No walked node of the scene hides anything. -/
theorem hidden_sceneBody (topic : List Char) :
    ∀ n ∈ walkedNodes (sceneBody topic pos), n.hidden = [] := by
  have hnone : (walkedNodes (sceneBody topic pos)).any (fun n => !n.hidden.isEmpty) = false := by
    rw [← walkBody_seeking]
    rfl
  intro n hn
  simpa using List.any_eq_false.mp hnone n hn

/-! ## The topic in its quotes -/

/-- A double quote is shown as a single one and a line break as a blank; every other character is
shown as it is. -/
theorem shownChar_eq (c : Char) :
    shownChar c = if c = '"' then '\'' else if c = '\n' ∨ c = '\r' then ' ' else c := by
  rw [shownChar, titleChar.eq_def]
  split <;> simp_all

/-- The script reads as the scene of its topic. -/
theorem readsAs_placeholderScene {topic : String} (h : topic.length ≤ 300) :
    ∃ pos, ReadsAs (placeholderScene topic) (sceneBody topic.toList pos) := by
  obtain ⟨pos, hread⟩ := readScript_sceneText topic.toList
  exact ⟨pos, utf8ByteSize_placeholderScene_le h, check_placeholderScene topic,
    by rw [toList_placeholderScene, hread]⟩

/-- A topic whose length is no problem is no longer than the longest one. -/
theorem topic_length_le {r : GenerationRequest}
    (h : GenerationRequest.Problem.topicLength ∉ r.problems) : r.topic.length ≤ 300 := by
  by_contra hlong
  have hwithin : GenerationRequest.within GenerationRequest.topicBounds r.topic.length = false := by
    simp [GenerationRequest.within, GenerationRequest.topicBounds, hlong]
  exact h (by simp [GenerationRequest.problems, hwithin])

/-- **The placeholder scene is valid and says what the template says**, whatever the topic of a
request is.  The topic is its only text, with single quotes for double ones and blanks for
line breaks, and no node of the tree is passed over. -/
theorem placeholder_scene_says_template {r : GenerationRequest}
    (h : GenerationRequest.Problem.topicLength ∉ r.problems) :
    (validate (placeholderScene r.topic)).ok = true ∧
    (validate (placeholderScene r.topic)).errors = [] ∧
    ∃ body, ReadsAs (placeholderScene r.topic) body ∧
      sayings body = templateSayings (String.ofList (r.topic.toList.map fun c =>
        if c = '"' then '\'' else if c = '\n' ∨ c = '\r' then ' ' else c)) ∧
      ∀ n, Present body n → n ∈ walkedNodes body := by
  have hshort := topic_length_le h
  have hok := validate_placeholderScene_ok hshort
  obtain ⟨pos, hreads⟩ := readsAs_placeholderScene hshort
  refine ⟨hok, List.isEmpty_iff.mp hok, _, hreads, ?_, fun n hn => ?_⟩
  · rw [sayings_sceneBody, funext shownChar_eq]
  · exact mem_walkedNodes.mpr (walked_of_nothing_hidden (hidden_sceneBody _) hn)

/-- A request whose topic looks like the end of the title, a call and a comment. -/
def spitefulRequest : GenerationRequest :=
  ⟨"\\\"); eval(input())\r\n\"\"\" # \x7b'\x7d \\", 30, .minimal, .school, ""⟩

/-- A topic that looks like code is text in the scene. -/
theorem spiteful_topic_is_text :
    GenerationRequest.Problem.topicLength ∉ spitefulRequest.problems ∧
    (validate (placeholderScene spitefulRequest.topic)).ok = true ∧
    ∃ body, ReadsAs (placeholderScene spitefulRequest.topic) body ∧
      sayings body = templateSayings "\\'); eval(input())  ''' # \x7b'\x7d \\" := by
  have hlength : GenerationRequest.Problem.topicLength ∉ spitefulRequest.problems := by
    decide +kernel
  obtain ⟨hok, -, body, hreads, hsayings, -⟩ := placeholder_scene_says_template hlength
  refine ⟨hlength, hok, body, hreads, hsayings.trans (congrArg templateSayings ?_)⟩
  simp [spitefulRequest]

end SceneRender.Script
