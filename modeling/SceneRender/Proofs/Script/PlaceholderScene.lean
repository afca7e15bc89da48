import SceneRender.Proofs.Script.PlaceholderText

/-!
# The placeholder scene is valid

The tokens of the placeholder scene differ only in the title and in where the tokens behind
it stand.  So the reader makes a tree of them that differs only in a text and in where calls
start, and the policy looks at neither.
-/

namespace SceneRender.Script

variable {read : FieldReader} {n pos stop : Nat} {us : List Located} {e : Ending}

/-! ## Lines of the method -/

/-- The text that a title shows. -/
def shownTitle (topic : List Char) : Expr := .constant (.text (String.ofList (topic.map shownChar)))

/-- **A quoted title is an operand.** -/
theorem factor_title (topic : List Char) {u : Located} (hu : u.token.EndsArgument) :
    factor read (n + 3) ⟨titleToken (topic.flatMap titleChar) stop :: u :: us, e⟩ =
      .ok (⟨97, shownTitle topic⟩, ⟨u :: us, e⟩) := by
  obtain ⟨follower, start', stop'⟩ := u
  have hstrings : strings read followsAtom
      ⟨titleToken (topic.flatMap titleChar) stop :: ⟨follower, start', stop'⟩ :: us, e⟩ =
      .ok (shownTitle topic, ⟨⟨follower, start', stop'⟩ :: us, e⟩) := by
    have hsplit : splitStrings (titleToken (topic.flatMap titleChar) stop ::
        ⟨follower, start', stop'⟩ :: us) =
        ([⟨topic.flatMap titleChar, .plain, false, 97⟩], ⟨follower, start', stop'⟩ :: us) := by
      cases hu <;> simp [splitStrings, titleToken]
    simp only [strings, hsplit, joinLiterals_title]
    rfl
  have hatom : atom read (n + 1)
      ⟨titleToken (topic.flatMap titleChar) stop :: ⟨follower, start', stop'⟩ :: us, e⟩ =
      .ok (⟨97, shownTitle topic⟩, ⟨⟨follower, start', stop'⟩ :: us, e⟩) := by
    rw [atom]
    exact (Reader.bind_ok hstrings).trans rfl
  have hpower : power read (n + 2)
      ⟨titleToken (topic.flatMap titleChar) stop :: ⟨follower, start', stop'⟩ :: us, e⟩ =
      .ok (⟨97, shownTitle topic⟩, ⟨⟨follower, start', stop'⟩ :: us, e⟩) := by
    rw [power]
    cases hu <;> exact (Reader.bind_ok hatom).trans rfl
  rw [factor]
  exact hpower

/-- The call that makes the title. -/
def titleCall (topic : List Char) : Expr :=
  .call 92 (.name "Text") [shownTitle topic] [.mk (some "font_size") (.constant (.int 48))]

/-- **The first line makes the title.** -/
theorem smallLine_title (topic : List Char) :
    smallLine read (n + 20) []
        ⟨tokensBefore.drop 21 ++ titleToken (topic.flatMap titleChar) stop ::
          (closingTokens pos ++ us), e⟩ =
      .ok ([.assign [.name "title"] (titleCall topic)], ⟨us, e⟩) := by
  have htitle : argument read (n + 10)
      ⟨titleToken (topic.flatMap titleChar) stop :: (closingTokens pos ++ us), e⟩ =
      .ok (.positional 97 (shownTitle topic), ⟨closingTokens pos ++ us, e⟩) :=
    argument_alone (.string ..) .comma .comma (factor_title topic .comma)
  have hsize : argument read (n + 10) ⟨(closingTokens pos).drop 1 ++ us, e⟩ =
      .ok (.keyword (pos + 2) "font_size" (.constant (.int 48)),
        ⟨(closingTokens pos).drop 4 ++ us, e⟩) :=
    argument_keyword (.number 48) .closer (factor_number .closer)
  have hrest : Reader.commaTail (argument read (n + 10)) startsArgument (n + 10)
      [.positional 97 (shownTitle topic)] ⟨closingTokens pos ++ us, e⟩ =
      .ok (([.positional 97 (shownTitle topic),
          .keyword (pos + 2) "font_size" (.constant (.int 48))], false),
        ⟨(closingTokens pos).drop 4 ++ us, e⟩) := by
    exact (Reader.bind_ok hsize).trans rfl
  have hargs := argumentList_closed (.string ..) htitle hrest rfl
  have hcall : factor read (n + 12)
      ⟨tokensBefore.drop 23 ++ titleToken (topic.flatMap titleChar) stop ::
        (closingTokens pos ++ us), e⟩ =
      .ok (⟨92, titleCall topic⟩, ⟨(closingTokens pos).drop 5 ++ us, e⟩) :=
    factor_name .newline ((trailers_call hargs).trans (trailers_end .newline))
  exact smallLine_assignment (.name "Text") hcall

/-- The call that shows the title. -/
def playCall (pos : Nat) : Expr :=
  .call pos (.attribute (.name "self") "play")
    [.call (pos + 10) (.name "Write") [.name "title"] []] []

/-- **The second line shows it.** -/
theorem smallLine_play :
    smallLine read (n + 28) [] ⟨playTokens pos ++ us, e⟩ =
      .ok ([.expr (playCall pos)], ⟨us, e⟩) := by
  have htitle : argument read (n + 10) ⟨(playTokens pos).drop 6 ++ us, e⟩ =
      .ok (.positional (pos + 16) (.name "title"), ⟨(playTokens pos).drop 7 ++ us, e⟩) :=
    argument_alone (.name "title") .closer .closer (factor_name .closer (trailers_end .closer))
  have hwrite : argument read (n + 19) ⟨(playTokens pos).drop 4 ++ us, e⟩ =
      .ok (.positional (pos + 10) (.call (pos + 10) (.name "Write") [.name "title"] []),
        ⟨(playTokens pos).drop 8 ++ us, e⟩) :=
    argument_alone (.name "Write") .opener .closer (factor_name .closer
      ((trailers_call (argumentList_one (.name "title") htitle)).trans (trailers_end .closer)))
  have hcall : factor read (n + 21) ⟨playTokens pos ++ us, e⟩ =
      .ok (⟨pos, playCall pos⟩, ⟨(playTokens pos).drop 9 ++ us, e⟩) :=
    factor_name .newline (trailers_attribute.trans
      ((trailers_call (argumentList_one (.name "Write") hwrite)).trans (trailers_end .newline)))
  exact smallLine_alone (.name "self") hcall

/-- The call that waits. -/
def waitCall (pos : Nat) : Expr :=
  .call pos (.attribute (.name "self") "wait") [.constant (.int 1)] []

/-- **The last line waits.** -/
theorem smallLine_wait :
    smallLine read (n + 19) [] ⟨waitTokens pos ++ us, e⟩ =
      .ok ([.expr (waitCall pos)], ⟨us, e⟩) := by
  have hone : argument read (n + 10) ⟨(waitTokens pos).drop 4 ++ us, e⟩ =
      .ok (.positional (pos + 10) (.constant (.int 1)), ⟨(waitTokens pos).drop 5 ++ us, e⟩) :=
    argument_alone (.number 1) .closer .closer (factor_number .closer)
  have hcall : factor read (n + 12) ⟨waitTokens pos ++ us, e⟩ =
      .ok (⟨pos, waitCall pos⟩, ⟨(waitTokens pos).drop 6 ++ us, e⟩) :=
    factor_name .newline (trailers_attribute.trans
      ((trailers_call (argumentList_one (.number 1) hone)).trans (trailers_end .newline)))
  exact smallLine_alone (.name "self") hcall

/-! ## The script -/

/-- The statements of the method. -/
def constructBody (topic : List Char) (pos : Nat) : List Stmt :=
  [.assign [.name "title"] (titleCall topic), .expr (playCall (pos + 24)),
    .expr (waitCall (pos + 56))]

/-- The method that builds the scene. -/
def constructDef (topic : List Char) (pos : Nat) : Stmt :=
  .functionDef false "construct" [] (.mk [] [.mk "self" none none] none [] none) none []
    (constructBody topic pos)

/-- The class of the scene. -/
def sceneDef (topic : List Char) (pos : Nat) : Stmt :=
  .classDef "GeneratedScene" [] [.name "Scene"] [] [] [constructDef topic pos]

/-- **The placeholder scene as a tree**; what stands behind the title begins at an offset. -/
def sceneBody (topic : List Char) (pos : Nat) : List Stmt :=
  [.importFrom (some "manim") [⟨"*", none⟩] 0, sceneDef topic pos]

/-- The tokens of the placeholder scene. -/
def sceneTokens (topic : List Char) (pos : Nat) : List Located :=
  tokensBefore ++ titleToken (topic.flatMap titleChar) pos :: tokensBehind pos

/-- The lines of the method, up to the end of its block. -/
theorem blockTail_lines (topic : List Char) {compound : Reader Stmt} :
    blockTail (smallLine read (n + 28) []) compound (n + 28) []
        ⟨(sceneTokens topic pos).drop 21, e⟩ =
      .ok (constructBody topic pos, ⟨(sceneTokens topic pos).drop 50, e⟩) := by
  rw [blockTail]
  refine (Reader.bind_ok (smallLine_title topic)).trans ?_
  rw [blockTail]
  refine (Reader.bind_ok smallLine_play).trans ?_
  rw [blockTail]
  refine (Reader.bind_ok smallLine_wait).trans ?_
  rfl

/-- The block of the class is the method. -/
theorem block_method (topic : List Char) :
    block read (n + 30) ⟨(sceneTokens topic pos).drop 11, e⟩ =
      .ok ([constructDef topic pos], ⟨(sceneTokens topic pos).drop 51, e⟩) := by
  have hlines : block read (n + 29) ⟨(sceneTokens topic pos).drop 19, e⟩ =
      .ok (constructBody topic pos, ⟨(sceneTokens topic pos).drop 50, e⟩) := by
    rw [block]
    exact blockTail_lines topic
  have hmethod : compound read (n + 29) (block read (n + 29)) ⟨(sceneTokens topic pos).drop 13, e⟩ =
      .ok (constructDef topic pos, ⟨(sceneTokens topic pos).drop 50, e⟩) :=
    (Reader.bind_ok hlines).trans rfl
  rw [block]
  exact (Reader.bind_ok hmethod).trans rfl

/-- The class is read from its line on. -/
theorem compound_class (topic : List Char) :
    compound read (n + 30) (block read (n + 30)) ⟨(sceneTokens topic pos).drop 5, e⟩ =
      .ok (sceneDef topic pos, ⟨[], e⟩) := by
  have hbase : argument read (n + 30) ⟨(sceneTokens topic pos).drop 8, e⟩ =
      .ok (.positional 43 (.name "Scene"), ⟨(sceneTokens topic pos).drop 9, e⟩) :=
    argument_alone (.name "Scene") .closer .closer (factor_name .closer (trailers_end .closer))
  have hbases : argumentList (argument read (n + 30)) (n + 30)
      ⟨(sceneTokens topic pos).drop 8, e⟩ = _ := argumentList_one (.name "Scene") hbase
  exact (Reader.bind_ok hbases).trans ((Reader.bind_ok (block_method topic)).trans rfl)

/-- The statements of the scene are its import and its class. -/
theorem scriptTail_sceneTokens (topic : List Char) {o : Nat} :
    scriptTail read (n + 33) [] ⟨sceneTokens topic pos, .done o⟩ =
      .ok (sceneBody topic pos, ⟨[], .done o⟩) := by
  have himport : smallLine read (n + 32) [] ⟨sceneTokens topic pos, .done o⟩ =
      .ok ([.importFrom (some "manim") [⟨"*", none⟩] 0],
        ⟨(sceneTokens topic pos).drop 5, .done o⟩) := rfl
  rw [scriptTail]
  refine (Reader.bind_ok (f := fun new => scriptTail read (n + 32) (new.reverse ++ []))
    himport).trans ?_
  rw [scriptTail]
  exact (Reader.bind_ok (compound_class topic)).trans rfl

/-- **The reader makes the same tree** of every placeholder scene but for the title. -/
theorem readScript_sceneText (topic : List Char) :
    ∃ pos, readScript (sceneText topic) = .ok (sceneBody topic pos) := by
  obtain ⟨pos, hlex⟩ := lex_sceneText topic
  have hsoft : decideSoft true (sceneTokens topic pos) = sceneTokens topic pos := rfl
  have hfuel : fuelFor (sceneTokens topic pos) = 1663 + 33 := rfl
  refine ⟨pos, ?_⟩
  rw [readScript, hlex]
  dsimp only
  rw [← sceneTokens, hsoft, hfuel, scriptTail_sceneTokens]

/-! ## The verdict -/

/-- The policy finds nothing in the tree. -/
theorem treeViolations_sceneBody (index : LineIndex) (topic : List Char) :
    treeViolations index (sceneBody topic pos) = [] := by
  rfl

/-- The scan accepts it. -/
theorem check_placeholderScene (topic : String) :
    Nesting.check (utf8 (placeholderScene topic)) = none := by
  rw [← String.ofList_toList (s := placeholderScene topic), toList_placeholderScene]
  exact Nesting.check_sceneText topic.toList

/-- **The placeholder scene is valid** for every topic that a request may have. -/
theorem validate_placeholderScene_ok {topic : String} (h : topic.length ≤ 300) :
    (validate (placeholderScene topic)).ok = true := by
  obtain ⟨pos, hread⟩ := readScript_sceneText topic.toList
  have hviolations : violations (placeholderScene topic) = [] := by
    rw [violations, if_neg (Nat.not_lt.mpr (utf8ByteSize_placeholderScene_le h)),
      toList_placeholderScene, hread]
    dsimp only
    rw [check_placeholderScene]
    exact treeViolations_sceneBody _ _
  rw [validate, hviolations]
  rfl

end SceneRender.Script
