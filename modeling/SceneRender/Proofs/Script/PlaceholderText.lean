import SceneRender.Proofs.Script.ConditionChains
import SceneRender.Proofs.Script.TitleLiteral

/-!
# The text of the placeholder scene

Around its title the placeholder scene is a fixed text, so all that depends on the topic is
one string.  The scan passes the lines before it, the string and the lines behind it, and
the lexer makes tokens of them that differ only in the string and in where the tokens behind
it stand.
-/

namespace SceneRender.Script

/-! ## Lines -/

def importLine : List Char := "from manim import *\n".toList

def emptyLine : List Char := "\n".toList

def classLine : List Char := "class GeneratedScene(Scene):\n".toList

def methodLine : List Char := "    def construct(self):\n".toList

/-- The line with the title, up to its opening quote. -/
def titleOpening : List Char := "        title = Text(\"".toList

/-- The line with the title, from its closing quote on. -/
def titleClosing : List Char := "\", font_size=48)\n".toList

def playLine : List Char := "        self.play(Write(title))\n".toList

def waitLine : List Char := "        self.wait(1)\n".toList

/-- What stands before the title. -/
def beforeTitle : List Char :=
  importLine ++ (emptyLine ++ (emptyLine ++ (classLine ++ (methodLine ++ titleOpening))))

/-- What stands behind the title. -/
def behindTitle : List Char := titleClosing ++ (playLine ++ waitLine)

/-- The placeholder scene with the title of a topic. -/
def sceneText (topic : List Char) : List Char :=
  beforeTitle ++ (topic.flatMap titleChar ++ behindTitle)

/-- The placeholder scene is the text with the topic in it. -/
theorem toList_placeholderScene (topic : String) :
    (placeholderScene topic).toList = sceneText topic.toList := by
  have htitle : (placeholderTitle topic).toList = topic.toList.flatMap titleChar :=
    String.toList_ofList
  -- for any lines, since a rewriting would evaluate the ones at hand
  have hlines (a b c d e title f g h : String) :
      (a ++ b ++ b ++ c ++ d ++ e ++ title ++ f ++ g ++ h).toList =
        (a.toList ++ (b.toList ++ (b.toList ++ (c.toList ++ (d.toList ++ e.toList))))) ++
          (title.toList ++ (f.toList ++ (g.toList ++ h.toList))) := by
    simp only [String.toList_append, List.append_assoc]
  rw [sceneText, ← htitle]
  exact hlines _ _ _ _ _ _ _ _ _

/-- **Its size is bounded**, for a topic of the length that requests may have. -/
theorem utf8ByteSize_placeholderScene_le {topic : String} (h : topic.length ≤ 300) :
    (placeholderScene topic).utf8ByteSize ≤ maxScriptBytes := by
  have htitle := (length_title_bounds topic.toList).2
  have hsize := utf8ByteSize_ofList_le (sceneText topic.toList)
  have hbefore : beforeTitle.length = 98 := by decide +kernel
  have hbehind : behindTitle.length = 70 := by decide +kernel
  have hlength : (sceneText topic.toList).length =
      98 + ((topic.toList.flatMap titleChar).length + 70) := by
    rw [sceneText, List.length_append, List.length_append, hbefore, hbehind]
  rw [String.length_toList] at htitle
  rw [← toList_placeholderScene, String.ofList_toList, toList_placeholderScene, hlength] at hsize
  rw [maxScriptBytes]
  omega

/-! ## The scan -/

namespace Nesting

variable {bytes rest : List UInt8} {line : Nat}

/-- The state of the scan within the body of the method. -/
def State.inMethod (bytes : List UInt8) (line : Nat) : State :=
  ⟨bytes, line, [], 0, 0, [8, 4, 0], true⟩

/-- The scan passes the line of the import. -/
theorem Reached.importLine (h : Reached bytes (.atLine (Script.importLine.map byte ++ rest) line)) :
    Reached bytes (.atLine rest (line + 1)) :=
  h.run (n := 9) rfl

/-- The scan passes an empty line. -/
theorem Reached.emptyLine (h : Reached bytes (.atLine (Script.emptyLine.map byte ++ rest) line)) :
    Reached bytes (.atLine rest (line + 1)) :=
  h.run (n := 2) rfl

/-- The scan passes the line of the class. -/
theorem Reached.classLine (h : Reached bytes (.atLine (Script.classLine.map byte ++ rest) line)) :
    Reached bytes (.atLine rest (line + 1)) :=
  h.run (n := 9) rfl

/-- The scan passes the line of the method, which opens a block. -/
theorem Reached.methodLine
    (h : Reached bytes (.atLine (Script.methodLine.map byte ++ rest) line)) :
    Reached bytes ⟨rest, line + 1, [], 0, 0, [4, 0], true⟩ :=
  h.run (n := 9) rfl

/-- The scan reaches the quote of the title in one bracket. -/
theorem Reached.titleOpening
    (h : Reached bytes ⟨Script.titleOpening.map byte ++ rest, line, [], 0, 0, [4, 0], true⟩) :
    Reached bytes ⟨byte '"' :: rest, line, [1], 1, 0, [8, 4, 0], false⟩ :=
  h.run (n := 7) rfl

/-- **The title is passed** as one string. -/
theorem Reached.title {topic : List Char}
    (h : Reached bytes ⟨byte '"' :: ((topic.flatMap titleChar).flatMap String.utf8EncodeChar ++
      (Script.titleClosing.map byte ++ rest)), line, [1], 1, 0, [8, 4, 0], false⟩) :
    Reached bytes (.inMethod rest (line + 1)) := by
  have hstring : State.string ⟨byte '"' :: ((topic.flatMap titleChar).flatMap
        String.utf8EncodeChar ++ (Script.titleClosing.map byte ++ rest)),
        line, [1], 1, 0, [8, 4, 0], false⟩ false =
      .ok ⟨byte ',' :: ((Script.titleClosing.drop 2).map byte ++ rest),
        line, [1], 1, 0, [8, 4, 0], false⟩ := State.string_title rfl (by decide)
  have hbehind := h.step rfl hstring
  exact hbehind.run (n := 7) rfl

/-- The scan passes the line that plays. -/
theorem Reached.playLine (h : Reached bytes (.inMethod (Script.playLine.map byte ++ rest) line)) :
    Reached bytes (.inMethod rest (line + 1)) := by
  have hplay : Reached bytes ⟨byte '(' :: ((Script.playLine.drop 18).map byte ++ rest),
      line, [], 0, 1, [8, 4, 0], false⟩ :=
    h.run (n := 4) rfl
  have hwrite : Reached bytes ⟨byte '(' :: ((Script.playLine.drop 24).map byte ++ rest),
      line, [2], 2, 0, [8, 4, 0], false⟩ :=
    hplay.run (n := 2) rfl
  exact hwrite.run (n := 5) rfl

/-- The scan passes the line that waits. -/
theorem Reached.waitLine (h : Reached bytes (.inMethod (Script.waitLine.map byte ++ rest) line)) :
    Reached bytes (.inMethod rest (line + 1)) :=
  h.run (n := 8) rfl

/-- **No topic exceeds a limit** of the scan. -/
theorem check_sceneText (topic : List Char) :
    Nesting.check (utf8 (String.ofList (sceneText topic))) = none := by
  have hbytes {cs : List Char} (h : cs.all (·.utf8Size == 1) = true) :
      cs.flatMap String.utf8EncodeChar = cs.map byte := by
    rw [← utf8_ofList, utf8_eq_map h]
  have hbefore : beforeTitle.flatMap String.utf8EncodeChar = beforeTitle.map byte := hbytes rfl
  have hbehind : behindTitle.flatMap String.utf8EncodeChar = behindTitle.map byte := hbytes rfl
  rw [utf8_ofList, sceneText, List.flatMap_append, List.flatMap_append, hbefore, hbehind]
  simp only [beforeTitle, behindTitle, List.map_append, List.append_assoc]
  refine check_eq_none_iff.mpr ⟨_, .waitLine (.playLine (.title (.titleOpening (.methodLine
    (.classLine (.emptyLine (.emptyLine (.importLine .start)))))))), rfl⟩

end Nesting

/-! ## Tokens -/

/-- The tokens before the title. -/
def tokensBefore : List Located :=
  [⟨.keyword .from_, 0, 4⟩, ⟨.name "manim", 5, 10⟩, ⟨.keyword .import_, 11, 17⟩,
    ⟨.symbol .star, 18, 19⟩, ⟨.newline, 19, 20⟩,
    ⟨.keyword .class_, 22, 27⟩, ⟨.name "GeneratedScene", 28, 42⟩, ⟨.symbol .leftParen, 42, 43⟩,
    ⟨.name "Scene", 43, 48⟩, ⟨.symbol .rightParen, 48, 49⟩, ⟨.symbol .colon, 49, 50⟩,
    ⟨.newline, 50, 51⟩, ⟨.indent, 51, 55⟩,
    ⟨.keyword .def_, 55, 58⟩, ⟨.name "construct", 59, 68⟩, ⟨.symbol .leftParen, 68, 69⟩,
    ⟨.name "self", 69, 73⟩, ⟨.symbol .rightParen, 73, 74⟩, ⟨.symbol .colon, 74, 75⟩,
    ⟨.newline, 75, 76⟩, ⟨.indent, 76, 84⟩,
    ⟨.name "title", 84, 89⟩, ⟨.symbol .equal, 90, 91⟩, ⟨.name "Text", 92, 96⟩,
    ⟨.symbol .leftParen, 96, 97⟩]

/-- The tokens of the line with the title, from an offset on that is behind its closing
quote. -/
def closingTokens (pos : Nat) : List Located :=
  [⟨.symbol .comma, pos, pos + 1⟩, ⟨.name "font_size", pos + 2, pos + 11⟩,
    ⟨.symbol .equal, pos + 11, pos + 12⟩, ⟨.int 48, pos + 12, pos + 14⟩,
    ⟨.symbol .rightParen, pos + 14, pos + 15⟩, ⟨.newline, pos + 15, pos + 16⟩]

/-- The tokens of the line that plays the title; it calls at an offset. -/
def playTokens (pos : Nat) : List Located :=
  [⟨.name "self", pos, pos + 4⟩, ⟨.symbol .dot, pos + 4, pos + 5⟩,
    ⟨.name "play", pos + 5, pos + 9⟩, ⟨.symbol .leftParen, pos + 9, pos + 10⟩,
    ⟨.name "Write", pos + 10, pos + 15⟩, ⟨.symbol .leftParen, pos + 15, pos + 16⟩,
    ⟨.name "title", pos + 16, pos + 21⟩, ⟨.symbol .rightParen, pos + 21, pos + 22⟩,
    ⟨.symbol .rightParen, pos + 22, pos + 23⟩, ⟨.newline, pos + 23, pos + 24⟩]

/-- The tokens of the line that waits; it calls at an offset. -/
def waitTokens (pos : Nat) : List Located :=
  [⟨.name "self", pos, pos + 4⟩, ⟨.symbol .dot, pos + 4, pos + 5⟩,
    ⟨.name "wait", pos + 5, pos + 9⟩, ⟨.symbol .leftParen, pos + 9, pos + 10⟩,
    ⟨.int 1, pos + 10, pos + 11⟩, ⟨.symbol .rightParen, pos + 11, pos + 12⟩,
    ⟨.newline, pos + 12, pos + 13⟩]

/-- The tokens behind the title. -/
def tokensBehind (pos : Nat) : List Located :=
  closingTokens pos ++ (playTokens (pos + 24) ++ (waitTokens (pos + 56) ++
    [⟨.dedent, pos + 69, pos + 69⟩, ⟨.dedent, pos + 69, pos + 69⟩]))

/-- The token of the title, which ends at an offset. -/
def titleToken (title : List Char) (stop : Nat) : Located :=
  ⟨.string (String.ofList title) .plain false, 97, stop⟩

/-- The indentations within the body of the method. -/
def methodIndents : List Indentation := [⟨0, 8⟩, ⟨0, 4⟩]

set_option maxRecDepth 4000 in
/-- The text before the title gives its tokens. -/
theorem lexLoop_before (n : Nat) (gs : List Glyph) :
    lexLoop (n + 30) [] (.atLine (plainGlyphs beforeTitle ++ gs) 0) =
      lexLoop n tokensBefore.reverse ⟨⟨⟨'"', 1⟩ :: gs, 97⟩, 1, false, methodIndents⟩ := by
  exact rfl

set_option maxRecDepth 4000 in
/-- The text behind the title gives its tokens. -/
theorem lexLoop_behind (n pos : Nat) (tokens : List Located) :
    lexLoop (n + 25) tokens ⟨⟨plainGlyphs (behindTitle.drop 1), pos⟩, 1, false, methodIndents⟩ =
      ⟨((tokensBehind pos).reverse ++ tokens).reverse, .done (pos + 69)⟩ := by
  exact rfl

/-- **The title is one token.** -/
theorem lexLoop_title (topic : List Char) :
    ∃ stop, ∀ n tokens, lexLoop (n + 1) tokens
        ⟨⟨⟨'"', 1⟩ :: (plainGlyphs (topic.flatMap titleChar) ++ plainGlyphs behindTitle), 97⟩,
          1, false, methodIndents⟩ =
      lexLoop n (titleToken (topic.flatMap titleChar) stop :: tokens)
        ⟨⟨plainGlyphs (behindTitle.drop 1), stop⟩, 1, false, methodIndents⟩ := by
  let quoted : LexState :=
    ⟨⟨⟨'"', 1⟩ :: (plainGlyphs (topic.flatMap titleChar) ++ plainGlyphs behindTitle), 97⟩,
      1, false, methodIndents⟩
  obtain ⟨stop, hstop⟩ := lexString_title topic (g := ⟨',', 1⟩) (plainGlyphs (behindTitle.drop 2))
    (by decide) 97
  have hstep : lexStep quoted = .ok ([titleToken (topic.flatMap titleChar) stop],
      some ⟨⟨plainGlyphs (behindTitle.drop 1), stop⟩, 1, false, methodIndents⟩) :=
    (congrArg (fun read =>
      emit quoted read >>= fun out => pure ([] ++ out.1, some out.2)) hstop).trans rfl
  refine ⟨stop, fun n tokens => ?_⟩
  rw [lexLoop, hstep]
  rfl

/-- **The tokens of the placeholder scene.** -/
theorem lex_sceneText (topic : List Char) :
    ∃ stop, lex (sceneText topic) 0 =
      ⟨tokensBefore ++ titleToken (topic.flatMap titleChar) stop :: tokensBehind stop,
        .done (stop + 69)⟩ := by
  obtain ⟨stop, hstop⟩ := lexLoop_title topic
  refine ⟨stop, ?_⟩
  have hreturn : '\r' ∉ sceneText topic := by
    have hbefore : '\r' ∉ beforeTitle := by decide
    have hbehind : '\r' ∉ behindTitle := by decide
    simp only [sceneText, List.mem_append, not_or]
    exact ⟨hbefore, return_not_mem_title topic, hbehind⟩
  have hglyphs : glyphs (sceneText topic) = plainGlyphs beforeTitle ++
      (plainGlyphs (topic.flatMap titleChar) ++ plainGlyphs behindTitle) := by
    rw [glyphs_eq_plainGlyphs hreturn]
    simp only [plainGlyphs, sceneText, List.map_append]
  have hfuel : ∃ n, (glyphs (sceneText topic)).length + 1 = n + 25 + 1 + 30 := by
    have hbefore : (plainGlyphs beforeTitle).length = 98 := rfl
    rw [hglyphs, List.length_append, hbefore]
    exact ⟨43 + (plainGlyphs (topic.flatMap titleChar) ++ plainGlyphs behindTitle).length, by omega⟩
  obtain ⟨n, hfuel⟩ := hfuel
  have hcursor : lex (sceneText topic) 0 =
      lexLoop ((glyphs (sceneText topic)).length + 1) []
        (.atLine (glyphs (sceneText topic)) 0) := by
    rw [lex, hglyphs]
    rfl
  rw [hcursor, hfuel, hglyphs, lexLoop_before, hstop, lexLoop_behind]
  simp [tokensBefore]

end SceneRender.Script
