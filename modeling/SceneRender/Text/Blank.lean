/-!
# Blank characters

What counts as blank when text is trimmed: the property `White_Space` of
Unicode.  Trimming removes such characters from both ends and nothing inside.  The
words of a text are its longest parts without a blank.
-/

namespace SceneRender.Text

/-- Has the character the property `White_Space`? -/
def isBlank (c : Char) : Bool :=
  let n := c.toNat
  (9 ≤ n && n ≤ 13) || n == 0x20 || n == 0x85 || n == 0xA0 || n == 0x1680 ||
    (0x2000 ≤ n && n ≤ 0x200A) || n == 0x2028 || n == 0x2029 || n == 0x202F ||
    n == 0x205F || n == 0x3000

/-- A character list without the blanks at its two ends. -/
def trimChars (cs : List Char) : List Char :=
  ((cs.dropWhile isBlank).reverse.dropWhile isBlank).reverse

/-- A text without the blanks at its two ends. -/
def trim (s : String) : String :=
  String.ofList (trimChars s.toList)

/-- Does the text hold nothing but blanks? -/
def isBlankText (s : String) : Bool :=
  s.toList.all isBlank

/-! ## Words -/

/-- The words of a character list; `word` is the part of a word that was read, in
reverse. -/
def splitWords (word : List Char) : List Char → List (List Char)
  | [] => if word.isEmpty then [] else [word.reverse]
  | c :: rest =>
    if isBlank c then
      if word.isEmpty then splitWords [] rest else word.reverse :: splitWords [] rest
    else splitWords (c :: word) rest

/-- The words of a text. -/
def words (s : String) : List String := (splitWords [] s.toList).map String.ofList

end SceneRender.Text
