import SceneRender.Text.Blank

/-!
# Code in a reply

A model often wraps its code in a fence: three backquotes, perhaps the word
`python`, and a line break, up to the next three backquotes.  The code of a reply
is the first such block; without one it is the whole reply.  Blanks around the
code do not count.
-/

namespace SceneRender

open SceneRender.Text

/-- The mark that opens and closes a block. -/
def fence : List Char := ['\x60', '\x60', '\x60']

/-- The rest of a text after a word that it begins with. -/
def afterWord? : List Char → List Char → Option (List Char)
  | [], cs => some cs
  | w :: word, c :: cs => if w == c then afterWord? word cs else none
  | _ :: _, [] => none

/-- The rest after a line break. -/
def afterBreak? : List Char → Option (List Char)
  | '\n' :: rest => some rest
  | '\r' :: '\n' :: rest => some rest
  | _ => none

/-- The rest after an opening fence with its line. -/
def afterOpening? (cs : List Char) : Option (List Char) := do
  let rest ← afterWord? fence cs
  let tagged := afterWord? "python".toList rest
  match tagged.bind afterBreak? with
  | some body => some body
  | none => afterBreak? rest

/-- The characters before the next closing fence, if there is one. -/
def untilFence? : List Char → Option (List Char)
  | [] => none
  | c :: rest =>
    if (afterWord? fence (c :: rest)).isSome then some [] else (untilFence? rest).map (c :: ·)

/-- The first block of a text. -/
def firstBlock? : List Char → Option (List Char)
  | [] => none
  | c :: rest =>
    match (afterOpening? (c :: rest)).bind untilFence? with
    | some block => some block
    | none => firstBlock? rest

/-- The code of a reply. -/
def extractCode (reply : String) : String :=
  let cs := reply.toList
  String.ofList (trimChars ((firstBlock? cs).getD cs))

end SceneRender
