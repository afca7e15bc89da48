import SceneRender.Text.Decimal

/-!
# Tokens of a script

The words of the scene language.  Three of its keywords are *soft*: `match`,
`case` and `type` are names except where a line is built from them.  A token's
`text` is how a message shows it: keywords and operators in quotes, numbers by
value, strings with the marks they are written with.
-/

namespace SceneRender.Script

open SceneRender.Text

/-- The reserved words, the soft ones included. -/
inductive Keyword where
  | and_ | as_ | assert_ | async_ | await_ | break_ | case_ | class_ | continue_ | def_ | del_
  | elif_ | else_ | except_ | false_ | finally_ | for_ | from_ | global_ | if_ | import_ | in_
  | is_ | lambda_ | match_ | none_ | nonlocal_ | not_ | or_ | pass_ | raise_ | return_ | true_
  | try_ | type_ | while_ | with_ | yield_
  deriving DecidableEq, Repr

namespace Keyword

/-- The word itself. -/
def text : Keyword → String
  | and_ => "and" | as_ => "as" | assert_ => "assert" | async_ => "async" | await_ => "await"
  | break_ => "break" | case_ => "case" | class_ => "class" | continue_ => "continue"
  | def_ => "def" | del_ => "del" | elif_ => "elif" | else_ => "else" | except_ => "except"
  | false_ => "False" | finally_ => "finally" | for_ => "for" | from_ => "from"
  | global_ => "global" | if_ => "if" | import_ => "import" | in_ => "in" | is_ => "is"
  | lambda_ => "lambda" | match_ => "match" | none_ => "None" | nonlocal_ => "nonlocal"
  | not_ => "not" | or_ => "or" | pass_ => "pass" | raise_ => "raise" | return_ => "return"
  | true_ => "True" | try_ => "try" | type_ => "type" | while_ => "while" | with_ => "with"
  | yield_ => "yield"

/-- All keywords. -/
def all : List Keyword :=
  [and_, as_, assert_, async_, await_, break_, case_, class_, continue_, def_, del_, elif_, else_,
   except_, false_, finally_, for_, from_, global_, if_, import_, in_, is_, lambda_, match_, none_,
   nonlocal_, not_, or_, pass_, raise_, return_, true_, try_, type_, while_, with_, yield_]

/-- The keyword that a word spells, if it spells one. -/
def ofText? (word : String) : Option Keyword :=
  all.find? fun k => k.text == word

end Keyword

/-- Operators and delimiters. -/
inductive Symbol where
  | leftParen | rightParen | leftBracket | rightBracket | leftBrace | rightBrace
  | colon | walrus | comma | semicolon | dot | ellipsis | at_ | arrow | equal
  | plus | minus | star | power | slash | doubleSlash | percent
  | bar | amper | caret | tilde | shiftLeft | shiftRight
  | equalEqual | notEqual | less | lessEqual | greater | greaterEqual
  | plusEqual | minusEqual | starEqual | powerEqual | slashEqual | doubleSlashEqual
  | percentEqual | atEqual | barEqual | amperEqual | caretEqual | shiftLeftEqual | shiftRightEqual
  deriving DecidableEq, Repr

/-- The symbol as it is written. -/
def Symbol.text : Symbol → String
  | leftParen => "(" | rightParen => ")" | leftBracket => "[" | rightBracket => "]"
  | leftBrace => "\x7b" | rightBrace => "\x7d"
  | colon => ":" | walrus => ":=" | comma => "," | semicolon => ";" | dot => "." | ellipsis => "..."
  | at_ => "@" | arrow => "->" | equal => "="
  | plus => "+" | minus => "-" | star => "*" | power => "**" | slash => "/" | doubleSlash => "//"
  | percent => "%"
  | bar => "|" | amper => "&" | caret => "^" | tilde => "~" | shiftLeft => "<<" | shiftRight => ">>"
  | equalEqual => "==" | notEqual => "!=" | less => "<" | lessEqual => "<=" | greater => ">"
  | greaterEqual => ">="
  | plusEqual => "+=" | minusEqual => "-=" | starEqual => "*=" | powerEqual => "**="
  | slashEqual => "/=" | doubleSlashEqual => "//=" | percentEqual => "%=" | atEqual => "@="
  | barEqual => "|=" | amperEqual => "&=" | caretEqual => "^=" | shiftLeftEqual => "<<="
  | shiftRightEqual => ">>="

/-- What the letters before a string literal make of it. -/
inductive StringKind where
  | plain | formatted | bytes | raw | rawFormatted | rawBytes | unicode
  deriving DecidableEq, Repr

namespace StringKind

/-- The letters, as a message shows them. -/
def text : StringKind → String
  | plain => "" | formatted => "f" | bytes => "b" | raw => "r" | rawFormatted => "rf"
  | rawBytes => "rb" | unicode => "u"

/-- How many letters there are. -/
def letters : StringKind → Nat
  | plain => 0 | formatted | bytes | raw | unicode => 1 | rawFormatted | rawBytes => 2

/-- Does a backslash stand for itself? -/
def isRaw : StringKind → Bool
  | raw | rawFormatted | rawBytes => true
  | _ => false

/-- Does the literal hold bytes? -/
def isBytes : StringKind → Bool
  | bytes | rawBytes => true
  | _ => false

/-- Does the literal hold replacement fields? -/
def isFormatted : StringKind → Bool
  | formatted | rawFormatted => true
  | _ => false

/-- The kind that a single letter announces. -/
def ofLetter? (c : Char) : Option StringKind :=
  match c.toLower with
  | 'r' => some raw
  | 'f' => some formatted
  | 'u' => some unicode
  | 'b' => some bytes
  | _ => none

/-- The kind that two letters announce. -/
def ofLetters? (c d : Char) : Option StringKind :=
  match c.toLower, d.toLower with
  | 'r', 'f' | 'f', 'r' => some rawFormatted
  | 'r', 'b' | 'b', 'r' => some rawBytes
  | _, _ => none

end StringKind

/-- The value of a floating point literal; nothing stands for infinity. -/
abbrev Numeral := Option Binary

/-- A literal's value in decimal. -/
def Numeral.text : Numeral → String
  | some b => (BinaryFormat.double.shortest b).positional
  | none => "inf"

/-- One token. -/
inductive Token where
  | name (word : String)
  | int (value : Nat)
  | float (value : Numeral)
  | imaginary (value : Numeral)
  | string (body : String) (kind : StringKind) (triple : Bool)
  | newline
  | indent
  | dedent
  | keyword (word : Keyword)
  | symbol (sign : Symbol)
  deriving DecidableEq, Repr

/-- The token as a message shows it. -/
def Token.text : Token → String
  | name word => "'" ++ word ++ "'"
  | int value => "'" ++ toString value ++ "'"
  | float value => "'" ++ Numeral.text value ++ "'"
  | imaginary value => "0j" ++ Numeral.text value
  | string body kind triple =>
    let quotes := if triple then "\"\"\"" else "\""
    kind.text ++ quotes ++ body ++ quotes
  | newline => "Newline"
  | indent => "Indent"
  | dedent => "Dedent"
  | keyword word => "'" ++ word.text ++ "'"
  | symbol sign => "'" ++ sign.text ++ "'"

/-- A token with the byte offsets where it starts and ends. -/
structure Located where
  token : Token
  start : Nat
  stop : Nat
  deriving DecidableEq, Repr

end SceneRender.Script
