import SceneRender.Json.Value

/-!
# Writing JSON

The compact form, without any blank, and the indented form, two blanks a level.
A quote, a backslash and the control characters below U+0020 are escaped, those
with a letter of their own by it; nothing else is.  A double is written with the
fewest digits that read back, positionally while its point stands among the
first sixteen digits or up to four places before them, and otherwise with an
exponent of a sign and at least two digits.
-/

namespace SceneRender.Json

open SceneRender.Text

/-- The lower case hexadecimal digit of a number below sixteen. -/
def hexDigit (n : Nat) : Char := Nat.digitChar n

/-- A character as it stands between quotes. -/
def escapeChar (c : Char) : List Char :=
  match c with
  | '"' => ['\\', '"']
  | '\\' => ['\\', '\\']
  | '\n' => ['\\', 'n']
  | '\r' => ['\\', 'r']
  | '\t' => ['\\', 't']
  | c =>
    if c.toNat == 8 then ['\\', 'b']
    else if c.toNat == 12 then ['\\', 'f']
    else if c.toNat < 32 then
      ['\\', 'u', '0', '0', hexDigit (c.toNat / 16), hexDigit (c.toNat % 16)]
    else [c]

/-- A text between quotes. -/
def quote (s : String) : String :=
  String.ofList ('"' :: s.toList.flatMap escapeChar ++ ['"'])

/-- A decimal in the notation of doubles: positional for a point close to the
digits, with an exponent otherwise. -/
def printDecimal (d : Decimal) : String :=
  let digits := Nat.toDigits 10 d.digits
  let count := digits.length
  -- where the point stands, counted from the first digit
  let point : Int := (count : Int) + d.exponent
  if 0 ≤ d.exponent && point ≤ 16 then d.positional ++ ".0"
  else if -4 < point && point ≤ 16 then d.positional
  else
    let power := Nat.toDigits 10 (point - 1).natAbs
    let exponent := (if point < 1 then "e-" else "e+") ++
      String.ofList (List.replicate (2 - power.length) '0' ++ power)
    match digits with
    | [] => exponent
    | [lead] => lead.toString ++ exponent
    | lead :: rest => lead.toString ++ "." ++ String.ofList rest ++ exponent

/-- The magnitude of a double with its sign. -/
def printReal (isNegative : Bool) (magnitude : Binary) : String :=
  (if isNegative then "-" else "") ++
    if magnitude.mantissa == 0 then "0.0" else printDecimal (BinaryFormat.double.shortest magnitude)

/-- A number as it is written. -/
def Number.print : Number → String
  | natural n => toString n
  | negative n => "-" ++ toString n
  | real isNegative magnitude => printReal isNegative magnitude

mutual

/-- The compact form of a value. -/
def Value.compact : Value → String
  | .null => "null"
  | .flag true => "true"
  | .flag false => "false"
  | .number n => n.print
  | .text s => quote s
  | .list items => "[" ++ ",".intercalate (compactItems items) ++ "]"
  | .record fields => "\x7b" ++ ",".intercalate (compactFields fields) ++ "\x7d"

/-- The compact forms of the items of a list. -/
def Value.compactItems : List Value → List String
  | [] => []
  | v :: rest => v.compact :: Value.compactItems rest

/-- The compact forms of the fields of a record. -/
def Value.compactFields : List (String × Value) → List String
  | [] => []
  | (name, v) :: rest => (quote name ++ ":" ++ v.compact) :: Value.compactFields rest

end

/-- Lines between two brackets, one level deeper than the brackets. -/
def bracketed (indent opening closing : String) (lines : List String) : String :=
  if lines.isEmpty then opening ++ closing
  else
    opening ++ "\n" ++ ",\n".intercalate (lines.map (indent ++ "  " ++ ·)) ++ "\n" ++ indent ++
      closing

mutual

/-- The indented form of a value whose first line is already placed. -/
def Value.indented (indent : String) : Value → String
  | .list items => bracketed indent "[" "]" (Value.indentedItems (indent ++ "  ") items)
  | .record fields =>
    bracketed indent "\x7b" "\x7d" (Value.indentedFields (indent ++ "  ") fields)
  | v => v.compact

/-- The indented forms of the items of a list. -/
def Value.indentedItems (indent : String) : List Value → List String
  | [] => []
  | v :: rest => v.indented indent :: Value.indentedItems indent rest

/-- The indented forms of the fields of a record. -/
def Value.indentedFields (indent : String) : List (String × Value) → List String
  | [] => []
  | (name, v) :: rest =>
    (quote name ++ ": " ++ v.indented indent) :: Value.indentedFields indent rest

end

/-- The indented form of a document. -/
def Value.pretty (v : Value) : String := v.indented ""

end SceneRender.Json
