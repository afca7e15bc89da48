import SceneRender.Text.Blank

/-!
# Timestamps

A moment is a count of seconds since the beginning of 1970 in universal time and
a fraction in nanoseconds.  A fraction of one second or more marks a leap
second: the moment then lies in the second after the one counted.

The written form is `YYYY-MM-DDThh:mm:ss`, a fraction of three, six or nine
digits unless it is zero, and an offset.  Reading accepts any offset below a
day, a blank or a lower case letter between date and time, and any number of
digits in the fraction, of which nine count.
-/

namespace SceneRender

/-- A moment. -/
structure Timestamp where
  seconds : Int
  nanos : Nat
  deriving DecidableEq, Repr, Inhabited

namespace Timestamp

/-- The beginning of 1970. -/
def epoch : Timestamp := ⟨0, 0⟩

/-- Is one moment no later than another? -/
def notAfter (a b : Timestamp) : Bool :=
  a.seconds < b.seconds || (a.seconds == b.seconds && a.nanos ≤ b.nanos)

/-! ## The calendar -/

/-- Has the year a 29th of February? -/
def isLeapYear (year : Int) : Bool :=
  (year % 4 == 0 && year % 100 != 0) || year % 400 == 0

/-- The number of days of a month. -/
def daysInMonth (year : Int) (month : Nat) : Nat :=
  match month with
  | 2 => if isLeapYear year then 29 else 28
  | 4 | 6 | 9 | 11 => 30
  | _ => 31

/-- The days from the beginning of 1970 to a date.  Years are counted from March
on, so that a leap day is the last of its year. -/
def daysOfDate (year : Int) (month day : Nat) : Int :=
  let y := if month ≤ 2 then year - 1 else year
  let m : Int := ((month + 9) % 12 : Nat)
  365 * y + Int.fdiv y 4 - Int.fdiv y 100 + Int.fdiv y 400 + (153 * m + 2) / 5 +
    ((day : Int) - 1) - 719468

/-- The date that lies a number of days after the beginning of 1970. -/
def dateOfDays (days : Int) : Int × Nat × Nat :=
  let z := days + 719468
  let era := Int.fdiv z 146097
  let dayOfEra := (z - era * 146097).toNat
  let yearOfEra := (dayOfEra - dayOfEra / 1460 + dayOfEra / 36524 - dayOfEra / 146096) / 365
  let dayOfYear := dayOfEra - (365 * yearOfEra + yearOfEra / 4 - yearOfEra / 100)
  let m := (5 * dayOfYear + 2) / 153
  let day := dayOfYear - (153 * m + 2) / 5 + 1
  let month := if m < 10 then m + 3 else m - 9
  let year := (yearOfEra : Int) + era * 400
  (if month ≤ 2 then year + 1 else year, month, day)

/-! ## Writing -/

/-- A number with zeros before it up to a width. -/
def padded (width n : Nat) : String :=
  let digits := Nat.toDigits 10 n
  String.ofList (List.replicate (width - digits.length) '0' ++ digits)

/-- A year: four digits, and a sign if that is not enough. -/
def yearText (year : Int) : String :=
  if 0 ≤ year && year ≤ 9999 then padded 4 year.toNat
  else (if year < 0 then "-" else "+") ++ padded 4 year.natAbs

/-- A fraction of a second in as few groups of three digits as it needs. -/
def fractionText (nanos : Nat) : String :=
  if nanos == 0 then ""
  else if nanos % 1000000 == 0 then "." ++ padded 3 (nanos / 1000000)
  else if nanos % 1000 == 0 then "." ++ padded 6 (nanos / 1000)
  else "." ++ padded 9 nanos

/-- The written form in universal time with the given mark for the offset. -/
def written (zone : String) (t : Timestamp) : String :=
  let days := Int.fdiv t.seconds 86400
  let second := (t.seconds - days * 86400).toNat
  let (year, month, day) := dateOfDays days
  let leap := t.nanos / 1000000000
  yearText year ++ "-" ++ padded 2 month ++ "-" ++ padded 2 day ++ "T" ++
    padded 2 (second / 3600) ++ ":" ++ padded 2 (second / 60 % 60) ++ ":" ++
    padded 2 (second % 60 + leap) ++ fractionText (t.nanos % 1000000000) ++ zone

/-- The form that is stored. -/
def stored (t : Timestamp) : String := t.written "+00:00"

/-- The form that is sent. -/
def sent (t : Timestamp) : String := t.written "Z"

/-! ## Reading -/

/-- Why a text is no timestamp. -/
inductive Fault where
  | tooShort
  | invalid
  | outOfRange
  | tooLong
  deriving DecidableEq, Repr

/-- The wording of a fault. -/
def Fault.message : Fault → String
  | tooShort => "premature end of input"
  | invalid => "input contains invalid characters"
  | outOfRange => "input is out of range"
  | tooLong => "trailing input"

/-- A step of reading: a value and the characters after it. -/
abbrev Scan (α : Type) := Except Fault (α × List Char)

/-- The value of a run of digits. -/
def digitsValue (cs : List Char) : Nat :=
  cs.foldl (fun n c => n * 10 + (c.toNat - '0'.toNat)) 0

/-- The number of bytes of a character list. -/
def byteCount (cs : List Char) : Nat := cs.foldl (fun n c => n + c.utf8Size) 0

/-- Reads a number of exactly so many digits. -/
def scanDigits (count : Nat) (cs : List Char) : Scan Nat :=
  if byteCount cs < count then .error .tooShort
  else
    let digits := (cs.take count).takeWhile Char.isDigit
    if digits.length < count then .error .invalid
    else .ok (digitsValue digits, cs.drop count)

/-- Takes one of the given characters. -/
def scanMark (marks : List Char) : List Char → Except Fault (List Char)
  | [] => .error .tooShort
  | c :: rest => if marks.contains c then .ok rest else .error .invalid

/-- Reads the fraction of a second, if there is one. -/
def scanFraction : List Char → Scan Nat
  | '.' :: rest =>
    match rest with
    | [] => .error .tooShort
    | c :: _ =>
      if !c.isDigit then .error .invalid
      else
        let digits := (rest.takeWhile Char.isDigit).take 9
        .ok (digitsValue digits * Nat.pow 10 (9 - digits.length), rest.dropWhile Char.isDigit)
  | rest => .ok (0, rest)

/-- Reads the minutes of an offset. -/
def scanOffsetMinutes (cs : List Char) : Scan Nat :=
  if byteCount cs < 2 then .error .tooShort
  else
    match cs with
    | a :: b :: rest =>
      if a.isDigit && b.isDigit then
        if a ≤ '5' then .ok (digitsValue [a, b], rest) else .error .outOfRange
      else .error .invalid
    | _ => .error .invalid

/-- Reads an offset from universal time, in seconds. -/
def scanOffset : List Char → Scan Int
  | [] => .error .tooShort
  | c :: rest =>
    if c == 'Z' || c == 'z' then .ok (0, rest)
    else if c == '+' || c == '-' || c == '−' then
      match scanDigits 2 rest with
      | .error e => .error e
      | .ok (hours, rest) =>
        match scanMark [':'] rest with
        | .error e => .error e
        | .ok rest =>
          match scanOffsetMinutes rest with
          | .error e => .error e
          | .ok (minutes, rest) =>
            let offset : Int := (hours * 60 + minutes) * 60
            if offset > 86340 then .error .outOfRange
            else .ok (if c == '+' then offset else -offset, rest)
    else .error .invalid

/-- The moment of a date and a time with an offset; the second 60 is a leap second. -/
def ofParts (year : Int) (month day hour minute second fraction : Nat) (offset : Int) :
    Timestamp :=
  let leap := if second == 60 then 1 else 0
  let seconds := daysOfDate year month day * 86400 +
    ((hour * 3600 + minute * 60 + (second - leap) : Nat) : Int) - offset
  ⟨seconds, fraction + leap * 1000000000⟩

/-- Has the calendar this date? -/
def isDate (year : Int) (month day : Nat) : Bool :=
  1 ≤ month && month ≤ 12 && 1 ≤ day && day ≤ daysInMonth year month

/-- Has the clock this time? -/
def isTime (hour minute second : Nat) : Bool := hour ≤ 23 && minute ≤ 59 && second ≤ 60

/-- The number of bytes that a date and a time without a fraction have. -/
def shortestLength : Nat := 19

/-- Reads a timestamp.  A date that the calendar does not have is refused before its
time is read, a time that the clock does not have after its fraction. -/
def ofString (s : String) : Except Fault Timestamp := do
  let cs := s.toList
  if byteCount cs < shortestLength then throw .tooShort
  let (year, cs) ← scanDigits 4 cs
  let cs ← scanMark ['-'] cs
  let (month, cs) ← scanDigits 2 cs
  let cs ← scanMark ['-'] cs
  let (day, cs) ← scanDigits 2 cs
  if !isDate year month day then throw .outOfRange
  let cs ← scanMark ['t', 'T', ' '] cs
  let (hour, cs) ← scanDigits 2 cs
  let cs ← scanMark [':'] cs
  let (minute, cs) ← scanDigits 2 cs
  let cs ← scanMark [':'] cs
  let (second, cs) ← scanDigits 2 cs
  let (fraction, cs) ← scanFraction cs
  if !isTime hour minute second then throw .outOfRange
  let (offset, cs) ← scanOffset cs
  if !cs.isEmpty then throw .tooLong
  return ofParts year month day hour minute second fraction offset

/-! ## Loose reading -/

/-- Takes a number of at most so many digits, after blanks. -/
def looseNumber? (most : Nat) (cs : List Char) : Option (Nat × List Char) :=
  let cs := cs.dropWhile Text.isBlank
  let digits := (cs.take most).takeWhile Char.isDigit
  if digits.isEmpty then none else some (digitsValue digits, cs.drop digits.length)

/-- Takes a year: after a sign it may have any number of digits. -/
def looseYear? (cs : List Char) : Option (Int × List Char) :=
  match cs.dropWhile Text.isBlank with
  | '-' :: rest => signed (-1) rest
  | '+' :: rest => signed 1 rest
  | rest => (looseNumber? 4 rest).map fun (n, rest) => ((n : Int), rest)
where
  /-- Takes the digits behind a sign. -/
  signed (sign : Int) (rest : List Char) : Option (Int × List Char) :=
    let digits := rest.takeWhile Char.isDigit
    if digits.isEmpty then none
    else some (sign * digitsValue digits, rest.drop digits.length)

/-- Takes a mark, after blanks. -/
def looseMark? (c : Char) (cs : List Char) : Option (List Char) :=
  match cs.dropWhile Text.isBlank with
  | d :: rest => if d == c then some rest else none
  | [] => none

/-- Takes an offset: `UTC`, or one with anything between hours and minutes. -/
def looseOffset? (cs : List Char) : Option (Int × List Char) :=
  match cs.dropWhile Text.isBlank with
  | u :: t :: c :: rest =>
    if [u.toUpper, t.toUpper, c.toUpper] == ['U', 'T', 'C'] then some (0, rest)
    else
      let rest := c :: rest
      let hours := t :: rest.take 1
      let sign := u == '+' || u == '-' || u == '−'
      if u == 'Z' || u == 'z' then some (0, t :: rest)
      else if sign && hours.all Char.isDigit then
        let minutes := (rest.drop 1).dropWhile fun c => c == ':' || Text.isBlank c
        (scanOffset (u :: hours ++ ':' :: minutes)).toOption
      else none
  | rest => (scanOffset rest).toOption

/-- Reads a timestamp as a job brings it along: numbers may lack zeros in front, blanks
may stand between the parts, and the year may have a sign. -/
def ofLooseText? (s : String) : Option Timestamp := do
  let (year, cs) ← looseYear? s.toList
  let cs ← looseMark? '-' cs
  let (month, cs) ← looseNumber? 2 cs
  let cs ← looseMark? '-' cs
  let (day, cs) ← looseNumber? 2 cs
  let cs ← (scanMark ['t', 'T', ' '] cs).toOption
  let (hour, cs) ← looseNumber? 2 cs
  let cs ← looseMark? ':' cs
  let (minute, cs) ← looseNumber? 2 cs
  let cs ← looseMark? ':' cs
  let (second, cs) ← looseNumber? 2 cs
  let (fraction, cs) ← (scanFraction cs).toOption
  let (offset, cs) ← looseOffset? cs
  if isDate year month day && isTime hour minute second && cs.all Text.isBlank then
    some (ofParts year month day hour minute second fraction offset)
  else none

end Timestamp

end SceneRender
