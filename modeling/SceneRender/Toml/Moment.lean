/-!
# Dates and times

A date is `YYYY-MM-DD`, a time is `HH:MM` with seconds and a fraction of them if
wanted, and a date with a time may end in an offset.  The parts are found first,
then their lengths are checked, then their ranges; the first complaint is kept.
-/

namespace SceneRender.Toml

/-- A part of a date or a time as it is written: a run of digits, or one mark. -/
inductive MomentPart where
  | digits (text : List Char)
  | mark (c : Char)
  deriving DecidableEq, Repr

/-- What is wrong with a date or a time: the thing that is broken, and what was
expected of it. -/
structure MomentFlaw where
  subject : String
  expected : Option String
  deriving DecidableEq, Repr

namespace MomentPart

/-- The parts of a text; the marks `T` and `Z` may be small letters. -/
def ofText (cs : List Char) : List MomentPart :=
  cs.foldr
    (fun c parts =>
      if c.isDigit then
        match parts with
        | .digits ds :: rest => .digits (c :: ds) :: rest
        | parts => .digits [c] :: parts
      else if c == 't' || c == 'z' then .mark c.toUpper :: parts
      else .mark c :: parts)
    []

/-- Takes a run of digits. -/
def takeDigits (subject expected : String) :
    List MomentPart → Except MomentFlaw (List Char × List MomentPart)
  | .digits ds :: rest => .ok (ds, rest)
  | _ => .error ⟨subject, some expected⟩

/-- Takes a mark. -/
def takeMark (c : Char) (subject expected : String) :
    List MomentPart → Except MomentFlaw (List MomentPart)
  | .mark d :: rest => if d == c then .ok rest else .error ⟨subject, some expected⟩
  | _ => .error ⟨subject, some expected⟩

end MomentPart

open MomentPart

/-- Requires a condition of a part. -/
def demand (subject expected : String) (holds : Bool) : Except MomentFlaw Unit :=
  if holds then .ok () else .error ⟨subject, some expected⟩

/-- The number that digits spell. -/
def digitsNumber (ds : List Char) : Nat :=
  ds.foldl (fun n c => n * 10 + (c.toNat - '0'.toNat)) 0

/-- The number of days of a month. -/
def daysInMonth (year month : Nat) : Nat :=
  if month == 2 then
    if year % 4 == 0 && (year % 100 != 0 || year % 400 == 0) then 29 else 28
  else if month == 4 || month == 6 || month == 9 || month == 11 then 30
  else 31

/-- Reads a date after its year and the mark that follows. -/
def checkDate (year : List Char) (parts : List MomentPart) :
    Except MomentFlaw (List MomentPart) := do
  let (month, parts) ← takeDigits "date" "month" parts
  let parts ← takeMark '-' "date" "`-` (MM-DD)" parts
  let (day, parts) ← takeDigits "date" "day" parts
  demand "date" "a four-digit year (YYYY)" (year.length == 4)
  demand "date" "a two-digit month (MM)" (month.length == 2)
  demand "date" "a two-digit day (DD)" (day.length == 2)
  let m := digitsNumber month
  let d := digitsNumber day
  demand "date" "month between 01 and 12" (1 ≤ m && m ≤ 12)
  let last := daysInMonth (digitsNumber year) m
  demand "date" ("day between 01 and " ++ toString last) (1 ≤ d && d ≤ last)
  return parts

/-- Takes the seconds of a time and a fraction of them, if they are there. -/
def takeSeconds :
    List MomentPart → Except MomentFlaw (Option (List Char) × List MomentPart)
  | .mark ':' :: parts => do
    let (second, parts) ← takeDigits "time" "second" parts
    match parts with
    | .mark '.' :: parts => do
      let (_, parts) ← takeDigits "time" "nanosecond" parts
      return (some second, parts)
    | parts => return (some second, parts)
  | parts => .ok (none, parts)

/-- Reads a time. -/
def checkTime (parts : List MomentPart) : Except MomentFlaw (List MomentPart) := do
  let (hour, parts) ← takeDigits "time" "hour" parts
  let parts ← takeMark ':' "time" "`:` (HH:MM)" parts
  let (minute, parts) ← takeDigits "time" "minute" parts
  let (second, parts) ← takeSeconds parts
  demand "time" "a two-digit hour (HH)" (hour.length == 2)
  demand "time" "a two-digit minute (MM)" (minute.length == 2)
  demand "time" "a two-digit second (SS)" (second.all (·.length == 2))
  demand "time" "hour between 00 and 23" (digitsNumber hour ≤ 23)
  demand "time" "minute between 00 and 59" (digitsNumber minute ≤ 59)
  demand "time" "second between 00 and 60" (second.all (digitsNumber · ≤ 60))
  return parts

/-- Reads an offset, if one is there. -/
def checkOffset : List MomentPart → Except MomentFlaw (List MomentPart)
  | [] => .ok []
  | .mark c :: parts =>
    if c == 'Z' then .ok parts
    else if c == '+' || c == '-' then do
      let (hours, parts) ← takeDigits "offset" "hour" parts
      let parts ← takeMark ':' "offset" "`:` (HH:MM)" parts
      let (minutes, parts) ← takeDigits "offset" "minute" parts
      demand "offset" "a two-digit hour (HH)" (hours.length == 2)
      demand "offset" "a two-digit minute (MM)" (minutes.length == 2)
      demand "offset" "hours between 00 and 23" (digitsNumber hours ≤ 23)
      demand "offset" "minutes between 00 and 59" (digitsNumber minutes ≤ 59)
      return parts
    else .error ⟨"offset", some "`Z`, +OFFSET, -OFFSET"⟩
  | _ => .error ⟨"offset", some "`Z`, +OFFSET, -OFFSET"⟩

/-- Requires that nothing is left. -/
def checkRest (parts : List MomentPart) : Except MomentFlaw Unit :=
  if parts.isEmpty then .ok () else .error ⟨"datetime", none⟩

/-- Checks the text of a date, of a time, or of both with an offset. -/
def checkMoment (text : List Char) : Except MomentFlaw Unit := do
  let parts := MomentPart.ofText text
  let separator := "`-` (YYYY-MM) or `:` (HH:MM)"
  let (first, rest) ← takeDigits "datetime" "year or hour" parts
  match rest with
  | .mark '-' :: rest =>
    match ← checkDate first rest with
    | [] => return
    | .mark c :: rest =>
      demand "date-time" "`T` between date and time" (c == 'T' || c == ' ')
      checkRest (← checkOffset (← checkTime rest))
    | _ => demand "date-time" "`T` between date and time" false
  | .mark ':' :: _ => checkRest (← checkTime parts)
  | _ => demand "datetime" separator false

end SceneRender.Toml
