import Mathlib.Data.List.TakeWhile
import SceneRender.Proofs.Job.Calendar

/-!
# Moments come back from their text

A moment in the years 0 to 9999 is written in four digits for the year and two for each
other part, so that every part is read back where it was written (`scanDigits_padded`,
`scanFraction_fractionText`).  The calendar makes days out of a date and a date out of
days; hence what is stored of a moment is the moment itself, to the nanosecond and leap
seconds included (`ofString_stored`).
-/

namespace SceneRender.Timestamp

/-- The year in which a moment lies. -/
def year (t : Timestamp) : Int := (dateOfDays (Int.fdiv t.seconds 86400)).1

/-- A moment that a clock can show in the years 0 to 9999: the fraction is less than a
second, or that of a leap second, which follows the last second of a minute. -/
structure Clocked (t : Timestamp) : Prop where
  year_nonneg : 0 ≤ t.year
  year_le : t.year ≤ 9999
  nanos : t.nanos < 1000000000 ∨ (t.nanos < 2000000000 ∧ t.seconds % 60 = 59)

instance (t : Timestamp) : Decidable t.Clocked :=
  decidable_of_iff (0 ≤ t.year ∧ t.year ≤ 9999 ∧
      (t.nanos < 1000000000 ∨ (t.nanos < 2000000000 ∧ t.seconds % 60 = 59)))
    ⟨fun h => ⟨h.1, h.2.1, h.2.2⟩, fun h => ⟨h.1, h.2, h.3⟩⟩

/-! ## Numbers of fixed width -/

/-- Digits have the value that the library gives them. -/
theorem digitsValue_eq (cs : List Char) : digitsValue cs = Nat.ofDigitChars 10 cs 0 := by
  unfold digitsValue Nat.ofDigitChars
  simp only [Nat.mul_comm]

/-- A number that is not too long is written in exactly the digits that were asked for. -/
theorem length_padded {width n : Nat} (hwidth : 0 < width) (h : n < 10 ^ width) :
    (padded width n).toList.length = width := by
  have hlength : (Nat.toDigits 10 n).length ≤ width :=
    (Nat.length_toDigits_le_iff (by decide) hwidth).mpr h
  simp only [padded, String.toList_ofList, List.length_append, List.length_replicate]
  omega

/-- A padded number has digits only. -/
theorem isDigit_of_mem_padded {width n : Nat} {c : Char} (h : c ∈ (padded width n).toList) :
    c.isDigit = true := by
  simp only [padded, String.toList_ofList, List.mem_append, List.mem_replicate] at h
  rcases h with ⟨-, rfl⟩ | h
  · rfl
  · exact Nat.isDigit_of_mem_toDigits (by decide) (by decide) h

/-- Padding does not change the value. -/
theorem digitsValue_padded (width n : Nat) : digitsValue (padded width n).toList = n := by
  rw [digitsValue_eq, padded, String.toList_ofList, Nat.ofDigitChars_append,
    Nat.ofDigitChars_replicate_zero, Nat.mul_zero, Nat.ofDigitChars_ten_toDigits]

/-- A text has no more characters than bytes. -/
theorem length_le_byteCount (cs : List Char) : cs.length ≤ byteCount cs := by
  have hfrom : ∀ n, n + cs.length ≤ cs.foldl (fun n c => n + c.utf8Size) n := by
    induction cs with
    | nil => simp
    | cons c cs ih =>
      intro n
      have hpos := Char.utf8Size_pos c
      have hrest := ih (n + c.utf8Size)
      simp only [List.length_cons, List.foldl_cons]
      omega
  simpa [byteCount] using hfrom 0

/-- **A number is read back where it was written.** -/
theorem scanDigits_padded {width n : Nat} (hwidth : 0 < width) (h : n < 10 ^ width)
    (rest : List Char) : scanDigits width ((padded width n).toList ++ rest) = .ok (n, rest) := by
  have hlength := length_padded hwidth h
  have henough : ¬ byteCount ((padded width n).toList ++ rest) < width := by
    have hle := length_le_byteCount ((padded width n).toList ++ rest)
    rw [List.length_append, hlength] at hle
    omega
  have htake : ((padded width n).toList ++ rest).take width = (padded width n).toList :=
    List.take_left' hlength
  have hdigits : (padded width n).toList.takeWhile Char.isDigit = (padded width n).toList :=
    List.takeWhile_eq_self_iff.mpr fun c hc => isDigit_of_mem_padded hc
  have hdrop : ((padded width n).toList ++ rest).drop width = rest := List.drop_left' hlength
  simp only [scanDigits, henough, if_false, htake, hdigits, hlength, Nat.lt_irrefl, hdrop,
    digitsValue_padded]

/-! ## The fraction -/

/-- A fraction in so many digits is read as that many nanoseconds. -/
theorem scanFraction_padded {width n : Nat} (hwidth : 0 < width) (hnine : width ≤ 9)
    (h : n < 10 ^ width) {c : Char} (hc : c.isDigit = false) (rest : List Char) :
    scanFraction ('.' :: (padded width n).toList ++ c :: rest) =
      .ok (n * 10 ^ (9 - width), c :: rest) := by
  have hlength := length_padded hwidth h
  have hdigit : ∀ d ∈ (padded width n).toList, d.isDigit = true := fun d hd =>
    isDigit_of_mem_padded hd
  have htake : ((padded width n).toList ++ c :: rest).takeWhile Char.isDigit =
      (padded width n).toList := by
    rw [List.takeWhile_append_of_pos hdigit]
    simp [hc]
  have hdrop : ((padded width n).toList ++ c :: rest).dropWhile Char.isDigit = c :: rest := by
    rw [List.dropWhile_append_of_pos hdigit]
    simp [hc]
  have hnineTake : (padded width n).toList.take 9 = (padded width n).toList :=
    List.take_of_length_le (by omega)
  have hvalue := digitsValue_padded width n
  generalize (padded width n).toList = ds at *
  cases ds with
  | nil =>
    simp only [List.length_nil] at hlength
    omega
  | cons d ds =>
    have hd := hdigit d List.mem_cons_self
    simp only [List.cons_append] at htake hdrop
    simp only [List.cons_append, scanFraction, hd, Bool.not_true, Bool.false_eq_true, if_false,
      htake, hdrop, hnineTake, hvalue, hlength]
    rfl

/-- **A fraction is read back where it was written**, however many digits it has. -/
theorem scanFraction_fractionText {nanos : Nat} (h : nanos < 1000000000) (rest : List Char) :
    scanFraction ((fractionText nanos).toList ++ '+' :: rest) = .ok (nanos, '+' :: rest) := by
  have hplus : Char.isDigit '+' = false := rfl
  unfold fractionText
  split
  · next hzero =>
    rw [beq_iff_eq.mp hzero]
    rfl
  · split
    · next hmilli =>
      have hmilli := beq_iff_eq.mp hmilli
      have hread := scanFraction_padded (by decide : 0 < 3) (by decide)
        (by omega : nanos / 1000000 < 10 ^ 3) hplus rest
      have hback : nanos / 1000000 * 10 ^ (9 - 3) = nanos := by omega
      rw [hback] at hread
      rw [String.toList_append]
      exact hread
    · split
      · next hmicro =>
        have hmicro := beq_iff_eq.mp hmicro
        have hread := scanFraction_padded (by decide : 0 < 6) (by decide)
          (by omega : nanos / 1000 < 10 ^ 6) hplus rest
        have hback : nanos / 1000 * 10 ^ (9 - 6) = nanos := by omega
        rw [hback] at hread
        rw [String.toList_append]
        exact hread
      · have hread := scanFraction_padded (by decide : 0 < 9) (by decide)
          (by omega : nanos < 10 ^ 9) hplus rest
        rw [Nat.sub_self, Nat.pow_zero, Nat.mul_one] at hread
        rw [String.toList_append]
        exact hread

/-! ## The moment -/

/-- The texts of a date and a time with their marks are read part by part. -/
theorem ofString_parts {year month day hour minute second fraction : Nat} (hyear : year < 10000)
    (hdate : isDate year month day = true) (htime : isTime hour minute second = true)
    (hfraction : fraction < 1000000000) :
    ofString (padded 4 year ++ "-" ++ padded 2 month ++ "-" ++ padded 2 day ++ "T" ++
        padded 2 hour ++ ":" ++ padded 2 minute ++ ":" ++ padded 2 second ++
        fractionText fraction ++ "+00:00") =
      .ok (ofParts year month day hour minute second fraction 0) := by
  have hmonth : month < 10 ^ 2 := by
    simp only [isDate, Bool.and_eq_true, decide_eq_true_eq] at hdate
    omega
  have hday : day < 10 ^ 2 := by
    have hle : daysInMonth year month ≤ 31 := by
      unfold daysInMonth
      split <;> (try split) <;> decide
    simp only [isDate, Bool.and_eq_true, decide_eq_true_eq] at hdate
    omega
  obtain ⟨⟨hhour, hminute⟩, hsecond⟩ : (hour < 10 ^ 2 ∧ minute < 10 ^ 2) ∧ second < 10 ^ 2 := by
    simp only [isTime, Bool.and_eq_true, decide_eq_true_eq] at htime
    omega
  have htext : (padded 4 year ++ "-" ++ padded 2 month ++ "-" ++ padded 2 day ++ "T" ++
        padded 2 hour ++ ":" ++ padded 2 minute ++ ":" ++ padded 2 second ++
        fractionText fraction ++ "+00:00").toList =
      (padded 4 year).toList ++ '-' :: ((padded 2 month).toList ++ '-' ::
        ((padded 2 day).toList ++ 'T' :: ((padded 2 hour).toList ++ ':' ::
          ((padded 2 minute).toList ++ ':' :: ((padded 2 second).toList ++
            ((fractionText fraction).toList ++ '+' :: "00:00".toList)))))) := by
    simp
  generalize padded 4 year ++ "-" ++ padded 2 month ++ "-" ++ padded 2 day ++ "T" ++
    padded 2 hour ++ ":" ++ padded 2 minute ++ ":" ++ padded 2 second ++
    fractionText fraction ++ "+00:00" = text at htext ⊢
  have hlong : ¬ byteCount text.toList < shortestLength := by
    have hle := length_le_byteCount text.toList
    rw [htext] at hle ⊢
    simp only [List.length_append, List.length_cons, length_padded (by decide : 0 < 4) hyear,
      length_padded (by decide : 0 < 2) hmonth, length_padded (by decide : 0 < 2) hday,
      length_padded (by decide : 0 < 2) hhour, length_padded (by decide : 0 < 2) hminute,
      length_padded (by decide : 0 < 2) hsecond] at hle
    unfold shortestLength
    omega
  have hdash : ∀ rest, scanMark ['-'] ('-' :: rest) = .ok rest := fun _ => rfl
  have hcolon : ∀ rest, scanMark [':'] (':' :: rest) = .ok rest := fun _ => rfl
  have htime' : ∀ rest, scanMark ['t', 'T', ' '] ('T' :: rest) = .ok rest := fun _ => rfl
  have hoffset : scanOffset ('+' :: "00:00".toList) = .ok (0, []) := rfl
  simp only [ofString, hlong, if_false]
  simp only [htext, bind, Except.bind, scanDigits_padded (by decide : 0 < 4) hyear, hdash,
    scanDigits_padded (by decide : 0 < 2) hmonth, scanDigits_padded (by decide : 0 < 2) hday,
    hdate, htime', scanDigits_padded (by decide : 0 < 2) hhour, hcolon,
    scanDigits_padded (by decide : 0 < 2) hminute, scanDigits_padded (by decide : 0 < 2) hsecond,
    scanFraction_fractionText hfraction, htime, hoffset]
  rfl

/-- The parts of a moment make the moment; the second 60 is the leap second. -/
theorem ofParts_eq (year : Int) (month day : Nat) {second leap fraction : Nat}
    (hleap : leap = 0 ∨ (leap = 1 ∧ second % 60 = 59)) :
    ofParts year month day (second / 3600) (second / 60 % 60) (second % 60 + leap) fraction 0 =
      ⟨daysOfDate year month day * 86400 + second, fraction + leap * 1000000000⟩ := by
  have hmark : (if second % 60 + leap == 60 then 1 else 0) = leap := by
    rcases hleap with rfl | ⟨rfl, hlast⟩
    · have hless : second % 60 ≠ 60 := by omega
      simp [hless]
    · simp [hlast]
  have hclock : second / 3600 * 3600 + second / 60 % 60 * 60 + (second % 60 + leap - leap) =
      second := by omega
  simp only [ofParts, hmark, hclock, Int.sub_zero]

/-- **What is stored of a moment is the moment.** -/
theorem ofString_stored {t : Timestamp} (h : t.Clocked) : ofString t.stored = .ok t := by
  obtain ⟨hnonneg, hle, hnanos⟩ := h
  have hdays := daysOfDate_dateOfDays (Int.fdiv t.seconds 86400)
  have hdate := isDate_dateOfDays (Int.fdiv t.seconds 86400)
  have hdiv : Int.fdiv t.seconds 86400 = t.seconds / 86400 :=
    Int.fdiv_eq_ediv_of_nonneg _ (by decide)
  unfold year at hnonneg hle
  generalize hcalendar : dateOfDays (Int.fdiv t.seconds 86400) = date at *
  obtain ⟨year, month, day⟩ := date
  obtain ⟨year, rfl⟩ := Int.eq_ofNat_of_zero_le hnonneg
  -- the second of the day, and whether a leap second goes with it
  obtain ⟨second, hsecond⟩ : ∃ s : Nat, t.seconds - t.seconds / 86400 * 86400 = s :=
    ⟨(t.seconds - t.seconds / 86400 * 86400).toNat, by omega⟩
  have hday : second < 86400 := by omega
  have hleap : t.nanos / 1000000000 = 0 ∨
      (t.nanos / 1000000000 = 1 ∧ second % 60 = 59) := by omega
  have htime : isTime (second / 3600) (second / 60 % 60)
      (second % 60 + t.nanos / 1000000000) = true := by
    simp only [isTime, Bool.and_eq_true, decide_eq_true_eq]
    omega
  have hyear : yearText (year : Int) = padded 4 year := by
    unfold yearText
    rw [if_pos (by simpa using hle)]
    rfl
  have hread := ofString_parts (by omega) hdate htime
    (Nat.mod_lt t.nanos (by decide : 0 < 1000000000))
  have hwritten : t.stored = padded 4 year ++ "-" ++ padded 2 month ++ "-" ++ padded 2 day ++ "T" ++
      padded 2 (second / 3600) ++ ":" ++ padded 2 (second / 60 % 60) ++ ":" ++
      padded 2 (second % 60 + t.nanos / 1000000000) ++ fractionText (t.nanos % 1000000000) ++
      "+00:00" := by
    have htoNat : (t.seconds - Int.fdiv t.seconds 86400 * 86400).toNat = second := by
      rw [hdiv, hsecond]
      rfl
    simp only [stored, written, hcalendar, htoNat, hyear]
  rw [hwritten, hread, ofParts_eq _ _ _ hleap]
  have hseconds : daysOfDate year month day * 86400 + second = t.seconds := by
    change daysOfDate (year : Int) month day = _ at hdays
    rw [hdays, hdiv]
    omega
  have hnanos : t.nanos % 1000000000 + t.nanos / 1000000000 * 1000000000 = t.nanos := by omega
  rw [hseconds, hnanos]

end SceneRender.Timestamp
