import Mathlib.Tactic.IntervalCases
import Mathlib.Tactic.Ring
import SceneRender.Job.Timestamp

/-!
# The calendar

Years are counted from March on in eras of 400 years, which all have the same number of
days.  A day of an era is split once into centuries, spans of four years, years and days
(`exists_split`); the parts say in which year of the era the day lies and which day of
that year it is.  From this, counting days to a date and back comes to where it began
(`daysOfDate_dateOfDays`), and what comes out on the way is a date that the calendar has
(`isDate_dateOfDays`).
-/

namespace SceneRender.Timestamp

/-! ## Days of an era -/

/-- The year of an era in which a day of the era lies. -/
def yearOfEra (day : Nat) : Nat := (day - day / 1460 + day / 36524 - day / 146096) / 365

/-- The first day of a year of an era. -/
def firstOfYear (year : Nat) : Nat := 365 * year + year / 4 - year / 100

/-- A day of an era, split into centuries, spans of four years, years and days.  Only the
last year of a span has 366 days, and the last span of a century only at the end of the
era. -/
structure Split (day century span year rest : Nat) : Prop where
  sum : day = 36524 * century + 1461 * span + 365 * year + rest
  century_le : century ≤ 3
  span_le : span ≤ 24
  year_le : year ≤ 3
  rest_le : rest ≤ 365
  leap : rest = 365 → year = 3 ∧ (span = 24 → century = 3)

/-- Every day of an era lies in some century, span and year of it. -/
theorem exists_split {day : Nat} (h : day < 146097) :
    ∃ century span year rest, Split day century span year rest := by
  obtain ⟨c, r, hday, hc, hr, hlast⟩ : ∃ c r, day = 36524 * c + r ∧ c ≤ 3 ∧ r ≤ 36524 ∧
      (r = 36524 → c = 3) := by
    by_cases hend : day = 146096
    · exact ⟨3, 36524, by omega, by omega, by omega, by omega⟩
    · exact ⟨day / 36524, day % 36524, by omega, by omega, by omega, by omega⟩
  obtain ⟨y, u, hspan, hy, hu, hleap⟩ : ∃ y u, r % 1461 = 365 * y + u ∧ y ≤ 3 ∧ u ≤ 365 ∧
      (u = 365 → y = 3 ∧ r % 1461 = 1460) := by
    by_cases hend : r % 1461 = 1460
    · exact ⟨3, 365, by omega, by omega, by omega, by omega⟩
    · exact ⟨r % 1461 / 365, r % 1461 % 365, by omega, by omega, by omega, by omega⟩
  exact ⟨c, r / 1461, y, u, ⟨by omega, hc, by omega, hy, hu, by omega⟩⟩

namespace Split

variable {day c q y u : Nat}

/-- The quotients of a day count the leap days before it; on a leap day they count that
day too, or nothing more than it. -/
theorem quotients (h : Split day c q y u) : ∃ d e f, day / 1460 = 25 * c + q + d ∧
    day / 36524 = c + e ∧ day / 146096 = f ∧ d + f ≤ u + e ∧ u + e < 365 + d + f := by
  obtain ⟨hsum, hc, hq, hy, hu, hleap⟩ := h
  have hspans : day / 1460 = 25 * c + q + (24 * c + q + 365 * y + u) / 1460 := by omega
  have hcentury : day / 36524 = c + (1461 * q + 365 * y + u) / 36524 := by omega
  refine ⟨_, _, _, hspans, hcentury, rfl, ?_⟩
  by_cases hu : u = 365
  · obtain ⟨rfl, hend⟩ := hleap hu
    have hd : (24 * c + q + 365 * 3 + u) / 1460 = 1 := by omega
    rw [hd]
    by_cases hq : q = 24
    · have hf : day / 146096 = 1 := by omega
      have he : (1461 * q + 365 * 3 + u) / 36524 = 1 := by omega
      omega
    · have hf : day / 146096 = 0 := by omega
      have he : (1461 * q + 365 * 3 + u) / 36524 = 0 := by omega
      omega
  · have hf : day / 146096 = 0 := by omega
    have he : (1461 * q + 365 * y + u) / 36524 = 0 := by omega
    rw [hf, he]
    by_cases hd : 1460 ≤ 24 * c + q + 365 * y + u
    · have hd : (24 * c + q + 365 * y + u) / 1460 = 1 := by omega
      omega
    · have hd : (24 * c + q + 365 * y + u) / 1460 = 0 := by omega
      omega

/-- The parts tell the year. -/
theorem yearOfEra_eq (h : Split day c q y u) : yearOfEra day = 100 * c + 4 * q + y := by
  obtain ⟨d, e, f, hspans, hcentury, hera, hlow, hhigh⟩ := h.quotients
  have hsum := h.sum
  have hrest : day - day / 1460 + day / 36524 - day / 146096 =
      365 * (100 * c + 4 * q + y) + (u + e - (d + f)) := by
    rw [hspans, hcentury, hera]
    omega
  rw [yearOfEra, hrest]
  omega

/-- An era has no more than four hundred years. -/
theorem yearOfEra_le (h : Split day c q y u) : yearOfEra day ≤ 399 := by
  rw [h.yearOfEra_eq]
  obtain ⟨-, hc, hq, hy, -, -⟩ := h
  omega

/-- The parts tell the day of the year. -/
theorem firstOfYear_add (h : Split day c q y u) :
    firstOfYear (yearOfEra day) + u = day := by
  rw [h.yearOfEra_eq]
  obtain ⟨hsum, hc, hq, hy, hu, hleap⟩ := h
  unfold firstOfYear
  omega

/-- A day in the year's last month, February, that other years do not have. -/
theorem isLeapYear_of_rest (h : Split day c q y u) (era : Int) (hu : u = 365) :
    isLeapYear (yearOfEra day + era * 400 + 1) = true := by
  rw [h.yearOfEra_eq]
  obtain ⟨hsum, hc, hq, hy, hrest, hleap⟩ := h
  have hparts := hleap hu
  simp only [isLeapYear, Bool.or_eq_true, Bool.and_eq_true, beq_iff_eq, bne_iff_ne]
  omega

end Split

/-! ## Days and dates -/

/-- The month, from March on, in which a day of the year lies. -/
def monthOfYear (day : Nat) : Nat := (5 * day + 2) / 153

/-- The first day of a month of the year. -/
def firstOfMonth (month : Nat) : Nat := (153 * month + 2) / 5

/-- The number of a month that is counted from March on. -/
def monthNumber (month : Nat) : Nat := if month < 10 then month + 3 else month - 9

/-- A month begins no later than its days. -/
theorem firstOfMonth_le (day : Nat) : firstOfMonth (monthOfYear day) ≤ day := by
  unfold firstOfMonth monthOfYear
  omega

/-- A year has no more than twelve months. -/
theorem monthOfYear_le {day : Nat} (h : day ≤ 365) : monthOfYear day ≤ 11 := by
  unfold monthOfYear
  omega

/-- Every day has an era. -/
theorem exists_era (days : Int) : ∃ (era : Int) (day : Nat),
    days + 719468 = 146097 * era + day ∧ day < 146097 :=
  ⟨(days + 719468) / 146097, ((days + 719468) % 146097).toNat, by omega, by omega⟩

/-- The date of a day, by its era, its year and its day in the year. -/
theorem dateOfDays_eq {days era : Int} {day rest : Nat}
    (hera : days + 719468 = 146097 * era + day) (hday : day < 146097)
    (hrest : firstOfYear (yearOfEra day) + rest = day) :
    dateOfDays days =
      let month := monthNumber (monthOfYear rest)
      let year := (yearOfEra day : Int) + era * 400
      (if month ≤ 2 then year + 1 else year, month,
        rest - firstOfMonth (monthOfYear rest) + 1) := by
  have hdiv : Int.fdiv (days + 719468) 146097 = era := by
    rw [Int.fdiv_eq_ediv_of_nonneg _ (by omega)]
    omega
  have hmod : (days + 719468 - era * 146097).toNat = day := by omega
  have hsub : day - firstOfYear (yearOfEra day) = rest := by omega
  have hstart : dateOfDays days =
      let month := monthNumber (monthOfYear (day - firstOfYear (yearOfEra day)))
      let year := (yearOfEra day : Int) + era * 400
      (if month ≤ 2 then year + 1 else year, month, day - firstOfYear (yearOfEra day) -
        firstOfMonth (monthOfYear (day - firstOfYear (yearOfEra day))) + 1) := by
    simp only [dateOfDays, hdiv, hmod]
    rfl
  rw [hstart, hsub]

/-- The days before a year that begins in March. -/
theorem daysBeforeYear (era : Int) (year : Nat) (h : year ≤ 399) :
    365 * (year + era * 400) + Int.fdiv (year + era * 400) 4 - Int.fdiv (year + era * 400) 100 +
      Int.fdiv (year + era * 400) 400 = 146097 * era + firstOfYear year := by
  rw [Int.fdiv_eq_ediv_of_nonneg _ (by decide), Int.fdiv_eq_ediv_of_nonneg _ (by decide),
    Int.fdiv_eq_ediv_of_nonneg _ (by decide)]
  have hfourth : ((year : Int) + era * 400) / 4 = (year / 4 : Nat) + 100 * era := by omega
  have hcentury : ((year : Int) + era * 400) / 100 = (year / 100 : Nat) + 4 * era := by omega
  have hera : ((year : Int) + era * 400) / 400 = era := by omega
  have hfirst : (firstOfYear year : Int) = 365 * year + (year / 4 : Nat) - (year / 100 : Nat) := by
    unfold firstOfYear
    omega
  rw [hfourth, hcentury, hera, hfirst]
  ring

/-- The days to a date whose year and month are counted from March on. -/
theorem daysOfDate_march (year : Int) {month : Nat} (day : Nat) (h : month ≤ 11) :
    daysOfDate (if monthNumber month ≤ 2 then year + 1 else year) (monthNumber month) day =
      365 * year + Int.fdiv year 4 - Int.fdiv year 100 + Int.fdiv year 400 +
        firstOfMonth month + ((day : Int) - 1) - 719468 := by
  have hmonth : (monthNumber month + 9) % 12 = month := by
    unfold monthNumber
    split <;> omega
  have hyear : (if monthNumber month ≤ 2 then
      (if monthNumber month ≤ 2 then year + 1 else year) - 1
      else if monthNumber month ≤ 2 then year + 1 else year) = year := by
    split <;> simp
  simp only [daysOfDate, hmonth, hyear]
  rfl

/-- **Counting days to a date and back.** -/
theorem daysOfDate_dateOfDays (days : Int) :
    daysOfDate (dateOfDays days).1 (dateOfDays days).2.1 (dateOfDays days).2.2 = days := by
  obtain ⟨era, day, hera, hday⟩ := exists_era days
  obtain ⟨c, q, y, u, hsplit⟩ := exists_split hday
  have hfirst := hsplit.firstOfYear_add
  rw [dateOfDays_eq hera hday hfirst, daysOfDate_march _ _ (monthOfYear_le hsplit.rest_le),
    daysBeforeYear _ _ hsplit.yearOfEra_le]
  have hle := firstOfMonth_le u
  dsimp only
  omega

/-- A month other than February reaches to the next one. -/
theorem daysInMonth_march (year : Int) {month : Nat} (h : month ≤ 10) :
    daysInMonth year (monthNumber month) = firstOfMonth (month + 1) - firstOfMonth month := by
  interval_cases month <;> rfl

/-- The next month begins after the day. -/
theorem lt_firstOfMonth (day : Nat) : day < firstOfMonth (monthOfYear day + 1) := by
  unfold firstOfMonth monthOfYear
  omega

/-- **The calendar has every date that is counted to.** -/
theorem isDate_dateOfDays (days : Int) :
    isDate (dateOfDays days).1 (dateOfDays days).2.1 (dateOfDays days).2.2 = true := by
  obtain ⟨era, day, hera, hday⟩ := exists_era days
  obtain ⟨c, q, y, u, hsplit⟩ := exists_split hday
  rw [dateOfDays_eq hera hday hsplit.firstOfYear_add]
  have hle := firstOfMonth_le u
  have hlt := lt_firstOfMonth u
  have hmonth := monthOfYear_le hsplit.rest_le
  have hnumber : 1 ≤ monthNumber (monthOfYear u) ∧ monthNumber (monthOfYear u) ≤ 12 := by
    unfold monthNumber
    split <;> omega
  simp only [isDate, Bool.and_eq_true, decide_eq_true_eq]
  refine ⟨⟨hnumber, by omega⟩, ?_⟩
  by_cases hfebruary : monthOfYear u ≤ 10
  · rw [daysInMonth_march _ hfebruary]
    omega
  · have hlast : monthOfYear u = 11 := by omega
    have hu := hsplit.rest_le
    rw [hlast] at hle ⊢
    have hfirst : firstOfMonth 11 = 337 := rfl
    have hnumber : monthNumber 11 = 2 := rfl
    simp only [hnumber, daysInMonth, hfirst, Nat.le_refl, if_true]
    -- a day more than other years have is the leap day
    by_cases hday : u = 365
    · rw [if_pos (hsplit.isLeapYear_of_rest era hday)]
      omega
    · split <;> omega

end SceneRender.Timestamp
