import SceneRender.Proofs.Job.Records
import SceneRender.Proofs.Job.TimestampText

/-!
# The texts that are moments

`MomentText` says which texts are timestamps, without saying how they are read: a date that the
calendar has and a time that the clock has, in numbers of fixed width, an optional fraction and
an offset of less than a day.  Reading succeeds on these texts and on no others
(`ofString_ok_iff`).  Each part that is read is a piece of the text, so the proof goes part by
part: what a part accepts is one equation about the text (`scanDigits_ok_iff` and its like).
-/

namespace SceneRender.Timestamp

variable {width n : Nat} {cs rest : List Char} {c : Char}

/-! ## The grammar -/

/-- A number of so many digits. -/
structure IsNumber (width : Nat) (cs : List Char) : Prop where
  length : cs.length = width
  digits : ∀ c ∈ cs, c.isDigit = true

/-- The fraction of a second: nothing, or a point and digits. -/
inductive FractionText : List Char → Prop
  | none : FractionText []
  | some {digits : List Char} (hne : digits ≠ []) (hdigits : ∀ c ∈ digits, c.isDigit = true) :
      FractionText ('.' :: digits)

/-- The offset from universal time. -/
inductive OffsetText : List Char → Prop
  | universal {c : Char} (hc : c = 'Z' ∨ c = 'z') : OffsetText [c]
  | signed {sign : Char} {hours minutes : List Char} (hsign : sign = '+' ∨ sign = '-' ∨ sign = '−')
      (hhours : IsNumber 2 hours) (hminutes : IsNumber 2 minutes) (hday : digitsValue hours ≤ 23)
      (hhour : digitsValue minutes ≤ 59) : OffsetText (sign :: (hours ++ ':' :: minutes))

/-- **The text of a moment.**  A small letter or a blank may stand between date and time. -/
inductive MomentText : List Char → Prop
  | mk {year month day hour minute second fraction offset : List Char} {mark : Char}
      (hyear : IsNumber 4 year) (hmonth : IsNumber 2 month) (hday : IsNumber 2 day)
      (hmark : mark = 't' ∨ mark = 'T' ∨ mark = ' ')
      (hhour : IsNumber 2 hour) (hminute : IsNumber 2 minute) (hsecond : IsNumber 2 second)
      (hfraction : FractionText fraction) (hoffset : OffsetText offset)
      (hdate : isDate (digitsValue year) (digitsValue month) (digitsValue day) = true)
      (htime : isTime (digitsValue hour) (digitsValue minute) (digitsValue second) = true) :
      MomentText (year ++ '-' :: (month ++ '-' :: (day ++ mark :: (hour ++ ':' ::
        (minute ++ ':' :: (second ++ (fraction ++ offset)))))))

/-! ## The parts -/

/-- A front has no more characters than the whole has bytes. -/
theorem le_byteCount_append (front rest : List Char) :
    front.length ≤ byteCount (front ++ rest) := by
  have hlength := length_le_byteCount (front ++ rest)
  rw [List.length_append] at hlength
  omega

/-- **What reading a number accepts.** -/
theorem scanDigits_ok_iff :
    scanDigits width cs = .ok (n, rest) ↔
      ∃ digits, IsNumber width digits ∧ cs = digits ++ rest ∧ n = digitsValue digits := by
  constructor
  · intro h
    simp only [scanDigits] at h
    by_cases hshort : byteCount cs < width
    · rw [if_pos hshort] at h
      cases h
    rw [if_neg hshort] at h
    by_cases hfew : ((cs.take width).takeWhile Char.isDigit).length < width
    · rw [if_pos hfew] at h
      cases h
    rw [if_neg hfew] at h
    cases h
    have hprefix : (cs.take width).takeWhile Char.isDigit <+: cs.take width :=
      List.takeWhile_prefix _
    have htake : (cs.take width).length ≤ width := List.length_take_le width cs
    have hall : (cs.take width).takeWhile Char.isDigit = cs.take width :=
      hprefix.eq_of_length_le (by omega)
    refine ⟨cs.take width, ⟨?_, List.takeWhile_eq_self_iff.mp hall⟩,
      (List.take_append_drop width cs).symm, by rw [hall]⟩
    rw [hall] at hfew
    omega
  · rintro ⟨digits, ⟨hlength, hdigits⟩, rfl, rfl⟩
    have henough : ¬ byteCount (digits ++ rest) < width := by
      have hle := le_byteCount_append digits rest
      omega
    have hall : digits.takeWhile Char.isDigit = digits := List.takeWhile_eq_self_iff.mpr hdigits
    simp only [scanDigits]
    rw [if_neg henough, List.take_left' hlength, hall, if_neg (by omega), List.drop_left' hlength]

/-- **What taking a mark accepts.** -/
theorem scanMark_ok_iff {marks : List Char} :
    scanMark marks cs = .ok rest ↔ ∃ c ∈ marks, cs = c :: rest := by
  cases cs with
  | nil => simp [scanMark]
  | cons c cs =>
      simp only [scanMark, List.contains_iff_mem, List.cons.injEq]
      by_cases hmark : c ∈ marks
      · rw [if_pos hmark, Except.ok.injEq]
        constructor
        · rintro rfl
          exact ⟨c, hmark, rfl, rfl⟩
        · rintro ⟨-, -, -, rfl⟩
          rfl
      · rw [if_neg hmark]
        constructor
        · nofun
        · rintro ⟨d, hmem, hc, -⟩
          exact absurd (hc ▸ hmem) hmark

/-- A single mark is scanned where it stands. -/
theorem scanMark_singleton_iff : scanMark [c] cs = .ok rest ↔ cs = c :: rest := by
  simp [scanMark_ok_iff]

/-- No digit and no point begins an offset. -/
theorem OffsetText.head_ne {offset : List Char} (h : OffsetText offset) :
    ∃ c tail, offset = c :: tail ∧ c.isDigit = false ∧ c ≠ '.' := by
  cases h with
  | @universal c hc =>
      refine ⟨c, [], rfl, ?_⟩
      rcases hc with rfl | rfl <;> decide
  | @signed sign hours minutes hsign =>
      refine ⟨sign, _, rfl, ?_⟩
      rcases hsign with rfl | rfl | rfl <;> decide

/-- What is read of a fraction is one. -/
theorem fractionText_of_scan (h : scanFraction cs = .ok (n, rest)) :
    ∃ fraction, FractionText fraction ∧ cs = fraction ++ rest := by
  rw [scanFraction.eq_def] at h
  split at h
  · next digits =>
    cases digits with
    | nil => cases h
    | cons d digits =>
        simp only at h
        split_ifs at h with hdigit
        cases h
        refine ⟨'.' :: (d :: digits).takeWhile Char.isDigit, .some ?_ ?_, ?_⟩
        · simp [show d.isDigit = true by simpa using hdigit]
        · exact fun c hc => List.mem_takeWhile_imp hc
        · rw [List.cons_append, List.takeWhile_append_dropWhile]
  · cases h
    exact ⟨[], .none, rfl⟩

/-- A fraction in front of an offset is read. -/
theorem FractionText.scan {fraction offset : List Char} (h : FractionText fraction)
    (hoffset : OffsetText offset) : ∃ n, scanFraction (fraction ++ offset) = .ok (n, offset) := by
  obtain ⟨c, tail, rfl, hdigit, hpoint⟩ := hoffset.head_ne
  cases h with
  | none =>
      refine ⟨0, ?_⟩
      rw [List.nil_append, scanFraction.eq_def]
      split
      · next heq =>
        cases heq
        exact absurd rfl hpoint
      · rfl
  | @some digits hne hdigits =>
      obtain ⟨d, digits, rfl⟩ := List.exists_cons_of_ne_nil hne
      have hd : ¬ (!d.isDigit) = true := by simp [hdigits d List.mem_cons_self]
      have hrest : (d :: (digits ++ c :: tail)).dropWhile Char.isDigit = c :: tail := by
        rw [← List.cons_append, List.dropWhile_append_of_pos hdigits,
          List.dropWhile_cons_of_neg (by simp [hdigit])]
      simp only [List.cons_append, scanFraction, if_neg hd, hrest]
      exact ⟨_, rfl⟩

/-- Two digits make less than sixty if the first of them is at most a five. -/
theorem digitsValue_le_iff {a b : Char} (ha : a.isDigit = true) (hb : b.isDigit = true) :
    digitsValue [a, b] ≤ 59 ↔ a ≤ '5' := by
  have hle : a ≤ '5' ↔ a.toNat ≤ 53 := Iff.rfl
  have ha : 48 ≤ a.toNat ∧ a.toNat ≤ 57 := Char.isDigit_iff_toNat.mp ha
  have hb : 48 ≤ b.toNat ∧ b.toNat ≤ 57 := Char.isDigit_iff_toNat.mp hb
  have hvalue : digitsValue [a, b] = (a.toNat - 48) * 10 + (b.toNat - 48) := by
    simp [digitsValue]
  rw [hle, hvalue]
  omega

/-- **What reading the minutes of an offset accepts.** -/
theorem scanOffsetMinutes_ok_iff :
    scanOffsetMinutes cs = .ok (n, rest) ↔ ∃ minutes, IsNumber 2 minutes ∧
      digitsValue minutes ≤ 59 ∧ cs = minutes ++ rest ∧ n = digitsValue minutes := by
  constructor
  · intro h
    unfold scanOffsetMinutes at h
    by_cases hshort : byteCount cs < 2
    · rw [if_pos hshort] at h
      cases h
    rw [if_neg hshort] at h
    match cs with
    | [] | [_] => cases h
    | a :: b :: cs =>
        simp only at h
        by_cases hdigits : (a.isDigit && b.isDigit) = true
        · rw [if_pos hdigits] at h
          rw [Bool.and_eq_true] at hdigits
          by_cases hhour : a ≤ '5'
          · rw [if_pos hhour] at h
            cases h
            refine ⟨[a, b], ⟨rfl, ?_⟩, (digitsValue_le_iff hdigits.1 hdigits.2).mpr hhour, rfl, rfl⟩
            simp [hdigits.1, hdigits.2]
          · rw [if_neg hhour] at h
            cases h
        · rw [if_neg hdigits] at h
          cases h
  · rintro ⟨minutes, ⟨hlength, hdigits⟩, hhour, rfl, rfl⟩
    have henough := le_byteCount_append minutes rest
    rw [hlength] at henough
    match minutes, hlength with
    | [a, b], _ =>
        have ha : a.isDigit = true := hdigits a List.mem_cons_self
        have hb : b.isDigit = true := hdigits b (List.mem_cons_of_mem _ List.mem_cons_self)
        unfold scanOffsetMinutes
        rw [if_neg (Nat.not_lt.mpr henough)]
        simp only [List.cons_append, List.nil_append, ha, hb, Bool.and_self, if_true,
          if_pos ((digitsValue_le_iff ha hb).mp hhour)]

/-- What is read of an offset, as the last part of a text, is one. -/
theorem offsetText_of_scan {offset : Int} (h : scanOffset cs = .ok (offset, [])) :
    OffsetText cs := by
  cases cs with
  | nil => cases h
  | cons c cs =>
      simp only [scanOffset, beq_iff_eq, Bool.or_eq_true] at h
      by_cases huniversal : c = 'Z' ∨ c = 'z'
      · rw [if_pos huniversal] at h
        cases h
        exact .universal huniversal
      rw [if_neg huniversal] at h
      by_cases hsign : (c = '+' ∨ c = '-') ∨ c = '−'
      · rw [if_pos hsign] at h
        cases hhours : scanDigits 2 cs with
        | error e => simp [hhours] at h
        | ok read =>
        obtain ⟨hours, behind⟩ := read
        cases hcolon : scanMark [':'] behind with
        | error e => simp [hhours, hcolon] at h
        | ok behind =>
        cases hminutes : scanOffsetMinutes behind with
        | error e => simp [hhours, hcolon, hminutes] at h
        | ok read =>
        obtain ⟨minutes, behind⟩ := read
        simp only [hhours, hcolon, hminutes] at h
        by_cases hday : ((hours : Int) * 60 + minutes) * 60 > 86340
        · rw [if_pos hday] at h
          cases h
        · rw [if_neg hday] at h
          cases h
          obtain ⟨hours, hnumber, rfl, rfl⟩ := scanDigits_ok_iff.mp hhours
          obtain ⟨colon, hmem, rfl⟩ := scanMark_ok_iff.mp hcolon
          obtain ⟨minutes, hnumber', hhour, rfl, rfl⟩ := scanOffsetMinutes_ok_iff.mp hminutes
          obtain rfl : colon = ':' := by simpa using hmem
          rw [List.append_nil]
          exact .signed (or_assoc.mp hsign) hnumber hnumber' (by omega) hhour
      · rw [if_neg hsign] at h
        cases h

/-- An offset at the end of a text is read. -/
theorem OffsetText.scan {offset : List Char} (h : OffsetText offset) :
    ∃ n, scanOffset offset = .ok (n, []) := by
  cases h with
  | @universal c hc =>
      refine ⟨0, ?_⟩
      rcases hc with rfl | rfl <;> rfl
  | @signed sign hours minutes hsign hhours hminutes hday hhour =>
      have hhoursRead : scanDigits 2 (hours ++ ':' :: minutes) =
          .ok (digitsValue hours, ':' :: minutes) := scanDigits_ok_iff.mpr ⟨hours, hhours, rfl, rfl⟩
      have hcolon : scanMark [':'] (':' :: minutes) = .ok minutes := rfl
      have hminutesRead : scanOffsetMinutes minutes = .ok (digitsValue minutes, []) :=
        scanOffsetMinutes_ok_iff.mpr ⟨minutes, hminutes, hhour, (List.append_nil _).symm, rfl⟩
      have huniversal : ¬ (sign = 'Z' ∨ sign = 'z') := by
        rcases hsign with rfl | rfl | rfl <;> decide
      have hwithin : ¬ ((digitsValue hours : Int) * 60 + digitsValue minutes) * 60 > 86340 := by
        omega
      simp only [scanOffset, beq_iff_eq, Bool.or_eq_true]
      rw [if_neg huniversal, if_pos (or_assoc.mpr hsign)]
      simp only [hhoursRead, hcolon, hminutesRead, if_neg hwithin]
      exact ⟨_, rfl⟩

/-! ## The text -/

/-- What is read as a moment is the text of one. -/
theorem momentText_of_ofString {s : String} {t : Timestamp} (h : ofString s = .ok t) :
    MomentText s.toList := by
  rw [ofString] at h
  by_cases hshort : byteCount s.toList < shortestLength
  · rw [if_pos hshort] at h
    cases h
  rw [if_neg hshort] at h
  obtain ⟨⟨year, cs⟩, hyear, h⟩ := bind_eq_ok.mp h
  obtain ⟨cs', hdash, h⟩ := bind_eq_ok.mp h
  obtain ⟨⟨month, cs⟩, hmonth, h⟩ := bind_eq_ok.mp h
  obtain ⟨cs', hdash', h⟩ := bind_eq_ok.mp h
  obtain ⟨⟨day, cs⟩, hday, h⟩ := bind_eq_ok.mp h
  cases hdate : isDate year month day with
  | false =>
      simp only [hdate, Bool.not_false, if_true] at h
      cases h
  | true =>
  simp only [hdate, Bool.not_true, Bool.false_eq_true, if_false] at h
  obtain ⟨_, hmark, h⟩ := bind_eq_ok.mp h
  obtain ⟨⟨hour, _⟩, hhour, h⟩ := bind_eq_ok.mp h
  obtain ⟨_, hcolon, h⟩ := bind_eq_ok.mp h
  obtain ⟨⟨minute, _⟩, hminute, h⟩ := bind_eq_ok.mp h
  obtain ⟨_, hcolon', h⟩ := bind_eq_ok.mp h
  obtain ⟨⟨second, _⟩, hsecond, h⟩ := bind_eq_ok.mp h
  obtain ⟨⟨fraction, _⟩, hfraction, h⟩ := bind_eq_ok.mp h
  cases htime : isTime hour minute second with
  | false =>
      simp only [htime, Bool.not_false, if_true] at h
      cases h
  | true =>
  simp only [htime, Bool.not_true, Bool.false_eq_true, if_false] at h
  obtain ⟨⟨offset, behind⟩, hoffset, h⟩ := bind_eq_ok.mp h
  cases behind with
  | cons c behind => cases h
  | nil =>
  obtain ⟨year, hyearDigits, htext, rfl⟩ := scanDigits_ok_iff.mp hyear
  obtain rfl := scanMark_singleton_iff.mp hdash
  obtain ⟨month, hmonthDigits, rfl, rfl⟩ := scanDigits_ok_iff.mp hmonth
  obtain rfl := scanMark_singleton_iff.mp hdash'
  obtain ⟨day, hdayDigits, rfl, rfl⟩ := scanDigits_ok_iff.mp hday
  obtain ⟨mark, hmem, rfl⟩ := scanMark_ok_iff.mp hmark
  obtain ⟨hour, hhourDigits, rfl, rfl⟩ := scanDigits_ok_iff.mp hhour
  obtain rfl := scanMark_singleton_iff.mp hcolon
  obtain ⟨minute, hminuteDigits, rfl, rfl⟩ := scanDigits_ok_iff.mp hminute
  obtain rfl := scanMark_singleton_iff.mp hcolon'
  obtain ⟨second, hsecondDigits, rfl, rfl⟩ := scanDigits_ok_iff.mp hsecond
  obtain ⟨fraction, hfractionText, rfl⟩ := fractionText_of_scan hfraction
  rw [htext]
  exact .mk hyearDigits hmonthDigits hdayDigits (by simpa using hmem) hhourDigits hminuteDigits
    hsecondDigits hfractionText (offsetText_of_scan hoffset) hdate htime

/-- The text of a moment is read. -/
theorem MomentText.ofString {s : String} (h : MomentText s.toList) :
    ∃ t, Timestamp.ofString s = .ok t := by
  generalize htext : s.toList = text at h
  cases h with
  | @mk year month day hour minute second fraction offset mark hyear hmonth hday hmark hhour
      hminute hsecond hfraction hoffset hdate htime =>
  have hlong : ¬ byteCount s.toList < shortestLength := by
    have hlength := length_le_byteCount s.toList
    rw [htext] at hlength ⊢
    simp only [List.length_append, List.length_cons, hyear.length, hmonth.length, hday.length,
      hhour.length, hminute.length, hsecond.length] at hlength
    rw [shortestLength]
    omega
  have hnumber : ∀ {width : Nat} {digits : List Char} (rest : List Char),
      IsNumber width digits → scanDigits width (digits ++ rest) = .ok (digitsValue digits, rest) :=
    fun rest hdigits => scanDigits_ok_iff.mpr ⟨_, hdigits, rfl, rfl⟩
  have hsingle : ∀ (c : Char) (rest : List Char), scanMark [c] (c :: rest) = .ok rest :=
    fun _ _ => scanMark_singleton_iff.mpr rfl
  have hbetween : ∀ rest, scanMark ['t', 'T', ' '] (mark :: rest) = .ok rest :=
    fun rest => scanMark_ok_iff.mpr ⟨mark, by simpa using hmark, rfl⟩
  obtain ⟨nanos, hnanos⟩ := hfraction.scan hoffset
  obtain ⟨zone, hzone⟩ := hoffset.scan
  rw [Timestamp.ofString, if_neg hlong, htext]
  simp only [bind, Except.bind, hnumber _ hyear, hsingle, hnumber _ hmonth, hnumber _ hday, hdate,
    hbetween, hnumber _ hhour, hnumber _ hminute, hnumber _ hsecond, hnanos, htime, hzone]
  exact ⟨_, rfl⟩

/-- **A text is read as a moment exactly if it is the text of one.** -/
theorem ofString_ok_iff {s : String} : (∃ t, ofString s = .ok t) ↔ MomentText s.toList :=
  ⟨fun ⟨_, h⟩ => momentText_of_ofString h, MomentText.ofString⟩

end SceneRender.Timestamp
