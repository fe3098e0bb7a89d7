import TeamCalendar.Instant.Parser
import TeamCalendar.Instant.Printer
import TeamCalendar.Proofs.Instant.Calendar
import TeamCalendar.Proofs.Text.Digits

/-!
# Instants read back

Every instant is read back from its written form: whatever its year, however fine its fraction, and
also if it belongs to a leap second.
-/

namespace TeamCalendar.Instant

open Text (paddedDigits isDigit NoDigitAhead)

variable {rest : List Char}

/-! ## The parts of the written form -/

theorem readPart?_paddedDigits {n : Nat} (hn : n < 100) (rest : List Char) :
    readPart? (paddedDigits 2 n ++ rest) = some (n, rest) := by
  have hlength : (paddedDigits 2 n).length = 2 := Text.length_paddedDigits (by decide) hn
  rw [readPart?, Text.trimStartChars_paddedDigits]
  exact Text.readNumber?_paddedDigits (Nat.le_of_eq hlength) (Or.inl hlength)

theorem trimStartChars_cons {c : Char} (hc : Text.isBlank c = false) (rest : List Char) :
    Text.trimStartChars (c :: rest) = c :: rest :=
  Text.trimStartChars_eq_self (by simpa using hc)

theorem readMark?_cons {c : Char} (hc : Text.isBlank c = false) (rest : List Char) :
    readMark? c (c :: rest) = some rest := by
  rw [readMark?, trimStartChars_cons hc]
  simp [expect?]

theorem noDigitAhead_cons {c : Char} (hc : isDigit c = false) : NoDigitAhead (c :: rest) := by
  intro d hd
  cases hd
  exact hc

theorem readNumber?_hyphen (n : Nat) (rest : List Char) :
    Text.readNumber? (paddedDigits 4 n ++ '-' :: rest).length (paddedDigits 4 n ++ '-' :: rest) =
      some (n, '-' :: rest) := by
  refine Text.readNumber?_paddedDigits ?_ (Or.inr (noDigitAhead_cons rfl))
  rw [List.length_append]
  omega

/-- A year is read back up to the hyphen after it. -/
theorem readYear?_yearText (year : Int) (rest : List Char) :
    readYear? (yearText year ++ '-' :: rest) = some (year, '-' :: rest) := by
  rw [yearText]
  split
  · next hplain =>
    have hlength : (paddedDigits 4 year.toNat).length = 4 :=
      Text.length_paddedDigits (by decide) (by omega)
    have hnumber : Text.readNumber? 4 (paddedDigits 4 year.toNat ++ '-' :: rest) =
        some (year.toNat, '-' :: rest) :=
      Text.readNumber?_paddedDigits (Nat.le_of_eq hlength) (Or.inl hlength)
    obtain ⟨c, digits, hpadded, hdigit⟩ := Text.exists_paddedDigits_eq 4 year.toNat
    rw [readYear?, Text.trimStartChars_paddedDigits]
    split
    · next heq =>
      rw [hpadded] at heq
      cases heq
      cases hdigit
    · next heq =>
      rw [hpadded] at heq
      cases heq
      cases hdigit
    · have hnat : (year.toNat : Int) = year := Int.toNat_of_nonneg hplain.1
      rw [hnumber, Option.map_some]
      exact congrArg (fun n : Int => some (n, '-' :: rest)) hnat
  · split
    · next hnegative =>
      rw [List.cons_append, readYear?, trimStartChars_cons rfl]
      change Option.map _ (Text.readNumber? _ (paddedDigits 4 year.natAbs ++ '-' :: rest)) = _
      have hnat : -(year.natAbs : Int) = year := by omega
      rw [readNumber?_hyphen, Option.map_some]
      exact congrArg (fun n : Int => some (n, '-' :: rest)) hnat
    · next hpositive =>
      rw [List.cons_append, readYear?, trimStartChars_cons rfl]
      change Option.map _ (Text.readNumber? _ (paddedDigits 4 year.natAbs ++ '-' :: rest)) = _
      have hnat : (year.natAbs : Int) = year := by omega
      rw [readNumber?_hyphen, Option.map_some]
      exact congrArg (fun n : Int => some (n, '-' :: rest)) hnat

theorem readFraction?_paddedDigits {width n : Nat} (hwidth : 0 < width) (hle : width ≤ 9)
    (hn : n < 10 ^ width) :
    readFraction? ('.' :: (paddedDigits width n ++ ['Z'])) =
      some (n * 10 ^ (9 - width), ['Z']) := by
  have hlength : (paddedDigits width n).length = width := Text.length_paddedDigits hwidth hn
  have htake : Text.takeDigits 9 (paddedDigits width n ++ ['Z']) = (paddedDigits width n, ['Z']) :=
    Text.takeDigits_append (fun _ => Text.isDigit_of_mem_paddedDigits) (by omega)
      (Or.inr (noDigitAhead_cons rfl))
  rw [readFraction?, htake]
  split
  · next hnone => exact absurd (congrArg Prod.fst hnone) (Text.paddedDigits_ne_nil width n)
  · next hsome =>
    cases hsome
    rw [Text.ofDigits_paddedDigits, hlength]
    rfl

/-- However many digits it is written with, a fraction is read back. -/
theorem readFraction?_fractionText {nanos : Nat} (hnanos : nanos < nanosPerSecond) :
    readFraction? (fractionText nanos ++ ['Z']) = some (nanos, ['Z']) := by
  rw [nanosPerSecond] at hnanos
  rw [fractionText]
  split
  · next hzero =>
    subst hzero
    rfl
  · split
    · rw [List.cons_append, readFraction?_paddedDigits (by decide) (by decide) (by omega)]
      congr 2
      omega
    · split
      · rw [List.cons_append, readFraction?_paddedDigits (by decide) (by decide) (by omega)]
        congr 2
        omega
      · rw [List.cons_append, readFraction?_paddedDigits (by decide) (by decide) (by omega)]
        congr 2
        omega

/-! ## The written form as a whole -/

/-- The day of an instant. -/
def date (t : Instant) : Calendar.Date :=
  Calendar.Date.ofNumber (t.second / secondsPerDay)

/-- The seconds since the beginning of the day. -/
def secondOfDay (t : Instant) : Nat :=
  (t.second % secondsPerDay).toNat

variable (t : Instant)

theorem secondOfDay_lt : t.secondOfDay < 86400 := by
  rw [secondOfDay, secondsPerDay]
  omega

theorem second_eq : t.second = t.second / secondsPerDay * secondsPerDay + t.secondOfDay := by
  rw [secondOfDay, secondsPerDay]
  omega

/-- A leap second is told from the nanoseconds. -/
theorem leap_cases :
    t.nano / nanosPerSecond = 0 ∧ t.nano % nanosPerSecond = t.nano ∨
    t.nano / nanosPerSecond = 1 ∧ nanosPerSecond + t.nano % nanosPerSecond = t.nano ∧
      t.secondOfDay % 60 = 59 := by
  obtain ⟨-, -, hnano, hleap⟩ := t.admissible
  have hday := t.second_eq
  rw [secondsPerDay] at hday
  rw [nanosPerSecond] at *
  by_cases hlarge : 1000000000 ≤ t.nano
  · have hlast := hleap hlarge
    exact Or.inr ⟨by omega, by omega, by omega⟩
  · exact Or.inl ⟨by omega, by omega⟩

theorem exists_date : t.date.Exists :=
  Calendar.Date.exists_ofNumber _

theorem year_bounds : firstYear ≤ t.date.year ∧ t.date.year ≤ lastYear := by
  obtain ⟨hfirst, hlast, -, -⟩ := t.admissible
  constructor
  · apply Calendar.Date.le_year_ofNumber
    rw [firstSecond] at hfirst
    generalize Calendar.Date.number ⟨firstYear, 1, 1⟩ = first at *
    rw [secondsPerDay] at *
    omega
  · apply Calendar.Date.year_ofNumber_le
    rw [lastSecond] at hlast
    generalize Calendar.Date.number ⟨lastYear, 12, 31⟩ = last at *
    rw [secondsPerDay] at *
    omega

theorem day_le : t.date.day ≤ 31 := by
  obtain ⟨-, -, -, hday⟩ := t.exists_date
  rw [Calendar.daysInMonth] at hday
  split at hday <;> split at hday <;> omega

/-- What is read from the written form. -/
def reading (t : Instant) : Reading where
  year := t.date.year
  month := t.date.month
  day := t.date.day
  hour := t.secondOfDay / 3600
  minute := t.secondOfDay / 60 % 60
  second := t.secondOfDay % 60 + t.nano / nanosPerSecond
  nanos := t.nano % nanosPerSecond
  offset := 0

theorem readParts?_textChars : readParts? t.textChars = some t.reading := by
  have hdate := t.exists_date
  have hday := t.day_le
  have hsecond := t.secondOfDay_lt
  have hleap : t.secondOfDay % 60 + t.nano / nanosPerSecond < 100 := by
    rcases t.leap_cases with ⟨hnone, -⟩ | ⟨hone, -, -⟩ <;> omega
  have hmonth (rest : List Char) := readPart?_paddedDigits (n := t.date.month)
    (Nat.lt_of_le_of_lt hdate.2.1 (by decide)) rest
  have hday (rest : List Char) := readPart?_paddedDigits (n := t.date.day) (by omega) rest
  have hhour (rest : List Char) := readPart?_paddedDigits (n := t.secondOfDay / 3600)
    (by omega) rest
  have hminute (rest : List Char) := readPart?_paddedDigits (n := t.secondOfDay / 60 % 60)
    (by omega) rest
  have hsecond (rest : List Char) := readPart?_paddedDigits hleap rest
  have hfraction := readFraction?_fractionText
    (Nat.mod_lt t.nano (show 0 < nanosPerSecond by decide))
  have hhyphen (rest : List Char) : readMark? '-' ('-' :: rest) = some rest :=
    readMark?_cons rfl rest
  have hcolon (rest : List Char) : readMark? ':' (':' :: rest) = some rest :=
    readMark?_cons rfl rest
  have hoffset : readOffset? ['Z'] = some (0, []) := by decide
  have htext : t.textChars = yearText t.date.year ++ '-' :: (paddedDigits 2 t.date.month ++
      '-' :: (paddedDigits 2 t.date.day ++ 'T' :: (paddedDigits 2 (t.secondOfDay / 3600) ++
      ':' :: (paddedDigits 2 (t.secondOfDay / 60 % 60) ++
      ':' :: (paddedDigits 2 (t.secondOfDay % 60 + t.nano / nanosPerSecond) ++
      (fractionText (t.nano % nanosPerSecond) ++ ['Z'])))))) := by
    simp only [textChars, date, secondOfDay, List.append_assoc, List.cons_append]
  have hseparator (rest : List Char) : readSeparator? ('T' :: rest) = some rest := rfl
  rw [htext, readParts?, readYear?_yearText]
  simp only [Option.bind_eq_bind, Option.bind_some, hhyphen, hcolon, hmonth, hday, hhour, hminute,
    hsecond, hfraction, hoffset, hseparator]
  rfl

/-- What is read is the instant. -/
theorem instant?_reading : t.reading.instant? = some t := by
  have hsecond := t.second_eq
  have hbounds := t.secondOfDay_lt
  have hdate := t.exists_date
  have hyear := t.year_bounds
  have hnumber : t.date.number = t.second / secondsPerDay := Calendar.Date.number_ofNumber _
  have hparts : ofParts? t.second t.nano = some t := dif_pos t.admissible
  have hhour : t.reading.hour = t.secondOfDay / 3600 := rfl
  have hminute : t.reading.minute = t.secondOfDay / 60 % 60 := rfl
  have hlast : t.reading.second = t.secondOfDay % 60 + t.nano / nanosPerSecond := rfl
  have hnanos : t.reading.nanos = t.nano % nanosPerSecond := rfl
  have hoffset : t.reading.offset = 0 := rfl
  have hsplit : (if t.reading.second = 60 then (59, nanosPerSecond + t.reading.nanos)
      else (t.reading.second, t.reading.nanos)) = (t.secondOfDay % 60, t.nano) := by
    rcases t.leap_cases with ⟨hnone, hsame⟩ | ⟨hone, hsame, hleap⟩
    · rw [if_neg (by omega), hlast, hnanos, hnone, hsame, Nat.add_zero]
    · rw [if_pos (by omega), hnanos, hsame, hleap]
  have hread : firstYear ≤ t.reading.year ∧ t.reading.year ≤ lastYear ∧ t.date.Exists ∧
      t.reading.hour < 24 ∧ t.reading.minute < 60 ∧ t.reading.second ≤ 60 ∧
      t.reading.offset.natAbs < 24 * 60 := by
    have hsixty : t.reading.second ≤ 60 := by
      rcases t.leap_cases with ⟨hnone, -⟩ | ⟨hone, -, -⟩ <;> omega
    exact ⟨hyear.1, hyear.2, hdate, by omega, by omega, hsixty, by omega⟩
  have htime : t.date.number * secondsPerDay + (3600 * t.reading.hour + 60 * t.reading.minute +
      t.secondOfDay % 60 : Nat) - 60 * t.reading.offset = t.second := by
    rw [hnumber]
    omega
  rw [Reading.instant?, hsplit]
  change (if firstYear ≤ t.reading.year ∧ t.reading.year ≤ lastYear ∧ t.date.Exists ∧
      t.reading.hour < 24 ∧ t.reading.minute < 60 ∧ t.reading.second ≤ 60 ∧
      t.reading.offset.natAbs < 24 * 60 then ofParts? (t.date.number * secondsPerDay +
      (3600 * t.reading.hour + 60 * t.reading.minute + t.secondOfDay % 60 : Nat) -
      60 * t.reading.offset) t.nano else none) = some t
  rw [if_pos hread, htime, hparts]

/-- An instant is read back from its written form. -/
theorem parse?_text : parse? t.text = some t := by
  rw [parse?, text, String.toList_ofList, readParts?_textChars, Option.bind_some,
    instant?_reading]

end TeamCalendar.Instant
