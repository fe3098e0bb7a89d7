import TeamCalendar.Instant.Calendar

/-!
# Days and their numbers

The day with a number exists in the calendar and has that number, and its year can be told from the
number.

* `Place` is where a day lies: in which period of 400 years, in which of its years, which are
  counted from March, and how many days after the beginning of that year.
-/

namespace TeamCalendar.Calendar

/-- The days before a year that starts in March, from 0000-03-01. -/
def daysBeforeYear (year : Int) : Int :=
  365 * year + year / 4 - year / 100 + year / 400

/-- A year has at least 365 days. -/
theorem daysBeforeYear_add_le {year later : Int} (h : year ≤ later) :
    daysBeforeYear year + 365 * (later - year) ≤ daysBeforeYear later := by
  -- the years without a leap day are among those that would have one
  have hcentury (y : Int) : y / 100 = y / 4 / 25 := by omega
  have hquadrennia : year / 4 - year / 100 ≤ later / 4 - later / 100 := by
    have hle : year / 4 ≤ later / 4 := by omega
    rw [hcentury, hcentury]
    omega
  rw [daysBeforeYear, daysBeforeYear]
  omega

/-- Where a day lies among the years that are counted from March. -/
structure Place where
  era : Int
  century : Int
  quadrennium : Int
  /-- The year among the four of the quadrennium. -/
  rest : Int
  /-- The day of the year, from 0. -/
  day : Int
  century_bounds : 0 ≤ century ∧ century ≤ 3
  quadrennium_bounds : 0 ≤ quadrennium ∧ quadrennium ≤ 24
  rest_bounds : 0 ≤ rest ∧ rest ≤ 3
  day_bounds : 0 ≤ day ∧ day ≤ 365
  /-- Only the last year of a quadrennium has a leap day, and that of a century only if it is the
  last one. -/
  leap : day = 365 → rest = 3 ∧ (quadrennium = 24 → century = 3)

namespace Place

/-- The year, counted from March. -/
def year (place : Place) : Int :=
  place.era * 400 + 100 * place.century + 4 * place.quadrennium + place.rest

/-- The month, counted from March as month 0. -/
def month (place : Place) : Int :=
  (5 * place.day + 2) / 153

/-- The number of the day, from 0000-03-01. -/
def number (place : Place) : Int :=
  daysPerEra * place.era + 36524 * place.century + 1461 * place.quadrennium + 365 * place.rest +
    place.day

/-- The day. -/
def date (place : Place) : Date where
  year := if place.month < 10 then place.year else place.year + 1
  month := ((place.month + 2) % 12 + 1).toNat
  day := (place.day - daysBeforeMonth place.month + 1).toNat

variable (place : Place)

theorem month_bounds : 0 ≤ place.month ∧ place.month ≤ 11 := by
  have hday := place.day_bounds
  rw [month]
  omega

theorem daysBeforeMonth_le : daysBeforeMonth place.month ≤ place.day := by
  rw [daysBeforeMonth, month]
  omega

theorem number_eq : place.number = daysBeforeYear place.year + place.day := by
  obtain ⟨era, century, quadrennium, rest, day, hcentury, hquadrennium, hrest, hday, hleap⟩ := place
  simp only [number, year, daysPerEra, daysBeforeYear]
  omega

theorem month_date : (place.date.month : Int) = (place.month + 2) % 12 + 1 := by
  have hmonth := place.month_bounds
  simp only [date]
  omega

theorem day_date : (place.date.day : Int) = place.day - daysBeforeMonth place.month + 1 := by
  have hbefore := place.daysBeforeMonth_le
  simp only [date]
  omega

theorem year_date : place.date.year = if place.month < 10 then place.year else place.year + 1 :=
  rfl

/-- The date has the number of the place. -/
theorem number_date : place.date.number = place.number - epochOffset := by
  have hmonth := place.month_bounds
  have hdate := place.month_date
  have hshifted : ((place.date.month : Int) + 9) % 12 = place.month := by omega
  have hyear : (if place.date.month ≤ 2 then place.date.year - 1 else place.date.year) =
      place.year := by
    rw [year_date]
    split
    · rw [if_neg (by omega)]
      omega
    · rw [if_pos (by omega)]
  have hday := place.day_date
  simp only [Date.number, hshifted, hyear, hday, number_eq, daysPerEra, daysBeforeYear]
  omega

/-- The year of a date on which a leap day falls is a leap year. -/
theorem isLeap_of_day_eq (hday : place.day = 365) : isLeap (place.year + 1) = true := by
  obtain ⟨hlast, hcenturies⟩ := place.leap hday
  have hcentury := place.century_bounds
  have hquadrennium := place.quadrennium_bounds
  refine decide_eq_true ⟨?_, ?_⟩
  · rw [year]
    omega
  · rw [year]
    by_cases hend : place.quadrennium = 24
    · have := hcenturies hend
      exact Or.inr (by omega)
    · exact Or.inl (by omega)

theorem exists_date : place.date.Exists := by
  have hmonth := place.month_bounds
  have hdate := place.month_date
  have hday := place.day_date
  have hbefore := place.daysBeforeMonth_le
  have hspan : 153 * place.month ≤ 5 * place.day + 2 ∧
      5 * place.day + 2 < 153 * (place.month + 1) := by
    rw [month]
    omega
  refine ⟨by omega, by omega, by omega, ?_⟩
  rw [daysBeforeMonth] at hday
  rw [daysInMonth]
  split
  · next hfebruary =>
    -- February comes last, and only its length depends on the year
    have hyear : place.date.year = place.year + 1 := by
      rw [year_date, if_neg (by omega)]
    have hbounds := place.day_bounds
    rw [hyear]
    split
    · omega
    · next hcommon =>
      have hshort : place.day ≠ 365 := fun hlast => hcommon (place.isLeap_of_day_eq hlast)
      omega
  · split
    · omega
    · omega

end Place

/-! ## The day with a number -/

/-- Every number is that of a place, and the day with the number is the one at that place. -/
theorem Date.exists_place (number : Int) :
    ∃ place : Place, place.number = number + epochOffset ∧ place.date = Date.ofNumber number := by
  have hdays : daysPerEra * ((number + epochOffset) / daysPerEra) +
      (number + epochOffset) % daysPerEra = number + epochOffset := Int.mul_ediv_add_emod _ _
  have hbounds : 0 ≤ (number + epochOffset) % daysPerEra ∧
      (number + epochOffset) % daysPerEra < 146097 := by
    simp only [daysPerEra]
    omega
  rw [Date.ofNumber]
  generalize (number + epochOffset) % daysPerEra = dayOfEra at *
  generalize (number + epochOffset) / daysPerEra = era at *
  -- of the four centuries, quadrennia and years the last one takes what is left
  generalize hcentury : min (dayOfEra / 36524) 3 = century
  generalize hquadrennium : (dayOfEra - 36524 * century) / 1461 = quadrennium
  generalize hrest :
    min ((dayOfEra - 36524 * century - 1461 * quadrennium) / 365) 3 = rest
  let place : Place :=
    { era
      century
      quadrennium
      rest
      day := dayOfEra - 36524 * century - 1461 * quadrennium - 365 * rest
      century_bounds := by omega
      quadrennium_bounds := by omega
      rest_bounds := by omega
      day_bounds := by omega
      leap := by omega }
  refine ⟨place, ?_, rfl⟩
  rw [Place.number, ← hdays]
  simp only [place]
  omega

/-- The day with a number exists. -/
theorem Date.exists_ofNumber (number : Int) : (Date.ofNumber number).Exists := by
  obtain ⟨place, -, hdate⟩ := Date.exists_place number
  rw [← hdate]
  exact place.exists_date

/-- The day with a number has it. -/
theorem Date.number_ofNumber (number : Int) : (Date.ofNumber number).number = number := by
  obtain ⟨place, hnumber, hdate⟩ := Date.exists_place number
  rw [← hdate, place.number_date, hnumber]
  omega

theorem Place.month_lt_iff (place : Place) : place.month < 10 ↔ place.day < 306 := by
  rw [month]
  omega

/-- A day that is not before the first day of a year is not in an earlier year. -/
theorem Date.le_year_ofNumber {year number : Int} (h : Date.number ⟨year, 1, 1⟩ ≤ number) :
    year ≤ (Date.ofNumber number).year := by
  obtain ⟨place, hnumber, hdate⟩ := Date.exists_place number
  have hfirst : Date.number ⟨year, 1, 1⟩ = daysBeforeYear (year - 1) + 306 - epochOffset := by
    simp only [Date.number, daysBeforeMonth, daysBeforeYear, daysPerEra]
    omega
  have hbounds := place.day_bounds
  rw [place.number_eq] at hnumber
  rw [← hdate, place.year_date]
  refine Int.not_lt.1 fun hearlier => ?_
  split at hearlier
  · next hmonth =>
    have hday := place.month_lt_iff.1 hmonth
    have hspan := daysBeforeYear_add_le (show place.year ≤ year - 1 by omega)
    omega
  · have hspan := daysBeforeYear_add_le (show place.year ≤ year - 1 by omega)
    omega

/-- A day that is not after the last day of a year is not in a later year. -/
theorem Date.year_ofNumber_le {year number : Int} (h : number ≤ Date.number ⟨year, 12, 31⟩) :
    (Date.ofNumber number).year ≤ year := by
  obtain ⟨place, hnumber, hdate⟩ := Date.exists_place number
  have hlast : Date.number ⟨year, 12, 31⟩ = daysBeforeYear year + 305 - epochOffset := by
    simp only [Date.number, daysBeforeMonth, daysBeforeYear, daysPerEra]
    omega
  have hbounds := place.day_bounds
  rw [place.number_eq] at hnumber
  rw [← hdate, place.year_date]
  refine Int.not_lt.1 fun hlater => ?_
  split at hlater
  · have hspan := daysBeforeYear_add_le (show year ≤ place.year by omega)
    omega
  · next hmonth =>
    have hday : ¬ place.day < 306 := fun hday => hmonth (place.month_lt_iff.2 hday)
    have hspan := daysBeforeYear_add_le (show year ≤ place.year by omega)
    omega

end TeamCalendar.Calendar
