import DeviceConsole.Text.Timestamp
import Mathlib.Tactic.IntervalCases

/-!
# `Proofs.Text.Calendar` — timestamps follow the Gregorian calendar

`dateOfDay` computes a date by divisions. The calendar says the same with a date and what comes after it: months have
their lengths, and every fourth year is a leap year, but for three of four centuries.

The years of the computation begin in March, so that a leap day is the last of its year and no month behind it is moved.
Each day is a day of such a year (`exists_year`), the divisions find the year and the day in it (`dateOfDay_firstDay`),
and the rest is a table of 366 days (`fitsMonths`).

* `IsLeap`, `daysIn`, `Date.Valid`, `Date.next` — the calendar;
* `firstDay`, `yearLength`, `ofMarch` — years that begin in March, and the date of a day of one;
* `dateOfDay_valid`, `dateOfDay_succ`, `dateOfDay_zero` — **each day has a date of the calendar, the next day has the
  next date**, and the count begins with 1970.
-/

namespace DeviceConsole.Text.Timestamp

/-! ## The calendar -/

/-- Years with a leap day. -/
def IsLeap (year : Int) : Prop := year % 4 = 0 ∧ (year % 100 ≠ 0 ∨ year % 400 = 0)

instance (year : Int) : Decidable (IsLeap year) := inferInstanceAs (Decidable (_ ∧ _))

/-- The length of a month in a leap year or another one. -/
def monthLength (leap : Bool) (month : Nat) : Nat :=
  if month = 2 then (if leap then 29 else 28)
  else if month = 4 ∨ month = 6 ∨ month = 9 ∨ month = 11 then 30
  else 31

/-- The number of days in a month. -/
def daysIn (year : Int) (month : Nat) : Nat := monthLength (decide (IsLeap year)) month

/-- A date of the calendar. -/
structure Date.Valid (date : Date) : Prop where
  month : 1 ≤ date.month ∧ date.month ≤ 12
  day : 1 ≤ date.day ∧ date.day ≤ daysIn date.year date.month

/-- The date of the next day. -/
def Date.next (date : Date) : Date :=
  if date.day < daysIn date.year date.month then { date with day := date.day + 1 }
  else if date.month < 12 then ⟨date.year, date.month + 1, 1⟩
  else ⟨date.year + 1, 1, 1⟩

/-! ## Years that begin in March -/

/-- The days from the first of March of the year 0 to the first of March of another year. -/
def firstDay (year : Int) : Int := 365 * year + year / 4 - year / 100 + year / 400

/-- The length of a year that begins in March: its leap day is the one of the next calendar year. -/
def yearLength (year : Int) : Nat := if IsLeap (year + 1) then 366 else 365

theorem firstDay_succ (year : Int) : firstDay (year + 1) = firstDay year + yearLength year := by
  by_cases leap : IsLeap (year + 1)
  · rw [yearLength, if_pos leap]
    unfold firstDay IsLeap at *
    omega
  · rw [yearLength, if_neg leap]
    unfold firstDay IsLeap at *
    omega

theorem yearLength_pos (year : Int) : 0 < yearLength year := by
  unfold yearLength
  split
  all_goals decide

/-- Every day is a day of such a year. -/
theorem exists_year (day : Int) : ∃ (year : Int) (dayOfYear : Nat),
    dayOfYear < yearLength year ∧ day = firstDay year + dayOfYear := by
  induction day using Int.induction_on with
  | zero => exact ⟨0, 0, by decide, rfl⟩
  | succ count ih =>
    obtain ⟨year, dayOfYear, inYear, atDay⟩ := ih
    by_cases last : dayOfYear + 1 < yearLength year
    · exact ⟨year, dayOfYear + 1, last, by omega⟩
    · have next := firstDay_succ year
      exact ⟨year + 1, 0, yearLength_pos _, by omega⟩
  | pred count ih =>
    obtain ⟨year, dayOfYear, inYear, atDay⟩ := ih
    by_cases first : dayOfYear = 0
    · have next := firstDay_succ (year - 1)
      have some_day := yearLength_pos (year - 1)
      rw [Int.sub_add_cancel] at next
      exact ⟨year - 1, yearLength (year - 1) - 1, by omega, by omega⟩
    · exact ⟨year, dayOfYear - 1, by omega, by omega⟩

/-! ## The divisions -/

/-- The year of a day in 400 years, which are centuries, times of four years and years. Of a leap day and of the days
right before it one division is ahead of the years, and another one makes up for the last day of all. -/
theorem yearOfEra_parts {century quad year day dayOfEra : Nat} (centuries : century ≤ 3) (quads : quad ≤ 24)
    (years : year ≤ 3) (inYear : day ≤ 364 ∨ day = 365 ∧ year = 3 ∧ (quad ≠ 24 ∨ century = 3))
    (parts : dayOfEra = 36524 * century + 1461 * quad + 365 * year + day) :
    (dayOfEra - dayOfEra / 1460 + dayOfEra / 36524 - dayOfEra / 146096) / 365
      = 100 * century + 4 * quad + year := by
  by_cases last : dayOfEra = 146096
  · obtain ⟨rfl, rfl, rfl⟩ : century = 3 ∧ quad = 24 ∧ year = 3 := by omega
    rw [last]
  · let ahead := (24 * century + quad + 365 * year + day) / 1460
    have notFirst : ahead ≤ 1 ∧ (day = 0 → ahead = 0) ∧ (day = 365 → ahead = 1) := by omega
    have byFour : dayOfEra / 1460 = 25 * century + quad + ahead := by omega
    have byCentury : dayOfEra / 36524 = century := by omega
    have byEra : dayOfEra / 146096 = 0 := by omega
    rw [byFour, byCentury, byEra]
    omega

/-- The date of a day of a year that begins in March. -/
def ofMarch (year : Int) (dayOfYear : Nat) : Date :=
  let monthFromMarch := (5 * dayOfYear + 2) / 153
  let month := if monthFromMarch < 10 then monthFromMarch + 3 else monthFromMarch - 9
  { year := if month ≤ 2 then year + 1 else year
    month := month
    day := dayOfYear - (153 * monthFromMarch + 2) / 5 + 1 }

/-- **The divisions find the year and the day in it.** -/
theorem dateOfDay_firstDay {year : Int} {dayOfYear : Nat} (inYear : dayOfYear < yearLength year) :
    dateOfDay (firstDay year + dayOfYear - 719468) = ofMarch year dayOfYear := by
  obtain ⟨yearOfEra, isYear⟩ : ∃ count : Nat, count = year % 400 := ⟨(year % 400).toNat, by omega⟩
  obtain ⟨dayOfEra, isDay⟩ : ∃ count, count = 365 * yearOfEra + yearOfEra / 4 - yearOfEra / 100 + dayOfYear := ⟨_, rfl⟩
  have leapDay : dayOfYear ≤ 364 ∨ dayOfYear = 365 ∧ IsLeap (year + 1) := by
    unfold yearLength at inYear
    split at inYear
    · next leap => exact (Nat.lt_or_eq_of_le (Nat.le_of_lt_succ inYear)).imp Nat.le_of_lt_succ (⟨·, leap⟩)
    · exact .inl (Nat.le_of_lt_succ inYear)
  have shifted : firstDay year + dayOfYear - 719468 + 719468 = 146097 * (year / 400) + dayOfEra := by
    unfold firstDay
    omega
  have inEra : dayOfEra < 146097 := by
    unfold IsLeap at leapDay
    omega
  have era : (146097 * (year / 400) + (dayOfEra : Int)) / 146097 = year / 400 := by omega
  have inside : ((146097 * (year / 400) + (dayOfEra : Int)) % 146097).toNat = dayOfEra := by omega
  have found : (dayOfEra - dayOfEra / 1460 + dayOfEra / 36524 - dayOfEra / 146096) / 365 = yearOfEra := by
    unfold IsLeap at leapDay
    have parts := @yearOfEra_parts (yearOfEra / 100) (yearOfEra % 100 / 4) (yearOfEra % 4) dayOfYear dayOfEra
      (by omega) (by omega) (by omega) (by omega) (by omega)
    omega
  have rest : dayOfEra - (365 * yearOfEra + yearOfEra / 4 - yearOfEra / 100) = dayOfYear := by omega
  have whole : year / 400 * 400 + (yearOfEra : Int) = year := by omega
  simp only [dateOfDay, ofMarch, shifted, era, inside, found, rest, whole]

/-! ## The months -/

/-- The month of a day of a year that begins in March, and its day in the month. -/
def monthAndDay (dayOfYear : Nat) : Nat × Nat := ((ofMarch 0 dayOfYear).month, (ofMarch 0 dayOfYear).day)

theorem ofMarch_eq (year : Int) (dayOfYear : Nat) :
    ofMarch year dayOfYear = ⟨if (monthAndDay dayOfYear).1 ≤ 2 then year + 1 else year,
      (monthAndDay dayOfYear).1, (monthAndDay dayOfYear).2⟩ :=
  rfl

/-- What a year of a given length has at a day: a day of a month, behind which the month goes on or the next one begins.
February is behind all others, and at its end the year is over. -/
def FitsMonths (leap : Bool) (dayOfYear : Nat) : Prop :=
  let month := (monthAndDay dayOfYear).1
  let day := (monthAndDay dayOfYear).2
  (1 ≤ month ∧ month ≤ 12) ∧ (1 ≤ day ∧ day ≤ monthLength leap month)
    ∧ if day < monthLength leap month then
        dayOfYear + 1 < (if leap then 366 else 365) ∧ monthAndDay (dayOfYear + 1) = (month, day + 1)
      else if month = 2 then dayOfYear + 1 = if leap then 366 else 365
      else dayOfYear + 1 < (if leap then 366 else 365) ∧ monthAndDay (dayOfYear + 1) = (month % 12 + 1, 1)

instance (leap : Bool) (dayOfYear : Nat) : Decidable (FitsMonths leap dayOfYear) :=
  inferInstanceAs (Decidable (_ ∧ _ ∧ ite _ _ _))

theorem fitsMonths {year : Int} {dayOfYear : Nat} (inYear : dayOfYear < yearLength year) :
    FitsMonths (decide (IsLeap (year + 1))) dayOfYear := by
  have all : ∀ leap : Bool, ∀ dayOfYear ∈ List.range (if leap then 366 else 365), FitsMonths leap dayOfYear := by
    decide +kernel
  refine all _ dayOfYear (List.mem_range.mpr ?_)
  simpa [yearLength] using inYear

/-- Only in February does a leap year matter, and there it is the calendar year that begins in January before it. -/
theorem daysIn_ofMarch (year : Int) (dayOfYear : Nat) :
    daysIn (ofMarch year dayOfYear).year (ofMarch year dayOfYear).month
      = monthLength (decide (IsLeap (year + 1))) (monthAndDay dayOfYear).1 := by
  rw [ofMarch_eq]
  show daysIn (if (monthAndDay dayOfYear).1 ≤ 2 then year + 1 else year) (monthAndDay dayOfYear).1 = _
  split
  · rfl
  · next later =>
    have notFebruary : (monthAndDay dayOfYear).1 ≠ 2 := by omega
    rw [daysIn, monthLength, monthLength, if_neg notFebruary, if_neg notFebruary]

theorem valid_ofMarch {year : Int} {dayOfYear : Nat} (inYear : dayOfYear < yearLength year) :
    (ofMarch year dayOfYear).Valid := by
  obtain ⟨month, day, -⟩ := fitsMonths inYear
  refine ⟨month, ?_⟩
  rw [daysIn_ofMarch]
  exact day

/-- The next date is the one of the next day of the year, or of the first day of the next year. -/
theorem next_ofMarch {year : Int} {dayOfYear : Nat} (inYear : dayOfYear < yearLength year) :
    (ofMarch year dayOfYear).next
      = if dayOfYear + 1 < yearLength year then ofMarch year (dayOfYear + 1) else ofMarch (year + 1) 0 := by
  have length : yearLength year = if decide (IsLeap (year + 1)) then 366 else 365 := by simp [yearLength]
  obtain ⟨months, days, step⟩ := fitsMonths inYear
  rw [← length] at step
  rw [Date.next, daysIn_ofMarch, ofMarch_eq year dayOfYear]
  generalize (monthAndDay dayOfYear).1 = month at months days step
  split at step
  · next inMonth => rw [if_pos inMonth, if_pos step.1, ofMarch_eq, step.2]
  · next monthOver =>
    rw [if_neg monthOver]
    split at step
    · next february =>
      rw [if_neg (show ¬ dayOfYear + 1 < yearLength year by omega), february]
      rfl
    · next notFebruary =>
      rw [if_pos step.1, ofMarch_eq, step.2]
      by_cases december : month = 12
      · rw [december]
        rfl
      · have goesOn : month < 12 := by omega
        have sameYear : month + 1 ≤ 2 ↔ month ≤ 2 := by omega
        simp only [goesOn, sameYear, Nat.mod_eq_of_lt, if_true]

/-! ## Days and dates -/

/-- A day is a day of a year that begins in March, and its date is found there. -/
theorem dateOfDay_cases (day : Int) : ∃ (year : Int) (dayOfYear : Nat),
    dayOfYear < yearLength year ∧ day = firstDay year + dayOfYear - 719468
      ∧ dateOfDay day = ofMarch year dayOfYear := by
  obtain ⟨year, dayOfYear, inYear, atDay⟩ := exists_year (day + 719468)
  obtain rfl : day = firstDay year + dayOfYear - 719468 := by omega
  exact ⟨year, dayOfYear, inYear, rfl, dateOfDay_firstDay inYear⟩

/-- **Each day has a date of the calendar.** -/
theorem dateOfDay_valid (day : Int) : (dateOfDay day).Valid := by
  obtain ⟨year, dayOfYear, inYear, -, found⟩ := dateOfDay_cases day
  rw [found]
  exact valid_ofMarch inYear

/-- **The next day has the next date.** -/
theorem dateOfDay_succ (day : Int) : dateOfDay (day + 1) = (dateOfDay day).next := by
  obtain ⟨year, dayOfYear, inYear, atDay, found⟩ := dateOfDay_cases day
  rw [found, next_ofMarch inYear]
  split
  · next within =>
    rw [← dateOfDay_firstDay within]
    congr 1
    omega
  · next ended =>
    rw [← dateOfDay_firstDay (yearLength_pos (year + 1)), firstDay_succ]
    congr 1
    omega

/-- The year 2000 is one of the centuries with a leap day. -/
example : dateOfDay 11016 = ⟨2000, 2, 29⟩ ∧ dateOfDay 11017 = ⟨2000, 3, 1⟩ := by decide

/-- The count begins with the year 1970. -/
theorem dateOfDay_zero : dateOfDay 0 = ⟨1970, 1, 1⟩ := by decide

end DeviceConsole.Text.Timestamp
