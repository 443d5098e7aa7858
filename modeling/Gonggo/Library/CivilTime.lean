import Mathlib.Algebra.Order.Ring.Int

/-! # Civil time

The date and the time of day of a count of seconds from the beginning of 1970, in the Gregorian
calendar continued in both directions. Two counts are in the order of their fields, the year first.
-/

/-- The fields of a civil time. -/
structure CivilTime where
  year : Int
  month : Int
  day : Int
  hour : Int
  minute : Int
  second : Int
  deriving DecidableEq, Repr

namespace CivilTime

/-- The days before a year that begins with March, from the first of March in year 0. -/
def yearStart (year : Int) : Int := 365 * year + year / 4 - year / 100 + year / 400

/-- The year beginning with March that a day lies in: by the four centuries, the century, the four
years and the year. The last day of a leap year is in none of the equal parts. -/
def marchYear (day : Int) : Int :=
  let inCenturies := day % 146097
  let century := min (inCenturies / 36524) 3
  let inCentury := inCenturies - 36524 * century
  let inFour := inCentury % 1461
  400 * (day / 146097) + 100 * century + 4 * (inCentury / 1461) + min (inFour / 365) 3

def dayOfYear (day : Int) : Int := day - yearStart (marchYear day)

/-- The days before a month, counted from March. -/
def monthStart (month : Int) : Int := (153 * month + 2) / 5

/-- The month that a day of the year lies in, counted from March. -/
def marchMonth (dayOfYear : Int) : Int := (5 * dayOfYear + 2) / 153

/-- The months from January in year 0 to the month that a day lies in. -/
def months (day : Int) : Int := 12 * marchYear day + marchMonth (dayOfYear day) + 2

def dayOfMonth (day : Int) : Int := dayOfYear day - monthStart (marchMonth (dayOfYear day)) + 1

def ofSeconds (seconds : Int) : CivilTime :=
  -- the first of January 1970 is day 719468
  let day := seconds / 86400 + 719468
  let inDay := seconds % 86400
  { year := months day / 12
    month := months day % 12 + 1
    day := dayOfMonth day
    hour := inDay / 3600
    minute := inDay / 60 % 60
    second := inDay % 60 }

example : ofSeconds 1709251199 = ⟨2024, 2, 29, 23, 59, 59⟩ := by decide

/-! ## Years and months -/

theorem yearStart_parts {a b c d : Int} (hB : 0 ≤ b ∧ b ≤ 3) (hC : 0 ≤ c ∧ c ≤ 24) (hD : 0 ≤ d ∧ d ≤ 3) :
    yearStart (400 * a + 100 * b + 4 * c + d) = 146097 * a + 36524 * b + 1461 * c + 365 * d := by
  have hFours : (400 * a + 100 * b + 4 * c + d) / 4 = 100 * a + 25 * b + c := by omega
  have hCenturies : (400 * a + 100 * b + 4 * c + d) / 100 = 4 * a + b := by omega
  have hCycles : (400 * a + 100 * b + 4 * c + d) / 400 = a := by omega
  unfold yearStart
  omega

/-- A day is the beginning of its parts and what is left of the last of them. -/
theorem exists_parts (day : Int) : ∃ a b c d e : Int, marchYear day = 400 * a + 100 * b + 4 * c + d ∧
    day = 146097 * a + 36524 * b + 1461 * c + 365 * d + e ∧ (0 ≤ b ∧ b ≤ 3) ∧ (0 ≤ c ∧ c ≤ 24) ∧
    (0 ≤ d ∧ d ≤ 3) ∧ 0 ≤ e ∧ (e ≤ 364 ∨ e = 365 ∧ d = 3 ∧ (c < 24 ∨ b = 3)) := by
  simp only [marchYear]
  have hCycle : day = 146097 * (day / 146097) + day % 146097 := by omega
  have hRange : 0 ≤ day % 146097 ∧ day % 146097 ≤ 146096 := by omega
  generalize day / 146097 = a at hCycle ⊢
  generalize day % 146097 = inCenturies at hCycle hRange ⊢
  have hCentury : 0 ≤ min (inCenturies / 36524) 3 ∧ min (inCenturies / 36524) 3 ≤ 3 := by omega
  have hInCentury : 0 ≤ inCenturies - 36524 * min (inCenturies / 36524) 3 ∧
      (inCenturies - 36524 * min (inCenturies / 36524) 3 ≤ 36523 ∨
        inCenturies - 36524 * min (inCenturies / 36524) 3 = 36524 ∧ min (inCenturies / 36524) 3 = 3) := by
    omega
  generalize min (inCenturies / 36524) 3 = b at hCentury hInCentury ⊢
  generalize hRest : inCenturies - 36524 * b = inCentury at hInCentury ⊢
  refine ⟨a, b, inCentury / 1461, min (inCentury % 1461 / 365) 3,
    inCentury % 1461 - 365 * min (inCentury % 1461 / 365) 3, rfl, ?_, hCentury, ?_, ?_, ?_, ?_⟩
  all_goals omega

theorem yearStart_marchYear (day : Int) :
    yearStart (marchYear day) ≤ day ∧ day < yearStart (marchYear day + 1) := by
  obtain ⟨a, b, c, d, e, hYear, hDay, hB, hC, hD, hE, hLast⟩ := exists_parts day
  have hStart := yearStart_parts (a := a) hB hC hD
  have hNext : yearStart (400 * a + 100 * b + 4 * c + d) + 365 ≤
      yearStart (400 * a + 100 * b + 4 * c + d + 1) := by
    unfold yearStart
    omega
  rw [hYear]
  refine ⟨by omega, ?_⟩
  rcases hLast with hShort | ⟨hLeap, hThree, hFour⟩
  · omega
  · -- The year ends with the extra day of a leap year.
    rw [hThree] at hStart ⊢
    by_cases hC' : c < 24
    · have hAfter := yearStart_parts (a := a) (d := 0) hB (c := c + 1) (by omega) (by omega)
      have hSame : 400 * a + 100 * b + 4 * (c + 1) + 0 = 400 * a + 100 * b + 4 * c + 3 + 1 := by omega
      rw [hSame] at hAfter
      omega
    · have hAfter := yearStart_parts (a := a + 1) (b := 0) (c := 0) (d := 0) (by omega) (by omega) (by omega)
      have hSame : 400 * (a + 1) + 100 * 0 + 4 * 0 + 0 = 400 * a + 100 * b + 4 * c + 3 + 1 := by omega
      rw [hSame] at hAfter
      omega

theorem yearStart_mono {a b : Int} (h : a ≤ b) : yearStart a ≤ yearStart b := by
  unfold yearStart
  omega

theorem dayOfYear_bounds (day : Int) : 0 ≤ dayOfYear day ∧ dayOfYear day ≤ 365 := by
  have hBounds := yearStart_marchYear day
  have hLength : yearStart (marchYear day + 1) ≤ yearStart (marchYear day) + 366 := by
    unfold yearStart
    omega
  unfold dayOfYear
  omega

theorem monthStart_marchMonth (inYear : Int) :
    monthStart (marchMonth inYear) ≤ inYear ∧ inYear < monthStart (marchMonth inYear + 1) := by
  unfold monthStart marchMonth
  omega

theorem marchMonth_bounds (day : Int) :
    0 ≤ marchMonth (dayOfYear day) ∧ marchMonth (dayOfYear day) ≤ 11 := by
  have hBounds := dayOfYear_bounds day
  unfold marchMonth
  omega

/-! ## The order of times -/

/-- The first field that differs is the smaller one. -/
def Before (a b : CivilTime) : Prop :=
  a.year < b.year ∨ a.year = b.year ∧ (a.month < b.month ∨ a.month = b.month ∧
    (a.day < b.day ∨ a.day = b.day ∧ (a.hour < b.hour ∨ a.hour = b.hour ∧
      (a.minute < b.minute ∨ a.minute = b.minute ∧ a.second < b.second))))

theorem Before.irrefl (a : CivilTime) : ¬ Before a a := by
  unfold Before
  omega

theorem Before.asymm {a b : CivilTime} (h : Before a b) : ¬ Before b a := by
  unfold Before at *
  omega

theorem months_of_lt {a b : Int} (h : a < b) :
    months a < months b ∨ months a = months b ∧ dayOfMonth a < dayOfMonth b := by
  have hA := yearStart_marchYear a
  have hB := yearStart_marchYear b
  have hMonthA := marchMonth_bounds a
  have hMonthB := marchMonth_bounds b
  have hYears : marchYear a ≤ marchYear b := by
    by_contra hNot
    have := yearStart_mono (show marchYear b + 1 ≤ marchYear a by omega)
    omega
  unfold months dayOfMonth
  rcases Int.lt_or_eq_of_le hYears with hYear | hYear
  · exact .inl (by omega)
  · have hInYear : dayOfYear a < dayOfYear b := by
      unfold dayOfYear
      rw [hYear]
      omega
    have hInA := monthStart_marchMonth (dayOfYear a)
    have hInB := monthStart_marchMonth (dayOfYear b)
    have hMonths : marchMonth (dayOfYear a) ≤ marchMonth (dayOfYear b) := by
      unfold marchMonth
      omega
    rcases Int.lt_or_eq_of_le hMonths with hMonth | hMonth
    · exact .inl (by omega)
    · refine .inr ⟨by omega, ?_⟩
      rw [hMonth]
      omega

theorem before_of_lt {s t : Int} (h : s < t) : Before (ofSeconds s) (ofSeconds t) := by
  unfold Before ofSeconds
  simp only
  have hDays : s / 86400 ≤ t / 86400 := by omega
  rcases Int.lt_or_eq_of_le hDays with hDay | hDay
  · rcases months_of_lt (show s / 86400 + 719468 < t / 86400 + 719468 by omega) with hLess | ⟨hSame, hLess⟩
    · omega
    · rw [hSame]
      omega
  · rw [hDay]
    omega

theorem before_ofSeconds_iff {s t : Int} : Before (ofSeconds s) (ofSeconds t) ↔ s < t := by
  refine ⟨fun h => ?_, before_of_lt⟩
  by_contra hNot
  rcases Int.lt_or_eq_of_le (Int.not_lt.mp hNot) with hLess | rfl
  · exact h.asymm (before_of_lt hLess)
  · exact Before.irrefl _ h

theorem ofSeconds_injective {s t : Int} (h : ofSeconds s = ofSeconds t) : s = t := by
  by_contra hNot
  rcases Int.lt_or_gt_of_ne hNot with hLess | hLess
  · exact Before.irrefl _ (h ▸ before_of_lt hLess)
  · exact Before.irrefl _ (h ▸ before_of_lt hLess)

/-- Two digits hold each field but the year. -/
structure TwoDigits (a : CivilTime) : Prop where
  month : 0 ≤ a.month ∧ a.month < 100
  day : 0 ≤ a.day ∧ a.day < 100
  hour : 0 ≤ a.hour ∧ a.hour < 100
  minute : 0 ≤ a.minute ∧ a.minute < 100
  second : 0 ≤ a.second ∧ a.second < 100

theorem twoDigits_ofSeconds (seconds : Int) : TwoDigits (ofSeconds seconds) := by
  have hMonth := monthStart_marchMonth (dayOfYear (seconds / 86400 + 719468))
  have hLength : monthStart (marchMonth (dayOfYear (seconds / 86400 + 719468)) + 1) ≤
      monthStart (marchMonth (dayOfYear (seconds / 86400 + 719468))) + 31 := by
    unfold monthStart
    omega
  constructor <;> simp only [ofSeconds, dayOfMonth] <;> omega

end CivilTime
