import Mathlib

/-!
# The Gregorian calendar

Dates are numbered by the days since the first of January of the year 0; the date of a number is
reached by going from day to day, within a period of 400 years.
-/

namespace Calendar

@[ext] structure Date where
  year : Int
  month : Nat
  day : Nat
  deriving DecidableEq

def isLeap (year : Int) : Bool := year % 4 = 0 && (year % 100 ≠ 0 || year % 400 = 0)

def monthLength (leap : Bool) : Nat → Nat
  | 2 => if leap then 29 else 28
  | 4 | 6 | 9 | 11 => 30
  | _ => 31

structure Date.Valid (date : Date) : Prop where
  month : 1 ≤ date.month ∧ date.month ≤ 12
  day : 1 ≤ date.day ∧ date.day ≤ monthLength (isLeap date.year) date.month

open Date

def daysBeforeYear (year : Int) : Int :=
  365 * year + (year + 3) / 4 - (year + 99) / 100 + (year + 399) / 400

def daysBeforeMonth (leap : Bool) (month : Nat) : Nat :=
  ((List.range' 1 (month - 1)).map (monthLength leap)).sum

def Date.dayNumber (date : Date) : Int :=
  daysBeforeYear date.year + daysBeforeMonth (isLeap date.year) date.month + (date.day - 1)

def next (date : Date) : Date :=
  if date.day < monthLength (isLeap date.year) date.month then { date with day := date.day + 1 }
  else if date.month < 12 then ⟨date.year, date.month + 1, 1⟩
  else ⟨date.year + 1, 1, 1⟩

def dateOf (number : Int) : Date :=
  let date := next^[(number % 146097).toNat] ⟨0, 1, 1⟩
  { date with year := date.year + 400 * (number / 146097) }

/-- The fields of a date as one number. -/
def Date.packed (date : Date) : Int := (date.year * 13 + date.month) * 32 + date.day

theorem daysBeforeYear_succ (year : Int) :
    daysBeforeYear (year + 1) = daysBeforeYear year + 365 + (isLeap year).toNat := by
  unfold daysBeforeYear isLeap
  by_cases four : year % 4 = 0 <;> by_cases hundred : year % 100 = 0 <;>
    by_cases fourHundred : year % 400 = 0 <;> simp [four, hundred, fourHundred] <;> omega

theorem monthLength_bounds : ∀ leap, ∀ month < 13,
    28 ≤ monthLength leap month ∧ monthLength leap month ≤ 31 := by
  decide

theorem daysBeforeMonth_succ : ∀ leap, ∀ month < 12, 1 ≤ month →
    daysBeforeMonth leap (month + 1) = daysBeforeMonth leap month + monthLength leap month := by
  decide

theorem daysBeforeMonth_le : ∀ leap, ∀ month < 13, ∀ earlier < month, 1 ≤ earlier →
    daysBeforeMonth leap earlier + monthLength leap earlier ≤ daysBeforeMonth leap month := by
  decide +kernel

theorem daysBeforeMonth_december (leap : Bool) :
    daysBeforeMonth leap 12 + monthLength leap 12 = 365 + leap.toNat := by
  revert leap
  decide

variable {date date' : Date}

theorem Date.Valid.bounds (valid : date.Valid) :
    1 ≤ date.month ∧ date.month ≤ 12 ∧ 1 ≤ date.day ∧ date.day ≤ 31 := by
  have ⟨⟨january, december⟩, first, last⟩ := valid
  have short := monthLength_bounds (isLeap date.year) date.month (by omega)
  omega

theorem Date.Valid.dayNumber_bounds (valid : date.Valid) :
    daysBeforeYear date.year ≤ date.dayNumber ∧
      date.dayNumber < daysBeforeYear (date.year + 1) := by
  have ⟨january, december⟩ := valid.month
  have ⟨first, last⟩ := valid.day
  have whole := daysBeforeMonth_december (isLeap date.year)
  have upper : daysBeforeMonth (isLeap date.year) date.month + date.day ≤
      365 + (isLeap date.year).toNat := by
    rcases Nat.lt_or_eq_of_le december with before | last
    · have := daysBeforeMonth_le (isLeap date.year) 12 (by decide) date.month before january
      omega
    · rw [← last] at whole
      omega
  rw [daysBeforeYear_succ, dayNumber]
  omega

theorem dayNumber_lt_of_packed_lt (valid : date.Valid) (valid' : date'.Valid)
    (less : date.packed < date'.packed) : date.dayNumber < date'.dayNumber := by
  have bounds := valid.bounds
  have bounds' := valid'.bounds
  have order : date.year < date'.year ∨ date.year = date'.year ∧
      (date.month < date'.month ∨ date.month = date'.month ∧ date.day < date'.day) := by
    unfold packed at less
    omega
  rcases order with year | ⟨year, month | ⟨month, day⟩⟩
  · calc date.dayNumber < daysBeforeYear (date.year + 1) := valid.dayNumber_bounds.2
      _ ≤ daysBeforeYear date'.year := by unfold daysBeforeYear; omega
      _ ≤ date'.dayNumber := valid'.dayNumber_bounds.1
  · have later := daysBeforeMonth_le (isLeap date.year) date'.month (by omega) _ month bounds.1
    have last := valid.day.2
    rw [dayNumber, dayNumber, ← year]
    omega
  · rw [dayNumber, dayNumber, ← year, ← month]
    omega

theorem eq_of_packed_eq (valid : date.Valid) (valid' : date'.Valid)
    (same : date.packed = date'.packed) : date = date' := by
  have bounds := valid.bounds
  have bounds' := valid'.bounds
  unfold packed at same
  exact Date.ext (by omega) (by omega) (by omega)

theorem dayNumber_lt_iff (valid : date.Valid) (valid' : date'.Valid) :
    date.dayNumber < date'.dayNumber ↔ date.packed < date'.packed := by
  refine ⟨fun less => ?_, dayNumber_lt_of_packed_lt valid valid'⟩
  rcases Int.lt_trichotomy date.packed date'.packed with first | same | greater
  · exact first
  · rw [eq_of_packed_eq valid valid' same] at less
    exact absurd less (Int.lt_irrefl _)
  · have := dayNumber_lt_of_packed_lt valid' valid greater
    omega

theorem next_spec (valid : date.Valid) :
    (next date).Valid ∧ (next date).dayNumber = date.dayNumber + 1 := by
  have ⟨january, december⟩ := valid.month
  have ⟨first, last⟩ := valid.day
  unfold next
  split
  case isTrue within =>
    refine ⟨⟨valid.month, by simp, within⟩, ?_⟩
    simp only [dayNumber]
    omega
  split
  case isTrue within =>
    have short := monthLength_bounds (isLeap date.year) (date.month + 1) (by omega)
    have month := daysBeforeMonth_succ (isLeap date.year) date.month within january
    refine ⟨⟨⟨by simp, within⟩, by simp, by dsimp only; omega⟩, ?_⟩
    simp only [dayNumber, month]
    omega
  case isFalse within _ =>
    have december : date.month = 12 := by omega
    have year := daysBeforeMonth_december (isLeap date.year)
    have none : daysBeforeMonth (isLeap (date.year + 1)) 1 = 0 := rfl
    rw [← december] at year
    refine ⟨⟨by simp, by simp [monthLength]⟩, ?_⟩
    simp only [dayNumber, daysBeforeYear_succ, none]
    omega

theorem iterate_next_spec (n : Nat) :
    (next^[n] ⟨0, 1, 1⟩).Valid ∧ (next^[n] ⟨0, 1, 1⟩).dayNumber = n := by
  induction n with
  | zero => exact ⟨⟨by decide, by decide⟩, rfl⟩
  | succ n ih =>
    rw [Function.iterate_succ_apply']
    obtain ⟨valid, number⟩ := next_spec ih.1
    exact ⟨valid, by rw [number, ih.2]; rfl⟩

theorem isLeap_period (year period : Int) : isLeap (year + 400 * period) = isLeap year := by
  have four : (year + 400 * period) % 4 = year % 4 := by omega
  have hundred : (year + 400 * period) % 100 = year % 100 := by omega
  have fourHundred : (year + 400 * period) % 400 = year % 400 := by omega
  rw [isLeap, isLeap, four, hundred, fourHundred]

theorem daysBeforeYear_period (year period : Int) :
    daysBeforeYear (year + 400 * period) = daysBeforeYear year + 146097 * period := by
  unfold daysBeforeYear
  omega

theorem dateOf_spec (number : Int) :
    (dateOf number).Valid ∧ (dateOf number).dayNumber = number := by
  obtain ⟨valid, counted⟩ := iterate_next_spec (number % 146097).toNat
  refine ⟨⟨valid.month, valid.day.1, ?_⟩, ?_⟩
  · rw [dateOf, isLeap_period]
    exact valid.day.2
  · rw [dayNumber] at counted
    rw [dateOf, dayNumber, isLeap_period, daysBeforeYear_period]
    dsimp only
    omega

@[ext] structure Tm where
  date : Date
  hour : Nat
  minute : Nat
  second : Nat
  deriving DecidableEq

structure Tm.Valid (tm : Tm) : Prop where
  date : tm.date.Valid
  hour : tm.hour < 24
  minute : tm.minute < 60
  second : tm.second < 60

/-- The seconds since the first of January 1970, as `timegm` counts them. -/
def Tm.seconds (tm : Tm) : Int :=
  (tm.date.dayNumber - 719528) * 86400 + tm.hour * 3600 + tm.minute * 60 + tm.second

/-- `gmtime_r`. -/
def gmtime (seconds : Int) : Tm :=
  ⟨dateOf (seconds / 86400 + 719528), (seconds % 86400 / 3600).toNat,
    (seconds % 3600 / 60).toNat, (seconds % 60).toNat⟩

def Tm.packed (tm : Tm) : Int :=
  tm.date.packed * 2 ^ 17 + tm.hour * 2 ^ 12 + tm.minute * 2 ^ 6 + tm.second

theorem gmtime_spec (seconds : Int) :
    (gmtime seconds).Valid ∧ (gmtime seconds).seconds = seconds := by
  obtain ⟨valid, number⟩ := dateOf_spec (seconds / 86400 + 719528)
  refine ⟨⟨valid, ?_, ?_, ?_⟩, ?_⟩ <;> simp only [Tm.seconds, gmtime, number] <;> omega

variable {tm tm' : Tm}

theorem seconds_lt_iff (valid : tm.Valid) (valid' : tm'.Valid) :
    tm.seconds < tm'.seconds ↔ tm.packed < tm'.packed := by
  have later := dayNumber_lt_iff valid.date valid'.date
  have earlier := dayNumber_lt_iff valid'.date valid.date
  have ⟨_, _, _, _⟩ := valid
  have ⟨_, _, _, _⟩ := valid'
  unfold Tm.seconds Tm.packed
  omega

theorem gmtime_seconds (valid : tm.Valid) : gmtime tm.seconds = tm := by
  obtain ⟨valid', same⟩ := gmtime_spec tm.seconds
  have later := seconds_lt_iff valid' valid
  have earlier := seconds_lt_iff valid valid'
  have ⟨_, _, _, _⟩ := valid
  have ⟨_, _, _, _⟩ := valid'
  rw [same] at later earlier
  unfold Tm.packed at later earlier
  exact Tm.ext (eq_of_packed_eq valid'.date valid.date (by omega)) (by omega) (by omega) (by omega)

end Calendar
