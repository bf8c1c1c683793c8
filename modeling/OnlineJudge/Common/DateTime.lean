import OnlineJudge.Library.Calendar

/-!
# Times of the database

`TimeUtil::DateTimeToInt` and `TimeUtil::IntToDateTime` (`comm.hpp`).
-/

namespace OnlineJudge

open Calendar

/-- A `MYSQL_TIME`, without `neg` and `time_type`. -/
structure MysqlTime where
  year : UInt32 := 0
  month : UInt32 := 0
  day : UInt32 := 0
  hour : UInt32 := 0
  minute : UInt32 := 0
  second : UInt32 := 0
  secondPart : UInt64 := 0
  deriving DecidableEq

namespace MysqlTime

def fields (t : MysqlTime) (year : Int) : Tm :=
  ⟨⟨year, t.month.toNat, t.day.toNat⟩, t.hour.toNat, t.minute.toNat, t.second.toNat⟩

/-- The `std::tm` of `DateTimeToInt`; `tm_year` is an `int`. -/
def tm (t : MysqlTime) : Tm := t.fields (Int.bmod (t.year.toNat - 1900) (2 ^ 32) + 1900)

end MysqlTime

def dateTimeToInt (t : MysqlTime) : Int :=
  if t.year < 1970 ∨ t.month < 1 ∨ t.month > 12 ∨ t.day < 1 ∨ t.day > 31 ∨ t.hour > 23 ∨
      t.minute > 59 ∨ t.second > 59 ∨ t.secondPart > 999999 then 0
  -- `timegm` leaves the normalized fields in its argument
  else if t.tm.seconds < 0 ∨ gmtime t.tm.seconds ≠ t.tm then 0
  else Int.bmod (t.tm.seconds * 1000000 + t.secondPart.toNat) (2 ^ 64)

def intToDateTime (ts : Int) : MysqlTime :=
  let seconds := if ts.tmod 1000000 < 0 then ts.tdiv 1000000 - 1 else ts.tdiv 1000000
  let micros := if ts.tmod 1000000 < 0 then ts.tmod 1000000 + 1000000 else ts.tmod 1000000
  let utc := gmtime seconds
  { year := UInt32.ofInt utc.date.year
    month := UInt32.ofNat utc.date.month
    day := UInt32.ofNat utc.date.day
    hour := UInt32.ofNat utc.hour
    minute := UInt32.ofNat utc.minute
    second := UInt32.ofNat utc.second
    secondPart := UInt64.ofInt micros }

namespace MysqlTime

/-- A date of the calendar, a time of the day and less than a million microseconds. -/
def Valid (t : MysqlTime) : Prop := (t.fields t.year.toNat).Valid ∧ t.secondPart.toNat < 1000000

/-- The microseconds since the first of January 1970. -/
def micros (t : MysqlTime) : Int := (t.fields t.year.toNat).seconds * 1000000 + t.secondPart.toNat

end MysqlTime

variable {t : MysqlTime} {tm : Tm}

theorem year_bounds (valid : tm.Valid) :
    (0 ≤ tm.seconds ↔ 1970 ≤ tm.date.year) ∧
      (tm.seconds < 2 ^ 63 / 1000000 + 1 → tm.date.year < 300000) := by
  obtain ⟨lower, upper⟩ := valid.date.dayNumber_bounds
  have ⟨_, _, _, _⟩ := valid
  unfold Tm.seconds
  unfold daysBeforeYear at lower upper
  omega

theorem tm_cases (t : MysqlTime) :
    t.tm = t.fields t.year.toNat ∨ 2 ^ 31 ≤ t.year.toNat ∧ t.tm.date.year < 0 := by
  have bound := t.year.toNat_lt
  have cast : Int.bmod (t.year.toNat - 1900) (2 ^ 32) + 1900 = t.year.toNat ∨
      2 ^ 31 ≤ t.year.toNat ∧ Int.bmod (t.year.toNat - 1900) (2 ^ 32) + 1900 < 0 := by
    rw [Int.bmod]
    split <;> omega
  exact cast.imp_left fun same => congrArg t.fields same

theorem dateTimeToInt_of_valid (valid : t.Valid) (late : 1970 ≤ t.year.toNat)
    (fits : t.micros < 2 ^ 63) : dateTimeToInt t = t.micros := by
  obtain ⟨fields, micros⟩ := valid
  have ⟨date, hour, minute, second⟩ := fields
  have bounds := date.bounds
  obtain ⟨positive, year⟩ := year_bounds fields
  have notNegative : 0 ≤ (t.fields t.year.toNat).seconds := positive.mpr (Int.ofNat_le.mpr late)
  unfold MysqlTime.micros at fits ⊢
  have tm : t.tm = t.fields t.year.toNat := by
    refine (tm_cases t).resolve_right fun ⟨large, _⟩ => ?_
    have small : (t.year.toNat : Int) < 300000 := year (by omega)
    omega
  dsimp only [MysqlTime.fields] at bounds hour minute second
  have inside : ¬ (t.year < 1970 ∨ t.month < 1 ∨ t.month > 12 ∨ t.day < 1 ∨ t.day > 31 ∨
      t.hour > 23 ∨ t.minute > 59 ∨ t.second > 59 ∨ t.secondPart > 999999) := by
    simp only [UInt32.lt_iff_toNat_lt, UInt64.lt_iff_toNat_lt, gt_iff_lt, UInt32.reduceToNat,
      UInt64.reduceToNat]
    omega
  rw [dateTimeToInt, if_neg inside, tm, gmtime_seconds fields, if_neg (by simpa using notNegative)]
  exact Int.bmod_eq_of_le (by omega) (by omega)

theorem dateTimeToInt_of_not_valid (invalid : ¬ t.Valid) : dateTimeToInt t = 0 := by
  unfold dateTimeToInt
  split
  case isTrue => rfl
  split
  case isTrue => rfl
  case isFalse inside normal =>
    rw [not_or, Int.not_lt, not_not] at normal
    have valid : t.tm.Valid := normal.2 ▸ (gmtime_spec t.tm.seconds).1
    have late := (year_bounds valid).1.mp normal.1
    have tm := (tm_cases t).resolve_right fun ⟨_, negative⟩ => by omega
    have micros : t.secondPart.toNat < 1000000 := by
      simp only [not_or, gt_iff_lt, UInt64.lt_iff_toNat_lt, UInt64.reduceToNat] at inside
      omega
    exact absurd ⟨tm ▸ valid, micros⟩ invalid

theorem intToDateTime_spec (ts : Int) (positive : 0 ≤ ts) (fits : ts < 2 ^ 63) :
    (intToDateTime ts).fields (intToDateTime ts).year.toNat = gmtime (ts / 1000000) ∧
      ((intToDateTime ts).secondPart.toNat : Int) = ts % 1000000 := by
  obtain ⟨valid, seconds⟩ := gmtime_spec (ts / 1000000)
  obtain ⟨late, early⟩ := year_bounds valid
  have ⟨date, hour, minute, second⟩ := valid
  have bounds := date.bounds
  have notNegative : ¬ ts % 1000000 < 0 := by omega
  simp only [intToDateTime, Int.tmod_eq_emod_of_nonneg positive,
    Int.tdiv_eq_ediv_of_nonneg positive, notNegative, if_false, MysqlTime.fields, UInt32.ofInt,
    UInt64.ofInt, UInt32.toNat_ofNat', UInt64.toNat_ofNat']
  refine ⟨Tm.ext (Date.ext ?_ ?_ ?_) ?_ ?_ ?_, by omega⟩ <;> dsimp only <;> omega

theorem eq_of_fields {t' : MysqlTime} (fields : t.fields t.year.toNat = t'.fields t'.year.toNat)
    (micros : t.secondPart.toNat = t'.secondPart.toNat) : t = t' := by
  cases t
  cases t'
  simpa [MysqlTime.fields, Int.natCast_inj, UInt32.toNat_inj, UInt64.toNat_inj, and_assoc] using
    And.intro fields micros

theorem intToDateTime_dateTimeToInt (valid : t.Valid) (late : 1970 ≤ t.year.toNat)
    (fits : t.micros < 2 ^ 63) : intToDateTime (dateTimeToInt t) = t := by
  have positive : 0 ≤ (t.fields t.year.toNat).seconds :=
    (year_bounds valid.1).1.mpr (Int.ofNat_le.mpr late)
  have small := valid.2
  have parts : t.micros / 1000000 = (t.fields t.year.toNat).seconds ∧
      t.micros % 1000000 = t.secondPart.toNat := by
    unfold MysqlTime.micros
    omega
  have whole : 0 ≤ t.micros := by omega
  obtain ⟨fields, micros⟩ := intToDateTime_spec _ whole fits
  rw [dateTimeToInt_of_valid valid late fits]
  refine eq_of_fields ?_ ?_
  · rw [fields, parts.1, gmtime_seconds valid.1]
  · omega

theorem dateTimeToInt_intToDateTime {ts : Int} (positive : 0 ≤ ts) (fits : ts < 2 ^ 63) :
    dateTimeToInt (intToDateTime ts) = ts := by
  obtain ⟨fields, micros⟩ := intToDateTime_spec ts positive fits
  obtain ⟨valid, seconds⟩ := gmtime_spec (ts / 1000000)
  have whole : (intToDateTime ts).micros = ts := by
    rw [MysqlTime.micros, fields, seconds, micros]
    omega
  have late := (year_bounds valid).1.mp (by omega)
  rw [← fields] at valid late
  exact (dateTimeToInt_of_valid ⟨valid, by omega⟩ (Int.ofNat_le.mp late) (by omega)).trans whole

theorem dateTime_roundTrip :
    (∀ ts : Int, 0 ≤ ts → ts < 253402300800000000 → dateTimeToInt (intToDateTime ts) = ts) ∧
      (∀ t : MysqlTime, t.Valid → 1970 ≤ t.year.toNat → t.micros < 2 ^ 63 →
        intToDateTime (dateTimeToInt t) = t) ∧
      ∀ t : MysqlTime, ¬ t.Valid → dateTimeToInt t = 0 :=
  ⟨fun _ positive before => dateTimeToInt_intToDateTime positive (by omega),
    fun _ valid late fits => intToDateTime_dateTimeToInt valid late fits,
    fun _ invalid => dateTimeToInt_of_not_valid invalid⟩

def lastYear : MysqlTime := { year := 4294967295, month := 1, day := 1 }

theorem lastYear_not_kept : lastYear.Valid ∧ 1970 ≤ lastYear.year.toNat ∧
    intToDateTime (dateTimeToInt lastYear) ≠ lastYear := by
  refine ⟨⟨⟨⟨by decide, by decide⟩, by decide, by decide, by decide⟩, by decide⟩, by decide, ?_⟩
  intro same
  have start : dateTimeToInt lastYear = 0 := by decide +kernel
  have fields := (intToDateTime_spec 0 (by decide) (by decide)).1
  rw [← start, same] at fields
  have seconds : (lastYear.fields lastYear.year.toNat).seconds = 0 :=
    fields ▸ (gmtime_spec (dateTimeToInt lastYear / 1000000)).2.trans (by rw [start]; rfl)
  exact absurd seconds (by decide +kernel)

end OnlineJudge
