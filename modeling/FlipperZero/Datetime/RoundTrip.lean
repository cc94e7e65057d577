import FlipperZero.Datetime.Datetime
import FlipperZero.Foundation.Pieces
import Mathlib.Tactic.IntervalCases

/-!
# From timestamps to dates and back

Both directions are compared with the number of seconds since the epoch, which is a sum over the
years and the months before a date.
-/

namespace FlipperZero.Datetime

open Foundation

/-! ### Day and second numbers -/

/-- The days of the year `y`. -/
def yearDays (y : Nat) : Nat := (datetimeGetDaysPerYear (UInt16.ofNat y)).toNat

/-- The days of month `m` of a year that is a leap year or not. -/
def monthDays (leapYear : Bool) (m : Nat) : Nat :=
  ((datetimeDaysPerMonth leapYear)[m - 1]?.getD 0).toNat

def DateTime.DayExists (dt : DateTime) : Prop :=
  ∃ n, datetimeGetDaysPerMonth (datetimeIsLeapYear dt.year) dt.month = some n ∧
    1 ≤ dt.day ∧ dt.day ≤ n

/-- Hour, minute and second are in the ranges that the fields are documented with. -/
def DateTime.InClock (dt : DateTime) : Prop :=
  dt.hour ≤ 23 ∧ dt.minute ≤ 59 ∧ dt.second ≤ 59

/-- The days of the year that have passed. -/
def DateTime.dayOfYear (dt : DateTime) : Nat :=
  pieceStart (monthDays (datetimeIsLeapYear dt.year)) 1 dt.month.toNat + (dt.day.toNat - 1)

/-- The days since the epoch. -/
def DateTime.dayNumber (dt : DateTime) : Nat :=
  pieceStart yearDays 1970 dt.year.toNat + dt.dayOfYear

/-- The seconds since the epoch. -/
def DateTime.secondNumber (dt : DateTime) : Nat :=
  dt.dayNumber * 86400 + dt.hour.toNat * 3600 + dt.minute.toNat * 60 + dt.second.toNat

lemma datetimeGetDaysPerYear_toNat (year : UInt16) :
    (datetimeGetDaysPerYear year).toNat = yearDays year.toNat := by
  simp [yearDays]

lemma yearDays_eq (y : Nat) :
    yearDays y = if datetimeIsLeapYear (UInt16.ofNat y) then 366 else 365 := by
  unfold yearDays datetimeGetDaysPerYear
  cases datetimeIsLeapYear (UInt16.ofNat y) <;> rfl

lemma yearDays_pos (y : Nat) : 0 < yearDays y := by
  rw [yearDays_eq]; split_ifs <;> simp

lemma datetimeGetDaysPerMonth_eq_some {leapYear : Bool} {month n : UInt8}
    (h : datetimeGetDaysPerMonth leapYear month = some n) :
    1 ≤ month.toNat ∧ month.toNat ≤ 12 ∧ n.toNat = monthDays leapYear month.toNat := by
  have hlt := (List.getElem?_eq_some_iff.mp h).1
  have hlen : (datetimeDaysPerMonth leapYear).length = 12 := by cases leapYear <;> rfl
  have hone : 1 ≤ month.toNat := by
    by_contra h0
    have hz : month = 0 := by rw [← UInt8.toNat_inj]; simp; omega
    subst hz
    rw [hlen] at hlt
    exact absurd hlt (by decide)
  have hsub : (month - 1).toNat = month.toNat - 1 := by
    rw [UInt8.toNat_sub_of_le _ _ (by rw [UInt8.le_iff_toNat_le]; simpa using hone)]; rfl
  rw [hsub] at hlt
  rw [datetimeGetDaysPerMonth, hsub] at h
  refine ⟨hone, by omega, ?_⟩
  rw [monthDays, h, Option.getD_some]

lemma datetimeGetDaysPerMonth_of_le (leapYear : Bool) (month : UInt8) (h1 : 1 ≤ month.toNat)
    (h12 : month.toNat ≤ 12) :
    ∃ n, datetimeGetDaysPerMonth leapYear month = some n ∧
      n.toNat = monthDays leapYear month.toNat := by
  have hsub : (month - 1).toNat = month.toNat - 1 := by
    rw [UInt8.toNat_sub_of_le _ _ (by rw [UInt8.le_iff_toNat_le]; simpa using h1)]; rfl
  have hlen : (datetimeDaysPerMonth leapYear).length = 12 := by cases leapYear <;> rfl
  have hbound : month.toNat - 1 < (datetimeDaysPerMonth leapYear).length := by omega
  have hsome : datetimeGetDaysPerMonth leapYear month =
      some (datetimeDaysPerMonth leapYear)[month.toNat - 1] := by
    rw [datetimeGetDaysPerMonth, hsub, List.getElem?_eq_getElem]
  exact ⟨_, hsome, (datetimeGetDaysPerMonth_eq_some hsome).2.2⟩

/-! ### The loops over the years and the months -/

/-- Year `s.2` has been reached, with `s.1` of the `total` days left. -/
structure YearReached (total : Nat) (s : UInt32 × UInt16) : Prop where
  ge    : 1970 ≤ s.2.toNat
  le    : s.2.toNat ≤ 2106
  place : pieceStart yearDays 1970 s.2.toNat + s.1.toNat = total

/-- Month `s.2` has been reached, with `s.1` of the `total` days of the year left. -/
structure MonthReached (leapYear : Bool) (total : Nat) (s : UInt32 × UInt8) : Prop where
  ge    : 1 ≤ s.2.toNat
  le    : s.2.toNat ≤ 12
  place : pieceStart (monthDays leapYear) 1 s.2.toNat + s.1.toNat = total

lemma datetimeYearRound_meets {total : Nat} (ht : total ≤ 49710) {s : UInt32 × UInt16}
    (h : YearReached total s) :
    (datetimeYearRound s).Meets (YearReached total) (fun s => s.1.toNat)
      (fun s => YearReached total s ∧ s.1.toNat < yearDays s.2.toNat) s.1.toNat := by
  obtain ⟨days, year⟩ := s
  obtain ⟨hge, hle, hplace⟩ := h
  simp only at hge hle hplace
  have hlen : (datetimeGetDaysPerYear year).toUInt32.toNat = yearDays year.toNat := by
    simp [datetimeGetDaysPerYear_toNat]
  have hpos := yearDays_pos year.toNat
  by_cases hd : days ≥ (datetimeGetDaysPerYear year).toUInt32
  · simp only [datetimeYearRound, if_pos hd]
    have hnat : yearDays year.toNat ≤ days.toNat := by
      rw [← hlen]; exact UInt32.le_iff_toNat_le.mp hd
    have hsub : (days - (datetimeGetDaysPerYear year).toUInt32).toNat =
        days.toNat - yearDays year.toNat := by
      rw [UInt32.toNat_sub_of_le _ _ hd, hlen]
    have hnext : (year + 1).toNat = year.toNat + 1 := by
      rw [UInt16.toNat_add]; simp; omega
    have hstart := pieceStart_succ yearDays hge
    have hlast : year.toNat ≠ 2106 := by
      intro heq
      have hend : pieceStart yearDays 1970 (2106 + 1) = 50038 := by decide +kernel
      rw [heq] at hstart hnat hplace
      omega
    refine ⟨⟨?_, ?_, ?_⟩, ?_⟩ <;> simp only [hnext, hsub] <;> omega
  · simp only [datetimeYearRound, if_neg hd]
    refine ⟨⟨hge, hle, hplace⟩, ?_⟩
    have hlt := UInt32.lt_iff_toNat_lt.mp (UInt32.not_le.mp hd)
    rwa [hlen] at hlt

lemma pieceStart_monthDays_year (leapYear : Bool) :
    pieceStart (monthDays leapYear) 1 13 = (datetimeDaysPerYear leapYear).toNat := by
  cases leapYear <;> decide +kernel

lemma datetimeMonthRound_meets {leapYear : Bool} {total : Nat}
    (ht : total < (datetimeDaysPerYear leapYear).toNat) {s : UInt32 × UInt8}
    (h : MonthReached leapYear total s) :
    (datetimeMonthRound leapYear s).Meets (MonthReached leapYear total) (fun s => s.1.toNat)
      (fun o => ∃ s n, o = some s ∧ MonthReached leapYear total s ∧
        datetimeGetDaysPerMonth leapYear s.2 = some n ∧ s.1.toNat < n.toNat) s.1.toNat := by
  obtain ⟨days, month⟩ := s
  obtain ⟨hge, hle, hplace⟩ := h
  simp only at hge hle hplace
  obtain ⟨n, hn, hlen⟩ := datetimeGetDaysPerMonth_of_le leapYear month hge hle
  have hpos : 0 < monthDays leapYear month.toNat := by
    generalize month.toNat = m at hge hle
    cases leapYear <;> interval_cases m <;> decide
  by_cases hd : days ≥ n.toUInt32
  · simp only [datetimeMonthRound, hn, if_pos hd]
    have hnat : monthDays leapYear month.toNat ≤ days.toNat := by
      rw [← hlen]; simpa using UInt32.le_iff_toNat_le.mp hd
    have hsub : (days - n.toUInt32).toNat = days.toNat - monthDays leapYear month.toNat := by
      rw [UInt32.toNat_sub_of_le _ _ hd, ← hlen]; simp
    have hnext : (month + 1).toNat = month.toNat + 1 := by
      rw [UInt8.toNat_add]; simp; omega
    have hstart := pieceStart_succ (monthDays leapYear) hge
    have hlast : month.toNat ≠ 12 := by
      intro heq
      have hend : pieceStart (monthDays leapYear) 1 (12 + 1) = _ :=
        pieceStart_monthDays_year leapYear
      rw [heq] at hstart hnat hplace
      omega
    refine ⟨⟨?_, ?_, ?_⟩, ?_⟩ <;> simp only [hnext, hsub] <;> omega
  · simp only [datetimeMonthRound, hn, if_neg hd]
    refine ⟨(days, month), n, rfl, ⟨hge, hle, hplace⟩, hn, ?_⟩
    have hlt := UInt32.lt_iff_toNat_lt.mp (UInt32.not_le.mp hd)
    simpa using hlt

/-! ### What a timestamp is converted to -/

lemma hour_toNat {s : UInt32} (hs : s.toNat < 86400) :
    (s / secondsPerHour).toUInt8.toNat = s.toNat / 3600 := by
  rw [UInt32.toNat_toUInt8, UInt32.toNat_div]
  change s.toNat / 3600 % 256 = _
  omega

lemma minute_toNat (s : UInt32) :
    (s % secondsPerHour / secondsPerMinute).toUInt8.toNat = s.toNat % 3600 / 60 := by
  rw [UInt32.toNat_toUInt8, UInt32.toNat_div, UInt32.toNat_mod]
  change s.toNat % 3600 / 60 % 256 = _
  omega

lemma second_toNat (s : UInt32) :
    (s % secondsPerMinute).toUInt8.toNat = s.toNat % 60 := by
  rw [UInt32.toNat_toUInt8, UInt32.toNat_mod]
  change s.toNat % 60 % 256 = _
  omega

lemma datetimeTimestampToDatetime_spec (timestamp : UInt32) :
    ∃ dt, (∀ rounds, 49711 ≤ rounds → datetimeTimestampToDatetime rounds timestamp = some dt) ∧
      dt.DayExists ∧ dt.InClock ∧ 1970 ≤ dt.year.toNat ∧ dt.year.toNat ≤ 2106 ∧
      dt.secondNumber = timestamp.toNat := by
  have hdays : (timestamp / secondsPerDay).toNat = timestamp.toNat / 86400 := UInt32.toNat_div _ _
  have hsecs : (timestamp % secondsPerDay).toNat = timestamp.toNat % 86400 := UInt32.toNat_mod _ _
  have hmax := timestamp.toNat_lt
  have hstart : YearReached (timestamp.toNat / 86400) (timestamp / secondsPerDay, epochStartYear) :=
    ⟨Nat.le_refl 1970, by simp [epochStartYear], by simp [hdays, epochStartYear]⟩
  obtain ⟨⟨days, year⟩, hyears, hyear, hdayslt⟩ :=
    loop_total (n := 49711) (fun s => datetimeYearRound_meets (by omega)) hstart
      (by simp only [hdays]; omega)
  simp only at hdayslt
  have hlen : days.toNat < (datetimeDaysPerYear (datetimeIsLeapYear year)).toNat := by
    rw [← datetimeGetDaysPerYear_toNat] at hdayslt
    exact hdayslt
  have hfirst : MonthReached (datetimeIsLeapYear year) days.toNat (days, 1) :=
    ⟨Nat.le_refl 1, by simp, by simp⟩
  have hle : (datetimeDaysPerYear (datetimeIsLeapYear year)).toNat ≤ 366 := by
    cases datetimeIsLeapYear year <;> decide
  obtain ⟨_, hmonths, ⟨left, month⟩, n, rfl, hmonth, hn, hleft⟩ :=
    loop_total (n := 49711) (fun s => datetimeMonthRound_meets hlen) hfirst
      (by simp only; omega)
  have hnlt := n.toNat_lt
  have hday : (left + 1).toUInt8.toNat = left.toNat + 1 := by
    simp only at hleft
    rw [UInt32.toNat_toUInt8, UInt32.toNat_add]
    simp; omega
  have hclock : (timestamp % secondsPerDay).toNat < 86400 := by omega
  have hhour := hour_toNat hclock
  have hminute := minute_toNat (timestamp % secondsPerDay)
  have hsecond := second_toNat (timestamp % secondsPerDay)
  refine ⟨{
    hour    := (timestamp % secondsPerDay / secondsPerHour).toUInt8
    minute  := (timestamp % secondsPerDay % secondsPerHour / secondsPerMinute).toUInt8
    second  := (timestamp % secondsPerDay % secondsPerMinute).toUInt8
    day     := (left + 1).toUInt8
    month   := month
    year    := year
    weekday := ((timestamp / secondsPerDay + 3) % 7).toUInt8 + 1 },
    fun rounds hrounds => ?_, ⟨n, hn, ?_, ?_⟩, ⟨?_, ?_, ?_⟩, hyear.ge, hyear.le, ?_⟩
  · rw [datetimeTimestampToDatetime]
    simp only [loop_mono hyears hrounds, loop_mono hmonths hrounds, Option.bind_eq_bind,
      Option.bind_some, Option.pure_def]
  · rw [UInt8.le_iff_toNat_le, hday]; simp
  · rw [UInt8.le_iff_toNat_le, hday]; exact hleft
  · rw [UInt8.le_iff_toNat_le, hhour]
    change _ ≤ 23
    omega
  · rw [UInt8.le_iff_toNat_le, hminute]
    change _ ≤ 59
    omega
  · rw [UInt8.le_iff_toNat_le, hsecond]
    change _ ≤ 59
    omega
  · have hy := hyear.place
    have hm := hmonth.place
    simp only at hy hm
    simp only [DateTime.secondNumber, DateTime.dayNumber, DateTime.dayOfYear, hhour, hminute,
      hsecond, hday, hsecs]
    omega

/-! ### What a date is converted to -/

lemma countYear_next {counts : UInt8 × UInt8} {y : Nat}
    (hlt : counts.1.toNat + counts.2.toNat < 255) :
    (datetimeCountYear counts (UInt16.ofNat y)).1.toNat +
        (datetimeCountYear counts (UInt16.ofNat y)).2.toNat =
      counts.1.toNat + counts.2.toNat + 1 ∧
    (datetimeCountYear counts (UInt16.ofNat y)).1.toNat * 365 +
        (datetimeCountYear counts (UInt16.ofNat y)).2.toNat * 366 =
      counts.1.toNat * 365 + counts.2.toNat * 366 + yearDays y := by
  rw [yearDays_eq, datetimeCountYear]
  by_cases hleap : datetimeIsLeapYear (UInt16.ofNat y)
  · have hnext : (counts.2 + 1).toNat = counts.2.toNat + 1 := by
      rw [UInt8.toNat_add]; simp; omega
    simp only [if_pos hleap, hnext]
    omega
  · have hnext : (counts.1 + 1).toNat = counts.1.toNat + 1 := by
      rw [UInt8.toNat_add]; simp; omega
    simp only [if_neg hleap, hnext]
    omega

/-- The two counters hold the years since the epoch, as long as these fit them. -/
lemma countYears_spec (counts : UInt8 × UInt8) {k : Nat} (hk : k ≤ 255)
    (h : ((List.range' 1970 k).map UInt16.ofNat).foldl datetimeCountYear (0, 0) = counts) :
    counts.1.toNat + counts.2.toNat = k ∧
      counts.1.toNat * 365 + counts.2.toNat * 366 = pieceStart yearDays 1970 (1970 + k) := by
  induction k generalizing counts with
  | zero =>
    subst h
    simp
  | succ k ih =>
    simp only [List.range'_1_concat, List.map_append, List.map_cons, List.map_nil,
      List.foldl_append, List.foldl_cons, List.foldl_nil] at h
    obtain ⟨hsum, hdays⟩ := ih _ (Nat.le_of_succ_le hk) rfl
    have hlt := Nat.lt_of_lt_of_le (Nat.lt_of_le_of_lt (Nat.le_of_eq hsum) k.lt_succ_self) hk
    obtain ⟨hsum', hdays'⟩ := countYear_next (y := 1970 + k) hlt
    have hstart := pieceStart_succ yearDays (Nat.le_add_right 1970 k)
    rw [h] at hsum' hdays'
    rw [← Nat.add_assoc, hstart, hsum', hdays', hsum, hdays]
    exact ⟨rfl, rfl⟩

lemma addMonths_spec (leapYear : Bool) (timestamp : UInt32) {k : Nat} (hk : k ≤ 12) :
    ((List.range' 1 k).map UInt8.ofNat).foldlM (datetimeAddMonth leapYear) timestamp =
      some (timestamp + UInt32.ofNat (pieceStart (monthDays leapYear) 1 (1 + k) * 86400)) := by
  induction k with
  | zero => simp
  | succ k ih =>
    have hmonth : (UInt8.ofNat (1 + k)).toNat = 1 + k := by
      simp; omega
    obtain ⟨n, hn, hlen⟩ := datetimeGetDaysPerMonth_of_le leapYear (UInt8.ofNat (1 + k)) (by omega)
      (by omega)
    have hstart := pieceStart_succ (monthDays leapYear) (Nat.le_add_right 1 k)
    rw [hmonth] at hlen
    simp only [List.range'_1_concat, List.map_append, List.map_cons, List.map_nil,
      List.foldlM_append, ih (Nat.le_of_succ_le hk), List.foldlM_cons, List.foldlM_nil,
      Option.bind_eq_bind, Option.bind_some, datetimeAddMonth, hn, Option.pure_def]
    rw [← Nat.add_assoc, hstart, ← hlen, Nat.add_mul, UInt32.ofNat_add, UInt32.add_assoc,
      UInt32.ofNat_mul n.toNat, UInt32.ofNat_uInt8ToNat]
    rfl

/-- A date in the calendar is converted to the seconds since the epoch, modulo `2 ^ 32`. -/
lemma datetimeDatetimeToTimestamp_spec {dt : DateTime} (hday : dt.DayExists)
    (hge : 1970 ≤ dt.year.toNat) (hle : dt.year.toNat ≤ 2225) :
    datetimeDatetimeToTimestamp dt = some (UInt32.ofNat dt.secondNumber) := by
  obtain ⟨n, hn, hone, -⟩ := hday
  obtain ⟨hm1, hm12, -⟩ := datetimeGetDaysPerMonth_eq_some hn
  obtain ⟨-, hyears⟩ := countYears_spec (datetimeCountYears dt.year)
    (k := dt.year.toNat - 1970) (by omega) rfl
  rw [Nat.add_sub_cancel' hge] at hyears
  have hmonths := fun timestamp => addMonths_spec (datetimeIsLeapYear dt.year) timestamp
    (k := dt.month.toNat - 1) (by omega)
  rw [Nat.add_sub_cancel' hm1] at hmonths
  have hday : dt.day.toUInt32 - 1 = UInt32.ofNat (dt.day.toNat - 1) := by
    rw [UInt32.ofNat_sub, UInt32.ofNat_uInt8ToNat]
    · rfl
    · simpa using UInt8.le_iff_toNat_le.mp hone
  have hcounts : UInt32.ofNat (pieceStart yearDays 1970 dt.year.toNat) =
      (datetimeCountYears dt.year).1.toUInt32 * 365 +
        (datetimeCountYears dt.year).2.toUInt32 * 366 := by
    rw [← hyears, UInt32.ofNat_add, UInt32.ofNat_mul, UInt32.ofNat_mul, UInt32.ofNat_uInt8ToNat,
      UInt32.ofNat_uInt8ToNat]
    rfl
  rw [datetimeDatetimeToTimestamp]
  simp only [hmonths, Option.bind_eq_bind, Option.bind_some, Option.pure_def, hday]
  rw [DateTime.secondNumber, DateTime.dayNumber, DateTime.dayOfYear]
  simp only [UInt32.ofNat_add, UInt32.ofNat_mul, UInt32.ofNat_uInt8ToNat, hcounts,
    UInt32.add_mul]
  have hday : UInt32.ofNat 86400 = secondsPerDay := rfl
  have hhour : UInt32.ofNat 3600 = secondsPerHour := rfl
  have hminute : UInt32.ofNat 60 = secondsPerMinute := rfl
  have hcommon : (datetimeDaysPerYear false).toUInt32 = 365 := rfl
  have hleap : (datetimeDaysPerYear true).toUInt32 = 366 := rfl
  simp only [hday, hhour, hminute, hcommon, hleap, UInt32.add_assoc]

/-! ### Both ways -/

def DateTime.Same (dt dt' : DateTime) : Prop :=
  dt.year = dt'.year ∧ dt.month = dt'.month ∧ dt.day = dt'.day ∧ dt.hour = dt'.hour ∧
    dt.minute = dt'.minute ∧ dt.second = dt'.second

lemma DateTime.InClock.toNat {dt : DateTime} (h : dt.InClock) :
    dt.hour.toNat ≤ 23 ∧ dt.minute.toNat ≤ 59 ∧ dt.second.toNat ≤ 59 :=
  ⟨UInt8.le_iff_toNat_le.mp h.1, UInt8.le_iff_toNat_le.mp h.2.1, UInt8.le_iff_toNat_le.mp h.2.2⟩

lemma DateTime.DayExists.place {dt : DateTime} (h : dt.DayExists) :
    1 ≤ dt.month.toNat ∧ 1 ≤ dt.day.toNat ∧
      dt.day.toNat - 1 < monthDays (datetimeIsLeapYear dt.year) dt.month.toNat ∧
      dt.dayOfYear < yearDays dt.year.toNat := by
  obtain ⟨n, hn, hone, hle⟩ := h
  obtain ⟨hm, hm12, hlen⟩ := datetimeGetDaysPerMonth_eq_some hn
  have hone : 1 ≤ dt.day.toNat := by
    simpa using UInt8.le_iff_toNat_le.mp hone
  have hle := UInt8.le_iff_toNat_le.mp hle
  have hend := pieceStart_mono (monthDays (datetimeIsLeapYear dt.year)) 1
    (show dt.month.toNat + 1 ≤ 13 by omega)
  rw [pieceStart_succ _ hm, pieceStart_monthDays_year] at hend
  have hyear : yearDays dt.year.toNat = (datetimeDaysPerYear (datetimeIsLeapYear dt.year)).toNat :=
    (datetimeGetDaysPerYear_toNat dt.year).symm
  refine ⟨hm, hone, by omega, ?_⟩
  rw [DateTime.dayOfYear, hyear]
  omega

/-- Dates in the calendar that are as many seconds after the epoch are the same date. -/
lemma DateTime.same_of_secondNumber_eq {dt dt' : DateTime} (hday : dt.DayExists)
    (hclock : dt.InClock) (hge : 1970 ≤ dt.year.toNat) (hday' : dt'.DayExists)
    (hclock' : dt'.InClock) (hge' : 1970 ≤ dt'.year.toNat)
    (h : dt.secondNumber = dt'.secondNumber) : dt.Same dt' := by
  obtain ⟨hm, hone, hlt, hyear⟩ := hday.place
  obtain ⟨hm', hone', hlt', hyear'⟩ := hday'.place
  obtain ⟨hhour, hminute, hsecond⟩ := hclock.toNat
  obtain ⟨hhour', hminute', hsecond'⟩ := hclock'.toNat
  simp only [DateTime.secondNumber] at h
  have hnumber : dt.dayNumber = dt'.dayNumber := by omega
  rw [hnumber] at h
  obtain ⟨hy, hrest⟩ := piece_unique hge hge' hyear hyear' hnumber
  rw [UInt16.toNat_inj] at hy
  rw [DateTime.dayOfYear, DateTime.dayOfYear, hy] at hrest
  rw [hy] at hlt
  obtain ⟨hmonth, hd⟩ := piece_unique hm hm' hlt hlt' hrest
  refine ⟨hy, UInt8.toNat_inj.mp hmonth, UInt8.toNat_inj.mp (by omega), UInt8.toNat_inj.mp ?_,
    UInt8.toNat_inj.mp ?_, UInt8.toNat_inj.mp ?_⟩ <;> omega

lemma secondNumber_lt {dt : DateTime} (hday : dt.DayExists) (hclock : dt.InClock)
    (hle : dt.year.toNat ≤ 2105) : dt.secondNumber < 2 ^ 32 := by
  obtain ⟨-, -, -, hyear⟩ := hday.place
  obtain ⟨hhour, hminute, hsecond⟩ := hclock.toNat
  have hyears := pieceStart_mono yearDays 1970 hle
  have hend : pieceStart yearDays 1970 2105 = 49308 := by decide +kernel
  have hlen : yearDays dt.year.toNat ≤ 366 := by
    rw [yearDays_eq]; split_ifs <;> simp
  rw [DateTime.secondNumber, DateTime.dayNumber]
  omega

/-- A timestamp is converted to a day that exists, and back to itself; a date of the years 1970 to
2105 is converted to a timestamp, and back to itself. -/
theorem datetime_conversions_inverse :
    (∀ timestamp : UInt32, ∃ dt,
      (∀ rounds, 49711 ≤ rounds → datetimeTimestampToDatetime rounds timestamp = some dt) ∧
      1 ≤ dt.month ∧ dt.month ≤ 12 ∧ dt.DayExists ∧
      datetimeDatetimeToTimestamp dt = some timestamp) ∧
    ∀ dt : DateTime, 1970 ≤ dt.year → dt.year ≤ 2105 → dt.DayExists → dt.InClock →
      ∃ timestamp dt', datetimeDatetimeToTimestamp dt = some timestamp ∧
        (∀ rounds, 49711 ≤ rounds → datetimeTimestampToDatetime rounds timestamp = some dt') ∧
        dt'.Same dt := by
  constructor
  · intro timestamp
    obtain ⟨dt, hrun, hday, -, hge, hle, hsecond⟩ := datetimeTimestampToDatetime_spec timestamp
    have hback := datetimeDatetimeToTimestamp_spec hday hge (by omega)
    have ⟨n, hn, _⟩ := hday
    obtain ⟨hm1, hm12, -⟩ := datetimeGetDaysPerMonth_eq_some hn
    refine ⟨dt, hrun, ?_, ?_, hday, ?_⟩
    · rw [UInt8.le_iff_toNat_le]; exact hm1
    · rw [UInt8.le_iff_toNat_le]; exact hm12
    · rw [hback, hsecond, UInt32.ofNat_toNat]
  · intro dt hge hle hday hclock
    have hge := UInt16.le_iff_toNat_le.mp hge
    have hle := UInt16.le_iff_toNat_le.mp hle
    have hforth := datetimeDatetimeToTimestamp_spec hday hge (Nat.le_trans hle (by decide))
    obtain ⟨dt', hrun, hday', hclock', hge', -, hsecond⟩ :=
      datetimeTimestampToDatetime_spec (UInt32.ofNat dt.secondNumber)
    rw [UInt32.toNat_ofNat_of_lt' (secondNumber_lt hday hclock hle)] at hsecond
    exact ⟨_, dt', hforth, hrun,
      DateTime.same_of_secondNumber_eq hday' hclock' hge' hday hclock hge hsecond⟩

/-- The last second of a February in a leap year that is also a century. -/
theorem datetime_conversions_inverse_leap_day :
    ∃ timestamp dt', datetimeDatetimeToTimestamp ⟨23, 59, 59, 29, 2, 2000, 2⟩ = some timestamp ∧
      (∀ rounds, 49711 ≤ rounds → datetimeTimestampToDatetime rounds timestamp = some dt') ∧
      dt'.Same ⟨23, 59, 59, 29, 2, 2000, 2⟩ :=
  datetime_conversions_inverse.2 ⟨23, 59, 59, 29, 2, 2000, 2⟩ (by decide) (by decide)
    ⟨29, rfl, by decide, by decide⟩ ⟨by decide, by decide, by decide⟩

example : datetimeTimestampToDatetime 200 4294967295 = some ⟨6, 28, 15, 7, 2, 2106, 7⟩ := by
  decide +kernel

end FlipperZero.Datetime
