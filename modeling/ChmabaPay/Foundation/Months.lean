import ChmabaPay.Foundation.Calendar

/-! # Calendar months in a row

The months are counted from the March of year zero. Every day lies in the month its
index names, months follow each other without a gap, and each has at least
twenty-eight and at most thirty-one days.
-/

namespace Calendar

/-! ## Years that start in March -/

/-- The first day of a year, counted from the first of its era. -/
def yearDay (year : Int) : Int := 365 * year + year / 4 - year / 100 + year / 400

theorem yearDay_succ (year : Int) :
    yearDay (year + 1) = yearDay year + 365 ∨ yearDay (year + 1) = yearDay year + 366 := by
  have hcentury (count : Int) : count / 100 = count / 4 / 25 := by omega
  have hera (count : Int) : count / 400 = count / 4 / 25 / 4 := by omega
  unfold yearDay
  rw [hcentury, hcentury, hera, hera]
  omega

theorem yearDay_era (era year : Int) :
    yearDay (year + era * 400) = 146097 * era + yearDay year := by
  unfold yearDay
  omega

/-- The days of an era with its leap days taken out, so that every year has as many. -/
def withoutLeapDays (dayOfEra : Int) : Int :=
  dayOfEra - dayOfEra / 1460 + dayOfEra / 36524 - dayOfEra / 146096

theorem withoutLeapDays_mono {first second : Int} (hle : first ≤ second) :
    withoutLeapDays first ≤ withoutLeapDays second := by
  have hera (count : Int) : count / 146096 = count / 36524 / 4 := by omega
  have hyears : first - first / 1460 ≤ second - second / 1460 := by omega
  unfold withoutLeapDays
  rw [hera, hera]
  omega

theorem withoutLeapDays_yearDay (year : Fin 400) :
    365 * (year : Int) ≤ withoutLeapDays (yearDay year) ∧
      withoutLeapDays (yearDay (year + 1) - 1) < 365 * (year + 1) := by
  revert year
  decide +kernel

def yearOfEra (dayOfEra : Int) : Int := withoutLeapDays dayOfEra / 365

/-- A day of an era lies in the year that is computed for it. -/
theorem yearOfEra_spec {dayOfEra : Int} (hfrom : 0 ≤ dayOfEra) (hto : dayOfEra < 146097) :
    (0 ≤ yearOfEra dayOfEra ∧ yearOfEra dayOfEra < 400) ∧
      yearDay (yearOfEra dayOfEra) ≤ dayOfEra ∧ dayOfEra < yearDay (yearOfEra dayOfEra + 1) := by
  have hbounds : 0 ≤ withoutLeapDays dayOfEra ∧ withoutLeapDays dayOfEra < 365 * 400 := by
    unfold withoutLeapDays
    omega
  have hyear : 0 ≤ yearOfEra dayOfEra ∧ yearOfEra dayOfEra < 400 := by
    unfold yearOfEra
    omega
  refine ⟨hyear, ?_, ?_⟩
  · by_contra hearly
    -- The day before the first of the year still counts for the year before.
    have hmono : withoutLeapDays dayOfEra ≤ withoutLeapDays (yearDay (yearOfEra dayOfEra) - 1) :=
      withoutLeapDays_mono (by omega)
    have hzero : yearOfEra dayOfEra ≠ 0 := by
      intro heq
      rw [heq] at hearly
      exact hearly hfrom
    have hlast := (withoutLeapDays_yearDay ⟨(yearOfEra dayOfEra - 1).toNat, by omega⟩).2
    have hcast : ((yearOfEra dayOfEra - 1).toNat : Int) = yearOfEra dayOfEra - 1 := by omega
    simp only [hcast, sub_add_cancel] at hlast
    unfold yearOfEra at hlast hmono
    omega
  · by_contra hlate
    have hmono : withoutLeapDays (yearDay (yearOfEra dayOfEra + 1)) ≤ withoutLeapDays dayOfEra :=
      withoutLeapDays_mono (by omega)
    have hnext : yearOfEra dayOfEra + 1 < 400 := by
      by_contra hend
      have heq : yearOfEra dayOfEra + 1 = 400 := by omega
      rw [heq] at hlate
      exact hlate hto
    have hfirst := (withoutLeapDays_yearDay ⟨(yearOfEra dayOfEra + 1).toNat, by omega⟩).1
    have hcast : ((yearOfEra dayOfEra + 1).toNat : Int) = yearOfEra dayOfEra + 1 := by omega
    simp only [hcast] at hfirst
    unfold yearOfEra at hfirst hmono
    omega

/-! ## Months -/

/-- The month of a day. -/
def monthIndex (day : Int) : Int :=
  let dayOfEra := day + 719468 - (day + 719468) / 146097 * 146097
  let year := yearOfEra dayOfEra + (day + 719468) / 146097 * 400
  12 * year + (5 * (dayOfEra - yearDay (yearOfEra dayOfEra)) + 2) / 153

/-- The first day of a month. -/
def monthDay (index : Int) : Int :=
  yearDay (index / 12) + (153 * (index % 12) + 2) / 5 - 719468

theorem monthDay_succ (index : Int) :
    monthDay index + 28 ≤ monthDay (index + 1) ∧ monthDay (index + 1) ≤ monthDay index + 31 := by
  obtain ⟨year, month, hmonth, hindex⟩ : ∃ year month : Int, (0 ≤ month ∧ month < 12) ∧
      index = 12 * year + month := ⟨index / 12, index % 12, by omega, by omega⟩
  have hyear : index / 12 = year := by omega
  by_cases hlast : month = 11
  · have hnext : (index + 1) / 12 = year + 1 := by omega
    have hleap := yearDay_succ year
    unfold monthDay
    rw [hnext, hyear]
    omega
  · have hnext : (index + 1) / 12 = year := by omega
    unfold monthDay
    rw [hnext, hyear]
    omega

theorem monthDay_strictMono : StrictMono monthDay :=
  strictMono_int_of_lt_succ fun index => by
    have hsucc := (monthDay_succ index).1
    omega

/-- Every day lies in its month. -/
theorem monthDay_monthIndex (day : Int) :
    monthDay (monthIndex day) ≤ day ∧ day < monthDay (monthIndex day + 1) := by
  obtain ⟨era, dayOfEra, ⟨hfrom, hto⟩, hday⟩ : ∃ era dayOfEra : Int,
      (0 ≤ dayOfEra ∧ dayOfEra < 146097) ∧ day + 719468 = era * 146097 + dayOfEra :=
    ⟨(day + 719468) / 146097, (day + 719468) % 146097, by omega, by omega⟩
  have hera : (day + 719468) / 146097 = era := by omega
  have hof : day + 719468 - era * 146097 = dayOfEra := by omega
  obtain ⟨-, hstart, hend⟩ := yearOfEra_spec hfrom hto
  have hlength := yearDay_succ (yearOfEra dayOfEra)
  have hperiod := yearDay_era era (yearOfEra dayOfEra)
  have hafter := yearDay_era era (yearOfEra dayOfEra + 1)
  unfold monthIndex
  rw [hera, hof]
  dsimp only
  generalize yearOfEra dayOfEra = year at *
  generalize hmonth : (5 * (dayOfEra - yearDay year) + 2) / 153 = month
  have hrange : 0 ≤ month ∧ month < 12 := by omega
  have hyear : (12 * (year + era * 400) + month) / 12 = year + era * 400 := by omega
  constructor
  · unfold monthDay
    rw [hyear]
    omega
  · by_cases hlast : month = 11
    · have hnext : (12 * (year + era * 400) + month + 1) / 12 = year + 1 + era * 400 := by omega
      unfold monthDay
      rw [hnext]
      omega
    · have hnext : (12 * (year + era * 400) + month + 1) / 12 = year + era * 400 := by omega
      unfold monthDay
      rw [hnext]
      omega

theorem monthIndex_eq_iff {day index : Int} :
    monthIndex day = index ↔ monthDay index ≤ day ∧ day < monthDay (index + 1) := by
  obtain ⟨hfrom, hto⟩ := monthDay_monthIndex day
  constructor
  · rintro rfl
    exact ⟨hfrom, hto⟩
  · rintro ⟨hstart, hend⟩
    have hbelow := monthDay_strictMono.lt_iff_lt.mp (hstart.trans_lt hto)
    have habove := monthDay_strictMono.lt_iff_lt.mp (hfrom.trans_lt hend)
    omega

theorem monthIndex_lt_iff {day index : Int} : monthIndex day < index ↔ day < monthDay index := by
  obtain ⟨hfrom, hto⟩ := monthDay_monthIndex day
  constructor
  · intro hlt
    exact hto.trans_le (monthDay_strictMono.monotone hlt)
  · intro hday
    exact monthDay_strictMono.lt_iff_lt.mp (hfrom.trans_lt hday)

theorem monthIndex_monthDay (index : Int) : monthIndex (monthDay index) = index :=
  monthIndex_eq_iff.mpr ⟨le_refl _, monthDay_strictMono (by omega)⟩

/-! ## What the calendar shows -/

/-- Month and year as the calendar shows them. -/
def shownMonth (index : Int) : Int × Int :=
  let month := if index % 12 < 10 then index % 12 + 3 else index % 12 - 9
  (if month ≤ 2 then index / 12 + 1 else index / 12, month)

/-- The month that follows a month of a year. -/
def followingMonth (month : Int × Int) : Int × Int :=
  if month.2 = 12 then (month.1 + 1, 1) else (month.1, month.2 + 1)

theorem shownMonth_succ (index : Int) :
    shownMonth (index + 1) = followingMonth (shownMonth index) := by
  unfold shownMonth followingMonth
  dsimp only
  by_cases hwinter : index % 12 < 10
  · by_cases hturn : (index + 1) % 12 < 10
    · rw [if_pos hwinter, if_pos hturn]
      split_ifs <;> simp <;> omega
    · rw [if_pos hwinter, if_neg hturn]
      split_ifs <;> simp <;> omega
  · by_cases hturn : (index + 1) % 12 < 10
    · rw [if_neg hwinter, if_pos hturn]
      split_ifs <;> simp <;> omega
    · rw [if_neg hwinter, if_neg hturn]
      split_ifs <;> simp <;> omega

theorem shownMonth_injective : Function.Injective shownMonth := by
  intro first second heq
  unfold shownMonth at heq
  obtain ⟨hyear, hmonth⟩ := Prod.mk.inj heq
  omega

/-- The day of the era, its year and the month of that year, from one division. -/
theorem monthIndex_parts (day : Int) :
    let dayOfEra := day + 719468 - (day + 719468) / 146097 * 146097
    let dayOfYear := dayOfEra - yearDay (yearOfEra dayOfEra)
    monthIndex day / 12 = yearOfEra dayOfEra + (day + 719468) / 146097 * 400 ∧
      monthIndex day % 12 = (5 * dayOfYear + 2) / 153 ∧
      yearDay (yearOfEra dayOfEra) = 365 * yearOfEra dayOfEra + yearOfEra dayOfEra / 4 -
        yearOfEra dayOfEra / 100 := by
  intro dayOfEra dayOfYear
  have hdays : 0 ≤ dayOfEra ∧ dayOfEra < 146097 := by omega
  obtain ⟨hyears, hstart, hend⟩ := yearOfEra_spec hdays.1 hdays.2
  have hlength := yearDay_succ (yearOfEra dayOfEra)
  have hmonth : 0 ≤ (5 * dayOfYear + 2) / 153 ∧ (5 * dayOfYear + 2) / 153 < 12 := by omega
  have hindex : monthIndex day = 12 * (yearOfEra dayOfEra + (day + 719468) / 146097 * 400) +
      (5 * dayOfYear + 2) / 153 := rfl
  refine ⟨by omega, by omega, ?_⟩
  have hera : yearOfEra dayOfEra / 400 = 0 := by omega
  unfold yearDay
  omega

theorem civilMonth_eq (day : Int) : civilMonth day = shownMonth (monthIndex day) := by
  obtain ⟨hyear, hmonth, hdays⟩ := monthIndex_parts day
  unfold shownMonth
  rw [hyear, hmonth, hdays]
  rfl

theorem civilDay_eq (day : Int) : civilDay day = day - monthDay (monthIndex day) + 1 := by
  obtain ⟨hyear, hmonth, hdays⟩ := monthIndex_parts day
  have hera := yearDay_era ((day + 719468) / 146097)
    (yearOfEra (day + 719468 - (day + 719468) / 146097 * 146097))
  have hshown : civilDay day =
      day + 719468 - (day + 719468) / 146097 * 146097 -
        (365 * yearOfEra (day + 719468 - (day + 719468) / 146097 * 146097) +
          yearOfEra (day + 719468 - (day + 719468) / 146097 * 146097) / 4 -
          yearOfEra (day + 719468 - (day + 719468) / 146097 * 146097) / 100) -
        (153 * (monthIndex day % 12) + 2) / 5 + 1 := by
    rw [hmonth, hdays]
    rfl
  rw [hshown, ← hdays]
  unfold monthDay
  rw [hyear, hera]
  omega

/-! ## Instants -/

/-- `replace(day=1)`: the first day of the month, at the same time of day. -/
def onFirstDay (moment : Instant) : Instant :=
  moment - days (civilDay (moment / days 1) - 1)

/-- The first instant of the month after an instant. -/
def nextMonthStart (moment : Instant) : Instant :=
  days (monthDay (monthIndex (moment / days 1) + 1))

theorem days_eq (count : Int) : days count = 86400000000 * count := by
  unfold days seconds
  omega

theorem days_div (count : Int) : days count / days 1 = count := by
  rw [days_eq, days_eq]
  omega

theorem monthStart_eq (moment : Instant) :
    monthStart moment = days (monthDay (monthIndex (moment / days 1))) := by
  unfold monthStart
  dsimp only
  rw [civilDay_eq]
  congr 1
  omega

theorem days_le_days {first second : Int} : days first ≤ days second ↔ first ≤ second := by
  rw [days_eq, days_eq]
  omega

theorem lt_days_iff {moment day : Int} : moment < days day ↔ moment / days 1 < day := by
  rw [days_eq, days_eq]
  omega

theorem monthStart_mono {first second : Instant} (hle : first ≤ second) :
    monthStart first ≤ monthStart second := by
  have hdays : first / days 1 ≤ second / days 1 :=
    Int.ediv_le_ediv (by decide) hle
  have hmonths : monthIndex (first / days 1) ≤ monthIndex (second / days 1) := by
    by_contra hlater
    have hbefore := monthIndex_lt_iff.mp (not_le.mp hlater)
    exact absurd ((monthDay_monthIndex (first / days 1)).1.trans hdays) (not_le.mpr hbefore)
  rw [monthStart_eq, monthStart_eq, days_le_days]
  exact monthDay_strictMono.monotone hmonths

theorem monthStart_le (moment : Instant) : monthStart moment ≤ moment := by
  have hin := (monthDay_monthIndex (moment / days 1)).1
  rw [monthStart_eq, ← not_lt, lt_days_iff]
  exact not_lt.mpr hin

theorem lt_nextMonthStart (moment : Instant) : moment < nextMonthStart moment := by
  rw [nextMonthStart, lt_days_iff]
  exact (monthDay_monthIndex (moment / days 1)).2

/-- Up to the next month the month stays the same, and from there on it does not. -/
theorem monthStart_le_of_lt {moment later : Instant} (hlt : later < nextMonthStart moment) :
    monthStart later ≤ monthStart moment := by
  rw [nextMonthStart, lt_days_iff, ← monthIndex_lt_iff] at hlt
  rw [monthStart_eq, monthStart_eq, days_le_days]
  exact monthDay_strictMono.monotone (Int.lt_add_one_iff.mp hlt)

theorem nextMonthStart_le {moment later : Instant} (hle : nextMonthStart moment ≤ later) :
    nextMonthStart moment ≤ monthStart later := by
  rw [nextMonthStart, ← not_lt, lt_days_iff, ← monthIndex_lt_iff, not_lt] at hle
  rw [nextMonthStart, monthStart_eq, days_le_days]
  exact monthDay_strictMono.monotone hle

/-- Thirty-two days after the start of a month the next one has begun, and the one after
that has not. -/
theorem onFirstDay_monthStart (moment : Instant) :
    onFirstDay (monthStart moment + days 32) = nextMonthStart moment := by
  generalize hindex : monthIndex (moment / days 1) = index
  have hdays : days (monthDay index) + days 32 = days (monthDay index + 32) := by
    rw [days_eq, days_eq, days_eq]
    omega
  have hsucc := monthDay_succ index
  have hafter := monthDay_succ (index + 1)
  have hnext : monthIndex (monthDay index + 32) = index + 1 :=
    monthIndex_eq_iff.mpr ⟨by omega, by omega⟩
  rw [onFirstDay, monthStart_eq, hindex, hdays, days_div, civilDay_eq, hnext, nextMonthStart,
    hindex, sub_eq_iff_eq_add, days_eq, days_eq, days_eq]
  ring

/-- The first instant of the next month is the first one the calendar shows in it. -/
theorem nextMonthStart_isLeast (moment : Instant) :
    IsLeast {later | civilMonth (later / days 1) =
      followingMonth (civilMonth (moment / days 1))} (nextMonthStart moment) := by
  constructor
  · rw [Set.mem_ofPred_eq, civilMonth_eq, civilMonth_eq, nextMonthStart, days_div,
      monthIndex_monthDay, shownMonth_succ]
  · intro later hlater
    rw [Set.mem_ofPred_eq, civilMonth_eq, civilMonth_eq, ← shownMonth_succ] at hlater
    rw [nextMonthStart, ← not_lt, lt_days_iff, ← monthIndex_lt_iff,
      shownMonth_injective hlater]
    exact lt_irrefl _

end Calendar
