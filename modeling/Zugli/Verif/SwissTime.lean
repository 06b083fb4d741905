import Mathlib.Data.Set.Card
import Zugli.Verif.LocalTime

/-!
# Swiss civil time

The UTC offset follows the last Sundays of March and October, and the minutes of local time cover
the civil calendar except where the clocks are put forward or back.
-/

namespace Zugli

open Calendar

/-! ## Last Sundays -/

/-- Day of the week, from Sunday as zero. The Unix epoch was a Thursday. -/
def weekday (date : Date) : Int := (dayNumber date + 4) % 7

/-- Whether a date is the last Sunday of its month. -/
def LastSunday (date : Date) : Prop :=
  weekday date = 0 ∧ monthLength date.year date.month < date.day + 7

instance decidableLastSunday (date : Date) : Decidable (LastSunday date) :=
  inferInstanceAs (Decidable (_ ∧ _))

/-- Unix seconds of 01:00 UTC on a date. -/
def oneUtc (date : Date) : Int := dayNumber date * 86400 + 3600

/-- Days of one month differ in their counts as they do in the month. -/
theorem dayNumber_month {date other : Date} (sameYear : date.year = other.year)
    (sameMonth : date.month = other.month) :
    dayNumber date - date.day = dayNumber other - other.day := by
  rw [dayNumber_eq, dayNumber_eq]
  simp only [marchDay, marchMonth, marchYear, sameYear, sameMonth]
  omega

/-- A month has one last Sunday. -/
theorem lastSunday_unique {date other : Date} (last : LastSunday date)
    (otherLast : LastSunday other) (sameYear : date.year = other.year)
    (sameMonth : date.month = other.month) : date = other := by
  have counts := dayNumber_month sameYear sameMonth
  have inMonth := date.isDay
  have otherInMonth := other.isDay
  unfold LastSunday weekday at last otherLast
  rw [sameYear, sameMonth] at last inMonth
  exact Date.ext sameYear sameMonth (by omega)

/-- A month of 31 days switches at 01:00 UTC on its last Sunday. -/
theorem lastSunday0100Utc_eq (year : Int) (month : Nat) (isMonth : 1 ≤ month ∧ month ≤ 12)
    (long : monthLength year month = 31) :
    ∃ date : Date, date.year = year ∧ date.month = month ∧ LastSunday date ∧
      lastSunday0100Utc year month = oneUtc date := by
  let thirtyFirst : Date := ⟨year, month, 31, isMonth, by omega⟩
  let back := (dayNumber thirtyFirst + 4) % 7
  let date : Date := ⟨year, month, 31 - back.toNat, isMonth, by omega⟩
  have counts : dayNumber date - (31 - back.toNat : Nat) = dayNumber thirtyFirst - (31 : Nat) :=
    @dayNumber_month date thirtyFirst rfl rfl
  have numbered : dayNumber date = dayNumber thirtyFirst - back := by omega
  refine ⟨date, rfl, rfl, ⟨?_, ?_⟩, ?_⟩
  · show (dayNumber date + 4) % 7 = 0
    omega
  · show monthLength year month < 31 - back.toNat + 7
    omega
  · show (dayNumber thirtyFirst - back) * 86400 + 3600 = oneUtc date
    rw [oneUtc, numbered]

/-- The year from March of a date begins within its year, and ends two months into the next. -/
theorem marchYear_bounds (date : Date) :
    marchYear date = date.year ∨ marchYear date + 1 = date.year ∧ 306 ≤ marchDay date := by
  have day := date.isDay
  have month := date.isMonth
  unfold marchYear marchDay marchMonth
  split
  · right
    rw [if_neg (by omega)]
    omega
  · left
    rfl

/-- Days from the first of March on belong to the year that begins then. -/
theorem march_of_late {date : Date} (late : 3 ≤ date.month) :
    marchYear date = date.year ∧
      marchDay date = (153 * ((date.month : Int) - 3) + 2) / 5 + date.day - 1 := by
  unfold marchYear marchDay marchMonth
  rw [if_neg (by omega)]
  exact ⟨rfl, by rw [if_pos (by omega)]⟩

/-- Days before a year, but for the leap days of which there are fewer than days. -/
theorem leapDays_mono {year later : Int} (earlier : year ≤ later) :
    year / 4 - year / 100 + year / 400 ≤ later / 4 - later / 100 + later / 400 := by
  have centuries : year / 100 = year / 4 / 25 ∧ later / 100 = later / 4 / 25 := by omega
  rw [centuries.1, centuries.2]
  omega

/-- The days of a year on which the clocks are put forward and back. -/
structure Switches (year : Int) (march october : Date) : Prop where
  /-- The clocks are put forward in the year. -/
  marchYear : march.year = year
  /-- They are put forward in March. -/
  isMarch : march.month = 3
  /-- They are put forward on its last Sunday. -/
  marchLast : LastSunday march
  /-- The clocks are put back in the year. -/
  octoberYear : october.year = year
  /-- They are put back in October. -/
  isOctober : october.month = 10
  /-- They are put back on its last Sunday. -/
  octoberLast : LastSunday october

namespace Switches

variable {year : Int} {march october : Date}

/-- A year has one day for each switch. -/
theorem unique {otherMarch otherOctober : Date} (switches : Switches year march october)
    (others : Switches year otherMarch otherOctober) :
    march = otherMarch ∧ october = otherOctober := by
  constructor
  · exact lastSunday_unique switches.marchLast others.marchLast
      (switches.marchYear.trans others.marchYear.symm)
      (switches.isMarch.trans others.isMarch.symm)
  · exact lastSunday_unique switches.octoberLast others.octoberLast
      (switches.octoberYear.trans others.octoberYear.symm)
      (switches.isOctober.trans others.isOctober.symm)

/-- The days from one switch to the next lie within the year. -/
theorem year_of_between (switches : Switches year march october) {date : Date}
    (started : dayNumber march ≤ dayNumber date) (going : dayNumber date ≤ dayNumber october) :
    date.year = year := by
  have inYear := (marchDay_bounds date).1
  have fromMarch := marchYear_bounds date
  obtain ⟨marchYear, marchDay⟩ := @march_of_late march (by rw [switches.isMarch])
  obtain ⟨octoberYear, octoberDay⟩ := @march_of_late october
    (by rw [switches.isOctober]; decide)
  have marchLate : 1 < march.day := by
    have last := switches.marchLast.2
    rw [switches.isMarch, show monthLength march.year 3 = 31 from rfl] at last
    omega
  have octoberEnds : october.day ≤ 31 := by
    have inMonth := october.isDay.2
    rwa [switches.isOctober, show monthLength october.year 10 = 31 from rfl] at inMonth
  rw [dayNumber_eq, dayNumber_eq date, marchYear, marchDay, switches.isMarch,
    switches.marchYear] at started
  rw [dayNumber_eq, dayNumber_eq october, octoberYear, octoberDay, switches.isOctober,
    switches.octoberYear] at going
  have notBefore : year ≤ date.year := by
    by_contra before
    have leapDays := @leapDays_mono (Zugli.marchYear date) year (by omega)
    omega
  omega

/-- The clocks are put forward before they are put back. -/
theorem ordered (switches : Switches year march october) :
    dayNumber march < dayNumber october := by
  obtain ⟨marchYear, marchDay⟩ := @march_of_late march (by rw [switches.isMarch])
  obtain ⟨octoberYear, octoberDay⟩ := @march_of_late october
    (by rw [switches.isOctober]; decide)
  have marchEnds : march.day ≤ 31 := by
    have inMonth := march.isDay.2
    rwa [switches.isMarch, show monthLength march.year 3 = 31 from rfl] at inMonth
  rw [dayNumber_eq, dayNumber_eq october, marchYear, marchDay, switches.isMarch,
    switches.marchYear, octoberYear, octoberDay, switches.isOctober, switches.octoberYear]
  omega

end Switches

/-- Every year has its switches, at the instants the firmware computes. -/
theorem exists_switches (year : Int) :
    ∃ march october, Switches year march october ∧
      lastSunday0100Utc year 3 = oneUtc march ∧ lastSunday0100Utc year 10 = oneUtc october := by
  obtain ⟨march, marchYear, isMarch, marchLast, starts⟩ :=
    lastSunday0100Utc_eq year 3 (by decide) rfl
  obtain ⟨october, octoberYear, isOctober, octoberLast, ends⟩ :=
    lastSunday0100Utc_eq year 10 (by decide) rfl
  exact ⟨march, october,
    ⟨marchYear, isMarch, marchLast, octoberYear, isOctober, octoberLast⟩, starts, ends⟩

/-! ## The offset -/

/-- Any count of days since the Unix epoch is that of a date. -/
theorem exists_dayNumber (days : Int) : ∃ date, dayNumber date = days :=
  exists_number dayNumber_next epoch days

/-- The offset is that of summer time between the switches of the year in UTC. -/
theorem swissOffsetSeconds_eq {unix : Int} {date march october : Date}
    (numbered : dayNumber date = unix / 86400) (switches : Switches date.year march october) :
    swissOffsetSeconds unix =
      if oneUtc march ≤ unix ∧ unix < oneUtc october then 7200 else 3600 := by
  obtain ⟨otherMarch, otherOctober, others, starts, ends⟩ := exists_switches date.year
  obtain ⟨rfl, rfl⟩ := switches.unique others
  have year : (civilFromDays (unix / 86400)).1 = date.year := by
    rw [← numbered, civilFromDays_dayNumber, Date.parts]
  rw [swissOffsetSeconds, year, starts, ends]
  rfl

/-- The switches of the year of the local date decide the offset too. -/
theorem swissOffsetSeconds_local {unix : Int} {date march october : Date}
    (numbered : dayNumber date = (unix + 3600) / 86400 ∨ dayNumber date = (unix + 7200) / 86400)
    (switches : Switches date.year march october) :
    swissOffsetSeconds unix =
      if oneUtc march ≤ unix ∧ unix < oneUtc october then 7200 else 3600 := by
  obtain ⟨utcDate, utcNumbered⟩ := exists_dayNumber (unix / 86400)
  obtain ⟨utcMarch, utcOctober, utcSwitches, -, -⟩ := exists_switches utcDate.year
  rw [swissOffsetSeconds_eq utcNumbered utcSwitches]
  have sameYear (within : oneUtc utcMarch ≤ unix ∧ unix < oneUtc utcOctober ∨
      oneUtc march ≤ unix ∧ unix < oneUtc october) : date.year = utcDate.year := by
    unfold oneUtc at within
    rcases within with within | within
    · exact utcSwitches.year_of_between (by omega) (by omega)
    · exact (switches.year_of_between (by omega) (by omega)).symm
  refine if_congr ⟨fun within => ?_, fun within => ?_⟩ rfl rfl
  · rw [← sameYear (.inl within)] at utcSwitches
    obtain ⟨rfl, rfl⟩ := switches.unique utcSwitches
    exact within
  · rw [sameYear (.inr within)] at switches
    obtain ⟨rfl, rfl⟩ := switches.unique utcSwitches
    exact within

/-! ## The minutes of local time -/

/-- Seconds from the Unix epoch to a minute of a civil date, without an offset. -/
def civilSeconds (date : Date) (hour minute : Nat) : Int :=
  dayNumber date * 86400 + hour * 3600 + minute * 60

/-- Dates are told apart by their counts of days. -/
theorem dayNumber_injective {date other : Date} (sameNumber : dayNumber date = dayNumber other) :
    date = other := by
  have sameParts : date.parts = other.parts := by
    rw [← civilFromDays_dayNumber, sameNumber, civilFromDays_dayNumber]
  simp only [Date.parts, Prod.mk.injEq] at sameParts
  exact Date.ext sameParts.1 sameParts.2.1 sameParts.2.2

/-- The local parts of an instant are those of the civil minute it lies in. -/
theorem localParts_iff (unix : Int) (date : Date) {hour minute : Nat} (isHour : hour < 24)
    (isMinute : minute < 60) :
    localParts unix = (date.year, date.month, date.day, hour, minute) ↔
      (unix + swissOffsetSeconds unix) / 60 * 60 = civilSeconds date hour minute := by
  obtain ⟨localDate, numbered⟩ := exists_dayNumber ((unix + swissOffsetSeconds unix) / 86400)
  have nonneg : 0 ≤ (unix + swissOffsetSeconds unix) % 86400 := by omega
  have parts : localParts unix = (localDate.year, localDate.month, localDate.day,
      ((unix + swissOffsetSeconds unix) % 86400 / 3600).toNat,
      ((unix + swissOffsetSeconds unix) % 86400 % 3600 / 60).toNat) := by
    simp only [localParts, ← numbered, civilFromDays_dayNumber, Date.parts]
    rw [Int.tdiv_eq_ediv_of_nonneg nonneg, Int.tmod_eq_emod_of_nonneg nonneg,
      Int.tdiv_eq_ediv_of_nonneg (by omega)]
  rw [parts, civilSeconds]
  generalize unix + swissOffsetSeconds unix = shifted at numbered
  constructor
  · intro same
    simp only [Prod.mk.injEq] at same
    obtain ⟨sameYear, sameMonth, sameDay, sameHour, sameMinute⟩ := same
    obtain rfl : localDate = date := Date.ext sameYear sameMonth sameDay
    omega
  · intro same
    obtain rfl : localDate = date := dayNumber_injective (by omega)
    simp only [Prod.mk.injEq, true_and]
    omega

/-- The local minute of a day counts its hours and minutes. -/
theorem localMinutes_eq (unix : Int) :
    ∃ (date : Date) (hour minute : Nat),
      localParts unix = (date.year, date.month, date.day, hour, minute) ∧
        hour < 24 ∧ minute < 60 ∧ (localMinutes unix).toNat = 60 * hour + minute := by
  obtain ⟨date, numbered⟩ := exists_dayNumber ((unix + swissOffsetSeconds unix) / 86400)
  let second := (unix + swissOffsetSeconds unix) % 86400
  have nonneg : 0 ≤ second := by omega
  have isHour : (second / 3600).toNat < 24 := by omega
  have isMinute : (second % 3600 / 60).toNat < 60 := by omega
  refine ⟨date, (second / 3600).toNat, (second % 3600 / 60).toNat, ?_, isHour, isMinute, ?_⟩
  · rw [localParts_iff unix date isHour isMinute, civilSeconds]
    omega
  · rw [localMinutes, Int.tdiv_eq_ediv_of_nonneg nonneg, UInt16.toNat_ofNat']
    omega

/-- The offset is a whole number of minutes. -/
theorem swissOffsetSeconds_cases (unix : Int) :
    swissOffsetSeconds unix = 3600 ∨ swissOffsetSeconds unix = 7200 := by
  simp only [swissOffsetSeconds]
  split
  · exact .inr rfl
  · exact .inl rfl

/-- A whole minute shows a civil minute when it is one offset before it. -/
theorem localParts_minute_iff (n : Int) (date : Date) {hour minute : Nat} (isHour : hour < 24)
    (isMinute : minute < 60) :
    localParts (60 * n) = (date.year, date.month, date.day, hour, minute) ↔
      60 * n + swissOffsetSeconds (60 * n) = civilSeconds date hour minute := by
  rw [localParts_iff _ date isHour isMinute]
  rcases swissOffsetSeconds_cases (60 * n) with winter | summer
  · rw [winter]
    omega
  · rw [summer]
    omega

/-- The whole minutes that show a civil minute: the one an hour before it unless the clocks are
forward there, and the one two hours before it if they are. -/
theorem shown_iff {date march october : Date} (switches : Switches date.year march october)
    (n : Int) {hour minute : Nat} (isHour : hour < 24) (isMinute : minute < 60) :
    localParts (60 * n) = (date.year, date.month, date.day, hour, minute) ↔
      60 * n + 3600 = civilSeconds date hour minute ∧
          ¬ (oneUtc march + 3600 ≤ civilSeconds date hour minute ∧
            civilSeconds date hour minute < oneUtc october + 3600) ∨
        60 * n + 7200 = civilSeconds date hour minute ∧
          (oneUtc march + 7200 ≤ civilSeconds date hour minute ∧
            civilSeconds date hour minute < oneUtc october + 7200) := by
  have inDay : civilSeconds date hour minute / 86400 = dayNumber date := by
    unfold civilSeconds
    omega
  have known (hourBefore : 60 * n + 3600 = civilSeconds date hour minute ∨
      60 * n + 7200 = civilSeconds date hour minute) : swissOffsetSeconds (60 * n) =
        if oneUtc march ≤ 60 * n ∧ 60 * n < oneUtc october then 7200 else 3600 :=
    swissOffsetSeconds_local (by omega) switches
  rw [localParts_minute_iff _ date isHour isMinute]
  rcases swissOffsetSeconds_cases (60 * n) with winter | summer
  · rw [winter] at known ⊢
    grind
  · rw [summer] at known ⊢
    grind

/-- The days of the switches are the last Sundays of March and October. -/
theorem Switches.days_iff {date march october : Date}
    (switches : Switches date.year march october) :
    (LastSunday date ∧ date.month = 3 ↔ dayNumber date = dayNumber march) ∧
      (LastSunday date ∧ date.month = 10 ↔ dayNumber date = dayNumber october) := by
  refine ⟨⟨fun isSwitch => ?_, fun same => ?_⟩, fun isSwitch => ?_, fun same => ?_⟩
  · rw [lastSunday_unique isSwitch.1 switches.marchLast switches.marchYear.symm
      (isSwitch.2.trans switches.isMarch.symm)]
  · rw [dayNumber_injective same]
    exact ⟨switches.marchLast, switches.isMarch⟩
  · rw [lastSunday_unique isSwitch.1 switches.octoberLast switches.octoberYear.symm
      (isSwitch.2.trans switches.isOctober.symm)]
  · rw [dayNumber_injective same]
    exact ⟨switches.octoberLast, switches.isOctober⟩

/-- A civil minute is shown by one whole minute, by none in the hour left out in March, and by two
in the hour repeated in October. -/
theorem shown_encard (date : Date) {hour minute : Nat} (isHour : hour < 24)
    (isMinute : minute < 60) :
    Set.encard {n : Int | localParts (60 * n) = (date.year, date.month, date.day, hour, minute)} =
      if hour = 2 ∧ LastSunday date ∧ date.month = 3 then 0
      else if hour = 2 ∧ LastSunday date ∧ date.month = 10 then 2
      else 1 := by
  obtain ⟨march, october, switches, -, -⟩ := exists_switches date.year
  have ordered := switches.ordered
  obtain ⟨winter, whole⟩ : ∃ n : Int, 60 * n + 3600 = civilSeconds date hour minute :=
    ⟨(civilSeconds date hour minute - 3600) / 60, by
      unfold civilSeconds
      omega⟩
  have shown (n : Int) := shown_iff switches n isHour isMinute
  simp only [switches.days_iff.1, switches.days_iff.2]
  unfold oneUtc at shown
  have seconds : civilSeconds date hour minute =
      dayNumber date * 86400 + hour * 3600 + minute * 60 := rfl
  split_ifs with leftOut repeated
  · rw [Set.encard_eq_zero, Set.eq_empty_iff_forall_notMem]
    intro n shows
    rw [Set.mem_ofPred_eq, shown] at shows
    omega
  · rw [← Set.encard_pair (show winter ≠ winter - 60 by omega)]
    congr 1
    ext n
    rw [Set.mem_ofPred_eq, shown, Set.mem_insert_iff, Set.mem_singleton_iff]
    omega
  · by_cases forward : dayNumber march * 86400 + 3600 + 3600 ≤ civilSeconds date hour minute ∧
        civilSeconds date hour minute < dayNumber october * 86400 + 3600 + 3600
    · rw [← Set.encard_singleton (winter - 60)]
      congr 1
      ext n
      rw [Set.mem_ofPred_eq, shown, Set.mem_singleton_iff]
      omega
    · rw [← Set.encard_singleton winter]
      congr 1
      ext n
      rw [Set.mem_ofPred_eq, shown, Set.mem_singleton_iff]
      omega

/-- Swiss civil time is right at every instant. Days are counted along the calendar; the offset is
two hours between the switches of the year in UTC and one hour otherwise; the local minute is that
of the local parts; and every civil minute is shown by one whole minute, but for the hour left out
in March, which none shows, and the hour repeated in October, which two show. -/
theorem swissTime_right :
    (dayNumber epoch = 0 ∧ ∀ date : Date, dayNumber date.next = dayNumber date + 1) ∧
      (∀ unix : Int, ∃ date march october : Date, dayNumber date = unix / 86400 ∧
        Switches date.year march october ∧
        swissOffsetSeconds unix =
          if oneUtc march ≤ unix ∧ unix < oneUtc october then 7200 else 3600) ∧
      (∀ unix : Int, ∃ (date : Date) (hour minute : Nat),
        localParts unix = (date.year, date.month, date.day, hour, minute) ∧
          hour < 24 ∧ minute < 60 ∧ (localMinutes unix).toNat = 60 * hour + minute) ∧
      ∀ (date : Date) (hour : Fin 24) (minute : Fin 60),
        Set.encard {n : Int | localParts (60 * n) =
            (date.year, date.month, date.day, (hour : Nat), (minute : Nat))} =
          if (hour : Nat) = 2 ∧ LastSunday date ∧ date.month = 3 then 0
          else if (hour : Nat) = 2 ∧ LastSunday date ∧ date.month = 10 then 2
          else 1 := by
  refine ⟨⟨by decide, dayNumber_next⟩, fun unix => ?_, localMinutes_eq,
    fun date hour minute => ?_⟩
  · obtain ⟨date, numbered⟩ := exists_dayNumber (unix / 86400)
    obtain ⟨march, october, switches, -, -⟩ := exists_switches date.year
    exact ⟨date, march, october, numbered, switches, swissOffsetSeconds_eq numbered switches⟩
  · exact shown_encard date hour.isLt minute.isLt

end Zugli
