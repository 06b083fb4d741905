/-!
# Swiss local time

Local civil time of a Unix instant, from the UTC offset that the EU daylight saving rules give it.
Euclidean divisions and remainders of the source are Lean's own; the divisions and remainders that
truncate are written out as such.
-/

namespace Zugli

/-- Whether `now` is within the window from `start` up to `stop`, which may wrap past midnight. -/
def inWindow (now start stop : UInt16) : Bool :=
  if start = stop then false
  else if start < stop then decide (start ≤ now ∧ now < stop)
  else decide (start ≤ now ∨ now < stop)

/-- Civil date of a count of days since the Unix epoch. -/
def civilFromDays (days : Int) : Int × Nat × Nat :=
  let shifted := days + 719468
  let era := shifted / 146097
  let dayOfEra := shifted - era * 146097
  let yearOfEra := (dayOfEra - dayOfEra.tdiv 1460 + dayOfEra.tdiv 36524 -
    dayOfEra.tdiv 146096).tdiv 365
  let year := yearOfEra + era * 400
  let dayOfYear := dayOfEra - (365 * yearOfEra + yearOfEra.tdiv 4 - yearOfEra.tdiv 100)
  let monthFromMarch := (5 * dayOfYear + 2).tdiv 153
  let day := (dayOfYear - (153 * monthFromMarch + 2).tdiv 5 + 1).toNat
  let month := (if monthFromMarch < 10 then monthFromMarch + 3 else monthFromMarch - 9).toNat
  (year + (if month ≤ 2 then 1 else 0), month, day)

/-- Days since the Unix epoch of a civil date. -/
def daysFromCivil (year : Int) (month day : Nat) : Int :=
  let year := if month ≤ 2 then year - 1 else year
  let era := year / 400
  let yearOfEra := year - era * 400
  let month : Int := month
  let dayOfYear := (153 * (if 2 < month then month - 3 else month + 9) + 2).tdiv 5 + day - 1
  let dayOfEra := yearOfEra * 365 + yearOfEra.tdiv 4 - yearOfEra.tdiv 100 + dayOfYear
  era * 146097 + dayOfEra - 719468

/-- Unix seconds of 01:00 UTC on the last Sunday of a month of 31 days. -/
def lastSunday0100Utc (year : Int) (month : Nat) : Int :=
  let last := daysFromCivil year month 31
  let weekday := (last + 4) % 7
  (last - weekday) * 86400 + 3600

/-- Switzerland's UTC offset at a Unix instant, in seconds. -/
def swissOffsetSeconds (unix : Int) : Int :=
  let year := (civilFromDays (unix / 86400)).1
  let dstStart := lastSunday0100Utc year 3
  let dstEnd := lastSunday0100Utc year 10
  if dstStart ≤ unix ∧ unix < dstEnd then 2 * 3600 else 3600

/-- Minutes since local midnight of a Unix instant. -/
def localMinutes (unix : Int) : UInt16 :=
  .ofNat (((unix + swissOffsetSeconds unix) % 86400).tdiv 60).toNat

/-- Local year, month, day, hour and minute of a Unix instant. -/
def localParts (unix : Int) : Int × Nat × Nat × Nat × Nat :=
  let localUnix := unix + swissOffsetSeconds unix
  let (y, m, d) := civilFromDays (localUnix / 86400)
  let sod := localUnix % 86400
  (y, m, d, (sod.tdiv 3600).toNat, ((sod.tmod 3600).tdiv 60).toNat)

end Zugli
