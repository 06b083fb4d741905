import Mathlib.Algebra.Order.Round
import Mathlib.Data.Rat.Floor
import Zugli.Firmware.Sntp
import Zugli.Firmware.Tasks
import Zugli.Verif.Departures

/-!
# Minutes to a departure

The clock keeps the time of an SNTP reply without overflow, however long the board runs. The
minutes until a departure are right while the difference of the two times fits 64 bits, with room
to round; where it does not, the difference wraps around.
-/

namespace Zugli

open Serde

/-! ## Machine integers -/

/-- A value of 64 bits. -/
def Fits64 (value : Int) : Prop := -2 ^ 63 ≤ value ∧ value < 2 ^ 63

/-- A value of 64 bits does not wrap around. -/
theorem bmod_of_fits {value : Int} (fits : Fits64 value) : value.bmod (2 ^ 64) = value := by
  obtain ⟨lower, upper⟩ := fits
  exact Int.bmod_eq_of_le (by omega) (by omega)

/-- A difference that fits is exact. -/
theorem toInt_sub_of_fits {left right : Int64} (fits : Fits64 (left.toInt - right.toInt)) :
    (left - right).toInt = left.toInt - right.toInt := by
  rw [Int64.toInt_sub, bmod_of_fits fits]

/-- A sum that fits is exact. -/
theorem toInt_add_of_fits {left right : Int64} (fits : Fits64 (left.toInt + right.toInt)) :
    (left + right).toInt = left.toInt + right.toInt := by
  rw [Int64.toInt_add, bmod_of_fits fits]

/-! ## The clock -/

/-- The seconds of NTP counted from 1970. -/
theorem toInt_sample (secs : UInt32) :
    (Int64.ofNat secs.toNat - ntpToUnix).toInt = secs.toNat - 2208988800 := by
  have small := secs.toNat_lt
  have exact : (Int64.ofNat secs.toNat).toInt = secs.toNat := Int64.toInt_ofNat_of_lt (by omega)
  have epoch : ntpToUnix.toInt = 2208988800 := by decide
  rw [toInt_sub_of_fits, exact, epoch]
  rw [exact, epoch, Fits64]
  omega

/-- A clock sample is between 1900 and 2036. -/
theorem sync_bounds {received : Option (List UInt8)} {unix : Int64}
    (replied : sync received = some unix) :
    -2208988800 ≤ unix.toInt ∧ unix.toInt < 2 ^ 32 - 2208988800 := by
  obtain ⟨reply, _, sampled⟩ := Option.bind_eq_some_iff.mp replied
  split at sampled
  next => cases sampled
  next =>
    cases sampled
    generalize u32OfBigEndian _ _ _ _ = secs
    have small := secs.toNat_lt
    have sample := toInt_sample secs
    omega

/-- Seconds since boot fit, whatever the count of ticks. -/
theorem toInt_uptime (ticks : UInt64) :
    (Tasks.uptime ticks.toNat).toInt = (ticks.toNat / ticksPerSecond : Nat) := by
  have small := ticks.toNat_lt
  simp only [Tasks.uptime, ticksPerSecond]
  exact Int64.toInt_ofNat_of_lt (by omega)

/-- The clock goes on from its sample, second by second. -/
theorem toInt_nowUnix {tasks : Tasks} {received : Option (List UInt8)} {unix clock : Int64}
    {sampled now : UInt64} (replied : sync received = some unix)
    (later : sampled ≤ now)
    (clocked : (tasks.setClock sampled.toNat unix).nowUnix now.toNat = some clock) :
    clock.toInt = unix.toInt +
      ((now.toNat / ticksPerSecond : Nat) - (sampled.toNat / ticksPerSecond : Nat)) := by
  have bounds := sync_bounds replied
  have samples := toInt_uptime sampled
  have runs := toInt_uptime now
  have small := now.toNat_lt
  have order : sampled.toNat ≤ now.toNat := later
  simp only [Tasks.nowUnix, Tasks.setClock] at clocked
  obtain ⟨_, clocked⟩ := Option.ite_none_left_eq_some.mp clocked
  cases clocked
  simp only [ticksPerSecond] at samples runs ⊢
  have boot : (unix - Tasks.uptime sampled.toNat).toInt =
      unix.toInt - (sampled.toNat / 1000000 : Nat) := by
    rw [toInt_sub_of_fits, samples]
    rw [samples, Fits64]
    omega
  rw [toInt_add_of_fits, boot, runs]
  · omega
  · rw [boot, runs, Fits64]
    omega

/-! ## The minutes -/

/-- The minutes until a departure, rounded half up, within 16 bits. -/
def minutesBetween (departure now : Int) : Int :=
  min 65535 (max 0 (round (((departure - now : Int) : ℚ) / 60)))

/-- `minutes_until` computes the minutes, and no operation of it overflows. -/
structure Computes (departure now : Int64) : Prop where
  /-- The difference. -/
  difference : Fits64 (departure.toInt - now.toInt)
  /-- Half a minute more, where it is added. -/
  rounding : 0 < departure.toInt - now.toInt → Fits64 (departure.toInt - now.toInt + 30)
  /-- The result. -/
  minutes : ((minutesUntil departure now).toNat : Int) = minutesBetween departure.toInt now.toInt

/-- The difference to the clock fits, with half a minute more. -/
def WithinReach (clock departure : Int64) : Prop :=
  clock.toInt - 2 ^ 63 ≤ departure.toInt ∧ departure.toInt ≤ clock.toInt + 2 ^ 63 - 31

/-- Rounding half up is a division. -/
theorem round_div_sixty (seconds : Int) : round ((seconds : ℚ) / 60) = (seconds + 30) / 60 := by
  rw [round_eq]
  have half : (seconds : ℚ) / 60 + 1 / 2 = ((seconds + 30 : Int) : ℚ) / (60 : Nat) := by
    push_cast
    ring
  rw [half, Rat.floor_intCast_div_natCast]
  rfl

/-- The difference to a clock within reach. -/
theorem toInt_difference {departure now : Int64} (reach : WithinReach now departure) :
    (departure - now).toInt = departure.toInt - now.toInt :=
  toInt_sub_of_fits (by unfold Fits64; unfold WithinReach at reach; omega)

/-- The minutes to a clock within reach, of a departure that is ahead. -/
theorem toInt_minutes {departure now : Int64} (reach : WithinReach now departure)
    (ahead : 0 < departure.toInt - now.toInt) :
    ((departure - now + 30) / 60).toInt = (departure.toInt - now.toInt + 30) / 60 := by
  have thirty : (30 : Int64).toInt = 30 := rfl
  have sixty : (60 : Int64).toInt = 60 := rfl
  have sum : (departure - now + 30).toInt = departure.toInt - now.toInt + 30 := by
    rw [toInt_add_of_fits, toInt_difference reach, thirty]
    rw [toInt_difference reach, thirty, Fits64]
    unfold WithinReach at reach
    omega
  rw [Int64.toInt_div_of_ne_right _ _ (by decide), sum, sixty,
    Int.tdiv_eq_ediv_of_nonneg (by omega)]

/-- The minutes in the range of 16 bits. -/
theorem toNat_minutesUntil {departure now : Int64} (reach : WithinReach now departure) :
    ((minutesUntil departure now).toNat : Int) = minutesBetween departure.toInt now.toInt := by
  have difference := toInt_difference reach
  have minutes := toInt_minutes reach
  have zero : (0 : Int64).toInt = 0 := rfl
  rw [minutesBetween, round_div_sixty]
  generalize departure.toInt - now.toInt = seconds at difference minutes ⊢
  unfold minutesUntil
  by_cases past : departure - now ≤ 0
  · have gone : seconds ≤ 0 := by
      rw [Int64.le_iff_toInt_le, difference, zero] at past
      exact past
    simp only [past, if_true]
    have none : (0 : UInt16).toNat = 0 := rfl
    omega
  · have ahead : 0 < seconds := by
      rw [Int64.le_iff_toInt_le, difference, zero] at past
      omega
    have rounded := minutes ahead
    have most : (65535 : Int64).toInt = 65535 := rfl
    simp only [past, if_false, Int64.lt_iff_toInt_lt, rounded, zero, most]
    generalize (departure - now + 30) / 60 = minutes at rounded ⊢
    have nonneg : ¬(seconds + 30) / 60 < 0 := by omega
    by_cases long : 65535 < (seconds + 30) / 60
    · have largest : (65535 : UInt16).toNat = 65535 := rfl
      rw [if_neg nonneg, if_pos long, largest]
      omega
    · have positive : 0 ≤ minutes := by
        rw [Int64.le_iff_toInt_le, rounded, zero]
        omega
      rw [if_neg nonneg, if_neg long, UInt64.toNat_toUInt16, Int64.toNat_toUInt64_of_le positive,
        ← Int64.toNat_toInt, rounded]
      omega

/-- The minutes are computed if and only if the departure is within reach. -/
theorem computes_iff (departure now : Int64) : Computes departure now ↔ WithinReach now departure := by
  constructor
  · rintro ⟨difference, rounding, _⟩
    unfold Fits64 at difference rounding
    unfold WithinReach
    omega
  · intro reach
    refine ⟨?_, ?_, toNat_minutesUntil reach⟩ <;> unfold Fits64 <;> unfold WithinReach at reach
    · omega
    · omega

/-- Minutes do not decrease with the time of the departure. -/
theorem minutesBetween_mono {first second now : Int} (sooner : first ≤ second) :
    minutesBetween first now ≤ minutesBetween second now := by
  unfold minutesBetween
  rw [round_div_sixty, round_div_sixty]
  omega

/-- The minutes that are shown do not decrease. -/
def InOrder (departures : HVec Departure 3) : Prop :=
  departures.val.Pairwise fun first second =>
    ∀ sooner ∈ first.minutes, ∀ later ∈ second.minutes, sooner ≤ later

/-- The departures of a board are in order when those that qualify are within reach. -/
theorem inOrder_departures (sorting : UnstableSort) {clock : Int64} {sel : Selection}
    {board : Board} (reach : ∀ timed ∈ board.qualifying sel, WithinReach clock timed.1) :
    InOrder (board.departures sorting (some clock) sel) := by
  obtain ⟨chosen, left, perm, _, inOrder, _, shows⟩ :=
    board.departures_spec sorting (some clock) sel
  unfold InOrder
  rw [shows, List.pairwise_map]
  refine inOrder.imp_of_mem ?_
  intro first second isFirst isSecond sooner
  have reached : ∀ timed ∈ chosen, WithinReach clock timed.1 := fun timed member =>
    reach timed (perm.subset (List.mem_append_left left member))
  simp only [shown, Option.map_some, Option.mem_some_iff, forall_eq']
  rw [UInt16.le_iff_toNat_le, ← Int.ofNat_le, toNat_minutesUntil (reached first isFirst),
    toNat_minutesUntil (reached second isSecond)]
  exact minutesBetween_mono sooner

/-- For every clock that an SNTP reply sets and however long the board runs on: the clock is that
of the reply, as many seconds later as have passed. For every departure, the computation of the
minutes does not overflow and is right if and only if the departure is within reach; and so for all
the entries of a board that qualify, with the minutes that are shown in order. -/
theorem minutes_computed_iff (serde : SerdeJsonCore) (sorting : UnstableSort) (tasks : Tasks)
    (reply : Option (List UInt8)) (unix clock : Int64) (sampled now : UInt64)
    (replied : sync reply = some unix) (later : sampled ≤ now)
    (clocked : (tasks.setClock sampled.toNat unix).nowUnix now.toNat = some clock) :
    clock.toInt = unix.toInt +
        ((now.toNat / ticksPerSecond : Nat) - (sampled.toNat / ticksPerSecond : Nat)) ∧
      (∀ departure, Computes departure clock ↔ WithinReach clock departure) ∧
      ∀ body sel board, serde.fromSlice Board boardUnescapeSize body = some board →
        (((∀ timed ∈ board.qualifying sel, Computes timed.1 clock) ∧
            ∀ departures ∈ parseDepartures serde sorting (some clock) body sel,
              InOrder departures) ↔
          ∀ timed ∈ board.qualifying sel, WithinReach clock timed.1) := by
  refine ⟨toInt_nowUnix replied later clocked, fun departure => computes_iff departure clock, ?_⟩
  intro body sel board decoded
  constructor
  · rintro ⟨computes, _⟩ timed member
    exact (computes_iff timed.1 clock).mp (computes timed member)
  · intro reach
    refine ⟨fun timed member => (computes_iff timed.1 clock).mpr (reach timed member), ?_⟩
    intro departures parsed
    rw [parseDepartures_eq, decoded] at parsed
    cases parsed
    exact inOrder_departures sorting reach

/-! ## A departure out of reach -/

/-- An SNTP reply of 14 November 2023. -/
def novemberReply : List UInt8 := List.replicate 40 0 ++ [232, 254, 111, 128] ++ List.replicate 4 0

/-- The tasks of a board without a store. -/
def noStore : Tasks := .start ⟨none, .init, false⟩

/-- A service at the smallest time of 64 bits. -/
def earliest : ApiEntry :=
  ⟨some "T", some "4", some "000412", some "Tiefenbrunnen", some (-9223372036854775808)⟩

/-- What is kept of it. -/
def keptEarliest : Entry :=
  ⟨HString.ofString? "T", HString.ofString? "4", HString.ofString? "000412",
    HString.ofString? "Tiefenbrunnen", ⟨some Int64.minValue⟩⟩

/-- A board that lists it before the tram. -/
def earliestBoard : Board := ⟨⟨[keptEarliest, keptTram], by decide⟩⟩

/-- The text of the board is decoded. -/
theorem earliestBoard_decoded : SerdeJsonCore.reference.fromSlice Board boardUnescapeSize
    (stationboardText [earliest, tram]) = some earliestBoard := by
  have kept : earliest.DecodesTo keptEarliest := ⟨rfl, rfl, rfl, rfl, rfl⟩
  have keptToo : tram.DecodesTo keptTram := ⟨rfl, rfl, rfl, rfl, rfl⟩
  exact reference_stationboardText (.cons kept (.cons keptToo .nil))

/-- A departure that left long ago is shown as the farthest one, before one in ten minutes. -/
theorem earliest_shown_farthest :
    sync (some novemberReply) = some 1700000000 ∧
      (noStore.setClock 0 1700000000).nowUnix 0 = some 1700000000 ∧
      ¬Computes Int64.minValue 1700000000 ∧
      (parseDepartures .reference .reference (some 1700000000)
        (stationboardText [earliest, tram]) wholeStop).map
          (fun departures => departures.val.map Departure.minutes) =
        some [some 65535, some 10] := by
  refine ⟨by decide, by decide, ?_, ?_⟩
  · intro computes
    have reach := (computes_iff _ _).mp computes
    revert reach
    unfold WithinReach
    decide
  · rw [parseDepartures_eq, earliestBoard_decoded, Option.map_some, Option.map_some]
    have sorted : UnstableSort.reference.sort (fun entry : Int64 × Departure => entry.1.toInt)
        ((earliestBoard.qualifying wholeStop).map (shown (some 1700000000))) =
          (earliestBoard.qualifying wholeStop).map (shown (some 1700000000)) :=
      List.mergeSort_of_pairwise (by decide)
    simp only [Board.departures, sorted]
    decide

/-- Ten minutes ahead of that clock are computed. -/
theorem minutes_computed_november : Computes 1700000600 1700000000 := by
  have exactly := minutes_computed_iff .reference .reference noStore (some novemberReply) 1700000000
    1700000000 0 0 (by decide) (by decide) (by decide)
  refine (exactly.2.1 1700000600).mpr ?_
  unfold WithinReach
  decide

end Zugli
