import Zugli.Lib.Runs
import Zugli.Verif.Minutes

/-!
# The wall clock

The clock is set by a sample and by nothing else, and it goes on from the sample with the seconds
since boot. It shows the true time until the seconds of NTP run over.
-/

namespace Zugli

open Serde

/-! ## What sets the clock -/

namespace Tasks

variable (serde : SerdeJsonCore) (sorting : UnstableSort)

/-- A step that is no successful sample. -/
def Event.setsNoClock : Event → Bool
  | .synced _ (some _) => false
  | _ => true

/-- A step without a sample keeps the clock. -/
theorem stepRunning_bootUnix (tasks : Tasks) {event : Event} (quiet : event.setsNoClock = true) :
    (tasks.stepRunning serde sorting event).1.bootUnix = tasks.bootUnix := by
  cases event with
  | accept request => rfl
  | handle index faults =>
    show (tasks.handleOne serde index faults).1.bootUnix = _
    unfold handleOne
    split
    · rfl
    · simp only
      split <;> rfl
  | configured octets =>
    show (tasks.configured octets).bootUnix = _
    unfold configured
    repeat' split
    all_goals rfl
  | addressChecked =>
    show tasks.addressChecked.1.bootUnix = _
    unfold addressChecked
    split <;> rfl
  | synced now unix =>
    cases unix with
    | none => rfl
    | some unix => cases quiet
  | networkUp =>
    show tasks.networkUp.bootUnix = _
    unfold networkUp
    split <;> rfl
  | polls now =>
    show (tasks.polls now).1.bootUnix = _
    unfold polls
    split <;> rfl
  | fetched now attempt =>
    show (tasks.fetched serde sorting now attempt).1.bootUnix = _
    unfold fetched
    split <;> rfl
  | timer now =>
    show (tasks.timer now).bootUnix = _
    unfold timer
    repeat' split
    all_goals rfl
  | woken =>
    show tasks.woken.bootUnix = _
    unfold woken
    repeat' split
    all_goals rfl
  | sampled now low => rfl
  | wipes now faults =>
    show (tasks.wipes serde now faults).1.bootUnix = _
    unfold wipes
    split <;> rfl
  | resets now => rfl

/-- Steps without a sample keep the clock. -/
theorem run_bootUnix (tasks : Tasks) {events : List Event}
    (quiet : ∀ event ∈ events, event.setsNoClock = true) :
    (Machine.run (step serde sorting) tasks events).1.bootUnix = tasks.bootUnix := by
  have stepped : ∀ event ∈ events, ∀ after : Tasks, after.bootUnix = tasks.bootUnix →
      (step serde sorting after event).1.bootUnix = tasks.bootUnix := by
    intro event member after same
    unfold step
    split
    · exact same
    · exact (stepRunning_bootUnix serde sorting after (quiet event member)).trans same
  exact Machine.run_invariant stepped rfl

/-- `net_ready_task` waits for a clock sample. -/
def AwaitsSample (tasks : Tasks) : Prop :=
  tasks.button ≠ .reset ∧ (tasks.netReady = .syncing ∨ tasks.netReady = .resyncing)

/-- An awaited sample sets the clock. -/
theorem step_synced {tasks : Tasks} (awaits : tasks.AwaitsSample) (now : Nat) (unix : Int64) :
    (tasks.step serde sorting (.synced now (some unix))).1.bootUnix =
      (tasks.setClock now unix).bootUnix := by
  obtain ⟨running, waiting⟩ := awaits
  rw [step, if_neg running]
  show (tasks.synced now unix).bootUnix = _
  unfold synced
  rcases waiting with first | later
  · rw [first]
    rfl
  · rw [later]

end Tasks

/-! ## What a sample says -/

/-- A reply carries the 32 bits of the NTP seconds of a Unix time. -/
structure Carries (reply : List UInt8) (time : Int) : Prop where
  /-- It is a whole reply. -/
  whole : 48 ≤ reply.length
  /-- Its transmit timestamp counts from 1900, modulo 2^32. -/
  seconds : (((((reply.getD 40 0).toNat * 256 + (reply.getD 41 0).toNat) * 256 +
    (reply.getD 42 0).toNat) * 256 + (reply.getD 43 0).toNat : Nat) : Int) =
      (time + 2208988800) % 2 ^ 32

/-- The sample of a reply is its seconds counted from 1970. -/
theorem sync_carries {reply : List UInt8} {time : Int} (carries : Carries reply time) :
    ∃ unix, sync (some reply) = some unix ∧
      unix.toInt = (time + 2208988800) % 2 ^ 32 - 2208988800 := by
  obtain ⟨whole, seconds⟩ := carries
  have long : ¬reply.length < 48 := by omega
  let secs := u32OfBigEndian (reply.getD 40 0) (reply.getD 41 0) (reply.getD 42 0)
    (reply.getD 43 0)
  have sampled : sync (some reply) = some (.ofNat secs.toNat - ntpToUnix) := by
    simp only [sync, Option.bind_eq_bind, Option.bind_some, if_neg long, secs]
  have counted : (secs.toNat : Int) = (time + 2208988800) % 2 ^ 32 := by
    rw [← seconds]
    simp only [secs, u32OfBigEndian]
    rw [UInt32.toNat_ofNat', Nat.mod_eq_of_lt (by omega)]
  exact ⟨_, sampled, by rw [toInt_sample, counted]⟩

/-! ## The clock over a run -/

/-- A clock reading is within a second of the true time, which is known in whole seconds at a
sample; instants are ticks since boot. -/
def WithinSecond (time : Int) (sampled now : UInt64) (clock : Int64) : Prop :=
  |clock.toInt * ticksPerSecond - (time * ticksPerSecond + now.toNat - sampled.toNat)| ≤
    ticksPerSecond

/-- A sampled clock shows the sample and the seconds since, and reads as unset when the sample is
as many seconds after 1970 as the board has run. -/
theorem nowUnix_sampled {tasks : Tasks} {reply : List UInt8} {unix : Int64}
    (replied : sync (some reply) = some unix) {sampled now : UInt64} (later : sampled ≤ now) :
    if unix.toInt = (sampled.toNat / ticksPerSecond : Nat) then
      (tasks.setClock sampled.toNat unix).nowUnix now.toNat = none
    else ∃ clock, (tasks.setClock sampled.toNat unix).nowUnix now.toNat = some clock ∧
      clock.toInt = unix.toInt +
        ((now.toNat / ticksPerSecond : Nat) - (sampled.toNat / ticksPerSecond : Nat)) := by
  have unset : unix - Tasks.uptime sampled.toNat = 0 ↔
      unix.toInt = (sampled.toNat / ticksPerSecond : Nat) := by
    rw [← toInt_uptime sampled, Int64.toInt_inj, Int64.sub_eq_iff_eq_add, Int64.zero_add]
  split
  · next same =>
    exact if_pos (unset.mpr same)
  · next other =>
    have shown : (tasks.setClock sampled.toNat unix).nowUnix now.toNat = some _ :=
      if_neg (fun zero => other (unset.mp zero))
    exact ⟨_, shown, toInt_nowUnix replied later shown⟩

/-- The wall clock follows the true time until the seconds of NTP run over. For a board after any
earlier steps, a sample of a reply that carries the true time of the years 2025 to 2100, and any
later steps but successful samples: every later reading is within a second of the true time if and
only if the time was before 7 February 2036, 06:28:16 UTC, and was not the count of seconds that the
board had run. -/
theorem clock_follows_iff (serde : SerdeJsonCore) (sorting : UnstableSort) (device : Device)
    (earlier later : List Tasks.Event) (time : Int) (reply : List UInt8) (sampled : UInt64)
    (inService : 1735689600 ≤ time ∧ time < 4133980800) (carries : Carries reply time)
    (awaits : (Machine.run (Tasks.step serde sorting) (.start device) earlier).1.AwaitsSample)
    (quiet : ∀ event ∈ later, event.setsNoClock = true) :
    let tasks := (Machine.run (Tasks.step serde sorting) (.start device)
      (earlier ++ .synced sampled.toNat (sync (some reply)) :: later)).1
    (∀ now : UInt64, sampled ≤ now → ∃ clock, tasks.nowUnix now.toNat = some clock ∧
        WithinSecond time sampled now clock) ↔
      time < 2085978496 ∧ time ≠ (sampled.toNat / ticksPerSecond : Nat) := by
  intro tasks
  obtain ⟨unix, replied, counted⟩ := sync_carries carries
  have boot : tasks.bootUnix = (tasks.setClock sampled.toNat unix).bootUnix := by
    simp only [tasks]
    rw [Machine.run_append_state, Machine.run_cons_state, Tasks.run_bootUnix _ _ _ quiet, replied,
      Tasks.step_synced serde sorting awaits]
    rfl
  have reads (now : UInt64) : tasks.nowUnix now.toNat =
      (tasks.setClock sampled.toNat unix).nowUnix now.toNat := by
    unfold Tasks.nowUnix
    rw [boot]
  constructor
  · intro follows
    obtain ⟨clock, shown, close⟩ := follows sampled UInt64.le_rfl
    have sampledClock := @nowUnix_sampled tasks _ _ replied _ _ (UInt64.le_refl sampled)
    rw [← reads, shown] at sampledClock
    split at sampledClock
    · cases sampledClock
    · next apart =>
      obtain ⟨_, same, value⟩ := sampledClock
      cases same
      rw [WithinSecond, value, abs_le, ticksPerSecond] at close
      have exactly : unix.toInt = time := by omega
      exact ⟨by omega, exactly ▸ apart⟩
  · rintro ⟨beforeRollover, apart⟩ now order
    have exactly : unix.toInt = time := by omega
    have sampledClock := @nowUnix_sampled tasks _ _ replied _ _ order
    rw [if_neg (by rw [exactly]; exact apart)] at sampledClock
    obtain ⟨clock, shown, value⟩ := sampledClock
    refine ⟨clock, (reads now).trans shown, ?_⟩
    rw [WithinSecond, value, exactly, abs_le, ticksPerSecond]
    omega

/-- A reply of 15 June 2025. -/
def juneReply : List UInt8 := List.replicate 40 0 ++ [235, 249, 96, 0] ++ List.replicate 4 0

/-- Ten seconds after boot, with a failed exchange before and after it, the reply is followed. -/
theorem clock_follows_june :
    let tasks := (Machine.run (Tasks.step .reference .reference) (.start ⟨none, .init, false⟩)
      ([.configured none, .synced 5000000 none] ++
        .synced (10000000 : UInt64).toNat (sync (some juneReply)) :: [.synced 20000000 none])).1
    ∀ now : UInt64, 10000000 ≤ now → ∃ clock, tasks.nowUnix now.toNat = some clock ∧
      WithinSecond 1750000000 10000000 now clock :=
  (clock_follows_iff .reference .reference ⟨none, .init, false⟩ [.configured none,
    .synced 5000000 none] [.synced 20000000 none] 1750000000 juneReply 10000000 (by decide)
    ⟨by decide, by decide⟩ (by unfold Tasks.AwaitsSample; decide) (by decide)).mpr (by decide)

/-- On 7 February 2036 at 06:28:16 UTC the seconds of NTP are zero again, and the clock of a board
that has just booted shows the year 1900. -/
theorem clock_rolls_over :
    let reply := List.replicate 48 0
    let board := (Machine.run (Tasks.step .reference .reference) (.start ⟨none, .init, false⟩)
      [.configured none, .synced 0 (sync (some reply))]).1
    Carries reply 2085978496 ∧ board.nowUnix 0 = some (-2208988800) ∧
      ¬WithinSecond 2085978496 0 0 (-2208988800) := by
  refine ⟨⟨by decide, by decide⟩, by decide, ?_⟩
  unfold WithinSecond
  decide

end Zugli
