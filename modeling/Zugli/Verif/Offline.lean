import Mathlib.Data.List.DropRight
import Zugli.Verif.Poll

/-!
# The offline screen

The poll task counts how long its polls have failed without a break. Whatever the other tasks do,
the count starts with the first failure of the current streak, any other end of a poll restarts it,
and the offline screen is asked for by a failed poll of a streak that is long enough, by nothing
else.
-/

namespace Zugli

open Serde

/-- How a poll ends. -/
inductive Outcome where
  /-- Nothing was selected. -/
  | idle
  /-- It found departures, or that there are none. -/
  | success
  /-- The fetch failed. -/
  | failed
  /-- The fetch took too long. -/
  | timedOut
deriving DecidableEq

/-- Whether a poll failed, for one reason or the other. -/
def Outcome.failure : Outcome → Bool
  | .idle | .success => false
  | .failed | .timedOut => true

/-- The polls that failed since the last one that did not. -/
def streak (polls : List (Nat × Outcome)) : List (Nat × Outcome) :=
  polls.rtakeWhile fun poll => poll.2.failure

/-- When the current streak began, if the latest poll failed. -/
def streakStart (polls : List (Nat × Outcome)) : Option Nat := (streak polls).head?.map Prod.fst

/-- A poll that did not fail ends the streak. -/
theorem streakStart_of_not_failure (polls : List (Nat × Outcome)) {now : Nat} {outcome : Outcome}
    (ended : outcome.failure = false) : streakStart (polls ++ [(now, outcome)]) = none := by
  rw [streakStart, streak, List.rtakeWhile_concat_neg _ _ _ (by simp [ended])]
  rfl

/-- A poll that failed begins a streak, unless there is one. -/
theorem streakStart_of_failure (polls : List (Nat × Outcome)) {now : Nat} {outcome : Outcome}
    (failure : outcome.failure = true) :
    streakStart (polls ++ [(now, outcome)]) = some ((streakStart polls).getD now) := by
  rw [streakStart, streak, List.rtakeWhile_concat_pos _ _ _ (by exact failure), streakStart]
  change (streak polls ++ [(now, outcome)]).head?.map Prod.fst = _
  cases streak polls with
  | nil => rfl
  | cons first rest => rfl

namespace Tasks

variable (serde : SerdeJsonCore) (sorting : UnstableSort)

/-- How the poll ends whose fetch ends. -/
def outcome (tasks : Tasks) (now : Nat) (sel : Selection) (attempt : Attempt) : Outcome :=
  match fetch serde sorting (tasks.nowUnix now) sel attempt with
  | some _ => .success
  | none => if attempt = .timedOut then .timedOut else .failed

/-- The poll that ends with a step, and when. -/
def pollEnds (tasks : Tasks) : Event → Option (Nat × Outcome)
  | .polls now =>
    if tasks.button ≠ .reset ∧ tasks.poll.pc = .reading ∧
      tasks.device.shared.selection = none then some (now, .idle) else none
  | .fetched now attempt =>
    if tasks.button = .reset then none
    else match tasks.poll.pc with
      | .fetching sel => some (now, tasks.outcome serde sorting now sel attempt)
      | _ => none
  | _ => none

/-- The polls that ended during events, from a board that has booted. -/
def pollsEnded (device : Device) (events : List Event) : List (Nat × Outcome) :=
  Machine.observed (step serde sorting)
    (fun tasks event => (tasks.pollEnds serde sorting event).toList) (start device) events

variable {serde sorting}

/-- A step that neither ends a poll nor asks for the offline screen. -/
def GoesOn (serde : SerdeJsonCore) (sorting : UnstableSort) (tasks : Tasks) (event : Event) : Prop :=
  (tasks.step serde sorting event).1.poll.failingSince = tasks.poll.failingSince ∧
    .display .offline ∉ (tasks.step serde sorting event).2

/-- A step that ends no poll leaves the count alone, and does not ask for the offline screen. -/
theorem goesOn_of_not_ended {tasks : Tasks} {event : Event}
    (ended : tasks.pollEnds serde sorting event = none) : GoesOn serde sorting tasks event := by
  by_cases reset : tasks.button = .reset
  · rw [GoesOn, step, if_pos reset]
    exact ⟨rfl, List.not_mem_nil⟩
  · have running : tasks.step serde sorting event = tasks.stepRunning serde sorting event := by
      rw [step, if_neg reset]
    rw [GoesOn, running]
    cases event with
    | accept request => exact ⟨rfl, List.not_mem_nil⟩
    | handle index faults =>
      simp only [stepRunning, handleOne]
      split
      · exact ⟨rfl, List.not_mem_nil⟩
      · split
        · exact ⟨rfl, List.not_mem_nil⟩
        · exact ⟨rfl, by simp⟩
    | configured octets =>
      simp only [stepRunning, configured]
      split
      · split <;> exact ⟨rfl, List.not_mem_nil⟩
      · exact ⟨rfl, List.not_mem_nil⟩
    | addressChecked =>
      simp only [stepRunning, addressChecked]
      split
      · split
        · exact ⟨rfl, by simp⟩
        · exact ⟨rfl, List.not_mem_nil⟩
      · exact ⟨rfl, List.not_mem_nil⟩
    | synced now unix =>
      cases unix with
      | none => exact ⟨rfl, List.not_mem_nil⟩
      | some unix =>
        simp only [stepRunning, Option.elim, synced]
        split <;> exact ⟨rfl, List.not_mem_nil⟩
    | networkUp =>
      simp only [stepRunning, networkUp]
      split <;> exact ⟨rfl, List.not_mem_nil⟩
    | polls now =>
      simp only [stepRunning, polls]
      split
      next pc =>
        cases held : tasks.device.shared.selection with
        | none => simp [pollEnds, reset, pc, held] at ended
        | some sel => exact ⟨rfl, List.not_mem_nil⟩
      next => exact ⟨rfl, List.not_mem_nil⟩
    | fetched now attempt =>
      simp only [pollEnds, reset, if_false] at ended
      simp only [stepRunning, fetched]
      split
      next sel pc => simp [pc] at ended
      next => exact ⟨rfl, List.not_mem_nil⟩
    | timer now =>
      simp only [stepRunning, timer]
      split
      · split <;> exact ⟨rfl, List.not_mem_nil⟩
      · exact ⟨rfl, List.not_mem_nil⟩
    | woken =>
      simp only [stepRunning, woken]
      split
      · split <;> exact ⟨rfl, List.not_mem_nil⟩
      · exact ⟨rfl, List.not_mem_nil⟩
    | sampled now low => exact ⟨rfl, List.not_mem_nil⟩
    | wipes now faults =>
      simp only [stepRunning, wipes]
      split
      · exact ⟨rfl, by simp⟩
      · exact ⟨rfl, List.not_mem_nil⟩
    | resets now => exact ⟨rfl, List.not_mem_nil⟩

/-- What a step does that ends a poll: a failure goes on counting from the start of the streak, and
asks for the offline screen if that is long enough ago; any other end stops the count. -/
theorem step_of_ended {tasks : Tasks} {event : Event} {now : Nat} {outcome : Outcome}
    (ended : tasks.pollEnds serde sorting event = some (now, outcome)) :
    (outcome.failure = false →
      (tasks.step serde sorting event).1.poll.failingSince = none ∧
        .display .offline ∉ (tasks.step serde sorting event).2) ∧
    (outcome.failure = true →
      let since := tasks.poll.failingSince.getD now
      (tasks.step serde sorting event).1.poll.failingSince = some since ∧
        (tasks.step serde sorting event).2 =
          if since + offlineAfterSecs * ticksPerSecond ≤ now then [.display .offline] else []) := by
  cases event with
  | polls time =>
    simp only [pollEnds] at ended
    split at ended
    next idle =>
      obtain ⟨running, pc, unset⟩ := idle
      cases ended
      refine ⟨fun _ => ?_, Bool.noConfusion⟩
      simp only [step, running, if_false, stepRunning, polls, pc, if_true, unset, polled,
        PollTask.read, true_and]
      cases tasks.ip <;> simp
    next => cases ended
  | fetched time attempt =>
    simp only [pollEnds] at ended
    split at ended
    next => cases ended
    next running =>
      split at ended
      next sel pc =>
        cases ended
        have stepped : tasks.step serde sorting (.fetched now attempt) = tasks.polled
            (tasks.poll.fetched serde sorting now (tasks.nowUnix now) sel attempt) := by
          simp only [step, running, if_false, stepRunning, fetched, pc]
        rw [stepped]
        cases found : fetch serde sorting (tasks.nowUnix now) sel attempt with
        | some deps =>
          simp only [polled, PollTask.fetched, outcome, found]
          exact ⟨fun _ => ⟨trivial, by simp⟩, Bool.noConfusion⟩
        | none =>
          have failure : (tasks.outcome serde sorting now sel attempt).failure = true := by
            simp only [outcome, found]
            split <;> rfl
          simp only [failure, polled, PollTask.fetched, found, PollTask.offlineIfPersistent]
          refine ⟨Bool.noConfusion, fun _ => ⟨trivial, ?_⟩⟩
          by_cases long :
              tasks.poll.failingSince.getD now + offlineAfterSecs * ticksPerSecond ≤ now
          · have elapsed : offlineAfterSecs * ticksPerSecond ≤
                now - tasks.poll.failingSince.getD now := Nat.le_sub_of_add_le' long
            rw [if_pos elapsed, if_pos long]
            rfl
          · have elapsed : ¬offlineAfterSecs * ticksPerSecond ≤
                now - tasks.poll.failingSince.getD now := by
              have positive : 0 < offlineAfterSecs * ticksPerSecond := by decide
              omega
            rw [if_neg elapsed, if_neg long]
            rfl
      next => cases ended
  | _ => cases ended

/-- The count is that of the polls that ended. -/
def Counts (tasks : Tasks) (ended : List (Nat × Outcome)) : Prop :=
  tasks.poll.failingSince = streakStart ended

/-- A step goes on counting. -/
theorem step_counts (tasks : Tasks) (event : Event) (ended : List (Nat × Outcome))
    (counts : Counts tasks ended) :
    Counts (tasks.step serde sorting event).1
      (ended ++ (tasks.pollEnds serde sorting event).toList) := by
  unfold Counts at counts ⊢
  cases ends : tasks.pollEnds serde sorting event with
  | none =>
    rw [(goesOn_of_not_ended ends).1, counts, Option.toList_none, List.append_nil]
  | some poll =>
    obtain ⟨now, outcome⟩ := poll
    obtain ⟨stops, goesOn⟩ := step_of_ended ends
    rw [Option.toList_some]
    cases failure : outcome.failure with
    | false => rw [(stops failure).1, streakStart_of_not_failure ended failure]
    | true => rw [(goesOn failure).1, counts, streakStart_of_failure ended failure]

variable (serde sorting)

/-- The count after any events, from any boot. -/
theorem after_counts (device : Device) (events : List Event) :
    Counts (after serde sorting device events) (pollsEnded serde sorting device events) := by
  have started : Counts (start device) [] := rfl
  exact Machine.observed_invariant step_counts started events

/-- The polls of one event more. -/
theorem pollsEnded_append (device : Device) (events : List Event) (event : Event) :
    pollsEnded serde sorting device (events ++ [event]) =
      pollsEnded serde sorting device events ++
        ((after serde sorting device events).pollEnds serde sorting event).toList := by
  rw [pollsEnded, Machine.observed_append, Machine.observed, Machine.observed, List.append_nil]
  rfl

/-- After any events, from any boot, the poll task counts from the start of the current streak of
failed polls, and does not count when the latest poll did not fail. A step asks for the offline
screen if and only if it ends a failed poll, `OFFLINE_AFTER_SECS` or more after the start of the
streak; a failed poll before that shows nothing. -/
theorem offline_after_streak (device : Device) (events : List Event) :
    (after serde sorting device events).poll.failingSince =
        streakStart (pollsEnded serde sorting device events) ∧
      ∀ event,
        let tasks := after serde sorting device events
        let begun := streakStart (pollsEnded serde sorting device (events ++ [event]))
        let effects := (tasks.step serde sorting event).2
        (.display .offline ∈ effects ↔
          ∃ now outcome since, tasks.pollEnds serde sorting event = some (now, outcome) ∧
            outcome.failure = true ∧ begun = some since ∧
            since + offlineAfterSecs * ticksPerSecond ≤ now) ∧
        ∀ now outcome since, tasks.pollEnds serde sorting event = some (now, outcome) →
          outcome.failure = true → begun = some since →
          now < since + offlineAfterSecs * ticksPerSecond → effects = [] := by
  have counts := after_counts serde sorting device events
  refine ⟨counts, ?_⟩
  intro event
  simp only
  rw [pollsEnded_append]
  generalize after serde sorting device events = tasks at counts ⊢
  cases ends : tasks.pollEnds serde sorting event with
  | none =>
    refine ⟨⟨fun shown => absurd shown (goesOn_of_not_ended ends).2, ?_⟩, ?_⟩
    · rintro ⟨now, outcome, since, ended, _⟩
      cases ended
    · intro now outcome since ended
      cases ended
  | some poll =>
    obtain ⟨time, ending⟩ := poll
    obtain ⟨stops, goesOn⟩ := step_of_ended ends
    rw [Option.toList_some]
    cases failure : ending.failure with
    | false =>
      refine ⟨⟨fun shown => absurd shown (stops failure).2, ?_⟩, ?_⟩
      · rintro ⟨now, outcome, since, ended, failed, _⟩
        cases ended
        rw [failure] at failed
        cases failed
      · intro now outcome since ended failed
        cases ended
        rw [failure] at failed
        cases failed
    | true =>
      rw [(goesOn failure).2, streakStart_of_failure _ failure, ← counts]
      constructor
      · constructor
        · intro shown
          split at shown
          next long => exact ⟨time, ending, _, rfl, failure, rfl, long⟩
          next => exact absurd shown List.not_mem_nil
        · rintro ⟨now, outcome, since, ended, _, begun, long⟩
          cases ended
          cases begun
          rw [if_pos long]
          exact List.mem_singleton_self _
      · intro now outcome since ended _ begun short
        cases ended
        cases begun
        rw [if_neg (by omega)]

end Tasks

end Zugli
