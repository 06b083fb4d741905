/-!
# Timers of a page

`setTimeout` and `setInterval` hand out handles that were not used before; zero is none of them.
Clearing a handle that names no timer does nothing. A timeout that fires is gone, an interval
stays until it is cleared.
-/

namespace Js

/-- The timers of a page. -/
structure Timers where
  /-- The last handle given out, zero before the first. -/
  last : Nat
  /-- Timeouts that have not fired. -/
  timeouts : List Nat
  /-- Intervals that run. -/
  intervals : List Nat
deriving DecidableEq

namespace Timers

/-- No timer was ever set. -/
def idle : Timers := ⟨0, [], []⟩

variable (timers : Timers)

/-- The handle of the next timer. -/
def handle : Nat := timers.last + 1

/-- `setTimeout`, whose handle is `handle`. -/
def setTimeout : Timers :=
  { timers with last := timers.handle, timeouts := timers.timeouts ++ [timers.handle] }

/-- `setInterval`, whose handle is `handle`. -/
def setInterval : Timers :=
  { timers with last := timers.handle, intervals := timers.intervals ++ [timers.handle] }

/-- `clearTimeout` and `clearInterval`, which clear either kind. -/
def clear (handle : Nat) : Timers :=
  { timers with
    timeouts := timers.timeouts.filter (· ≠ handle)
    intervals := timers.intervals.filter (· ≠ handle) }

/-- A timeout fires. -/
def expire (handle : Nat) : Timers :=
  { timers with timeouts := timers.timeouts.filter (· ≠ handle) }

@[simp] theorem timeouts_setTimeout :
    timers.setTimeout.timeouts = timers.timeouts ++ [timers.handle] := rfl

@[simp] theorem intervals_setTimeout : timers.setTimeout.intervals = timers.intervals := rfl

@[simp] theorem timeouts_setInterval : timers.setInterval.timeouts = timers.timeouts := rfl

@[simp] theorem intervals_setInterval :
    timers.setInterval.intervals = timers.intervals ++ [timers.handle] := rfl

@[simp] theorem timeouts_expire (handle : Nat) :
    (timers.expire handle).timeouts = timers.timeouts.filter (· ≠ handle) := rfl

@[simp] theorem intervals_expire (handle : Nat) :
    (timers.expire handle).intervals = timers.intervals := rfl

/-- Clearing the only timeout leaves none. -/
theorem timeouts_clear {handle : Nat} (only : ∀ other ∈ timers.timeouts, other = handle) :
    (timers.clear handle).timeouts = [] := by
  rw [clear, List.filter_eq_nil_iff]
  intro other member
  simpa using only other member

/-- Clearing the only interval leaves none. -/
theorem intervals_clear {handle : Nat} (only : ∀ other ∈ timers.intervals, other = handle) :
    (timers.clear handle).intervals = [] := by
  rw [clear, List.filter_eq_nil_iff]
  intro other member
  simpa using only other member

end Timers

end Js
