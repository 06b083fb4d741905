import Mathlib
import Zugli.Lib.Raster

/-!
# Checked machine arithmetic

Operations of a machine of 32 bits that stop instead of wrapping around: a sum or product out of
range, a remainder by zero, an index past the end. A computation whose values stay in range has
the result of unbounded arithmetic.
-/

namespace Checked

/-- A signed result, if it is in range. -/
def i32 (value : Int) : Option Int :=
  if -2147483648 ≤ value ∧ value ≤ 2147483647 then some value else none

/-- An unsigned result, if it is in range. -/
def u32 (value : Int) : Option Int :=
  if 0 ≤ value ∧ value ≤ 4294967295 then some value else none

/-- A remainder, if the divisor is not zero. -/
def rem (value divisor : Nat) : Option Nat := if divisor = 0 then none else some (value % divisor)

/-- `as i32`, which wraps around. -/
def asI32 (value : Int) : Int := value.bmod (2 ^ 32)

/-- `as u32`, which wraps around. -/
def asU32 (value : Int) : Nat := (value % 2 ^ 32).toNat

/-- Run `body` on `0, 1, …, count - 1` in order, until it stops. -/
def forRange? {σ : Type} : Nat → (Nat → σ → Option σ) → σ → Option σ
  | 0, _, state => some state
  | count + 1, body, state => do body count (← forRange? count body state)

/-- A signed result in range. -/
theorem i32_eq {value : Int} (low : -2147483648 ≤ value) (high : value ≤ 2147483647) :
    i32 value = some value := if_pos ⟨low, high⟩

/-- An unsigned result in range. -/
theorem u32_eq {value : Int} (low : 0 ≤ value) (high : value ≤ 4294967295) :
    u32 value = some value := if_pos ⟨low, high⟩

/-- A remainder by a positive number. -/
theorem rem_eq {value divisor : Nat} (positive : 0 < divisor) :
    rem value divisor = some (value % divisor) := if_neg (Nat.ne_of_gt positive)

/-- A value in range is cast as it is. -/
theorem asI32_eq {value : Int} (low : -2147483648 ≤ value) (high : value ≤ 2147483647) :
    asI32 value = value := Int.bmod_eq_of_le (by omega) (by omega)

/-- A loop whose body never stops runs as the loop of its results. -/
theorem forRange?_eq {σ : Type} {count : Nat} {body : Nat → σ → Option σ} {result : Nat → σ → σ}
    (runs : ∀ index < count, ∀ state, body index state = some (result index state)) (state : σ) :
    forRange? count body state = some (forRange count result state) := by
  induction count with
  | zero => rfl
  | succ count previous =>
    have before := previous fun index below => runs index (Nat.lt_succ_of_lt below)
    rw [forRange?, before]
    exact runs count (Nat.lt_succ_self count) _

end Checked
