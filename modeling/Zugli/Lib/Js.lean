import Zugli.Lib.Utf16

/-!
# Script values

What the page's scripts do with numbers that are integers, with absent properties and with
strings.
-/

namespace Js

/-- A string, as its code units. -/
abbrev Str : Type := List UInt16

/-- `n | 0`. -/
def toInt32 (n : Int) : Int := n.bmod 0x100000000

/-- `n >>> 0`. -/
def toUint32 (n : Int) : UInt32 := .ofNat (n % 0x100000000).toNat

/-- A property that holds an integer, holds null or is absent. -/
inductive Value where
  /-- Absent. -/
  | undefined
  /-- `null`. -/
  | null
  /-- An integer. -/
  | number (n : Int)
deriving DecidableEq

namespace Value

/-- `value | 0`. -/
def toInt32 : Value → Int
  | undefined => 0
  | null => 0
  | number n => Js.toInt32 n

/-- `value === undefined ? fallback : value`, as a number. -/
def orElse (value : Value) (fallback : Int) : Int :=
  match value with
  | undefined => fallback
  | null => 0
  | number n => n

/-- `value || 0`. -/
def orZero : Value → Int
  | undefined | null => 0
  | number n => n

/-- `value == null ? fallback : value`. -/
def orNullish (value : Value) (fallback : Int) : Int :=
  match value with
  | undefined | null => fallback
  | number n => n

end Value

/-- `n & mask`, for a mask without the sign bit. -/
def bitAnd (n : Int) (mask : UInt32) : Int := (toUint32 n &&& mask).toNat

/-- `Math.round`, of a coordinate taken as a rational number. -/
def round (value : Rat) : Int := (value + 1 / 2).floor

/-- `String(n)`. -/
def numberToString (n : Int) : Str :=
  Utf16.encode (if n < 0 then '-' :: Nat.toDigits 10 n.natAbs else Nat.toDigits 10 n.natAbs)

/-- `padStart(width, fill)` with a single unit to fill with. -/
def padStart (width : Nat) (fill : UInt16) (text : Str) : Str :=
  List.replicate (width - text.length) fill ++ text

/-- A property that holds an integer within bounds. -/
def Value.Between (lo hi : Int) (value : Value) : Prop :=
  ∃ n, value = .number n ∧ lo ≤ n ∧ n ≤ hi

/-- A mask bounds what it leaves. -/
theorem bitAnd_bounds (n : Int) (mask : UInt32) : 0 ≤ bitAnd n mask ∧ bitAnd n mask ≤ mask.toNat := by
  have bound : (toUint32 n &&& mask).toNat ≤ mask.toNat := by
    rw [UInt32.toNat_and]
    exact Nat.and_le_right
  rw [bitAnd]
  omega

/-- An integer within the signed range is itself. -/
theorem toInt32_of_bounds {n : Int} (low : -0x80000000 ≤ n) (high : n < 0x80000000) :
    toInt32 n = n :=
  Int.bmod_eq_of_le (by omega) (by omega)

/-- A number takes a unit for each of its digits. -/
theorem encode_toDigits (n : Nat) :
    Utf16.encode (Nat.toDigits 10 n) = (Nat.toDigits 10 n).map fun char => .ofNat char.toNat := by
  apply Utf16.encode_of_small
  intro char member
  have digit : char.isDigit = true := Nat.isDigit_of_mem_toDigits (by decide) (by decide) member
  have upper : char ≤ '9' := by
    simp only [Char.isDigit, Bool.and_eq_true, decide_eq_true_eq] at digit
    exact digit.2
  have value : char.toNat ≤ '9'.toNat := upper
  have nine : '9'.toNat = 57 := rfl
  omega

/-- A natural number as a string is its digits. -/
theorem numberToString_natCast (n : Nat) : numberToString n = Utf16.encode (Nat.toDigits 10 n) := by
  rw [numberToString, if_neg (by omega), Int.natAbs_natCast]

end Js
