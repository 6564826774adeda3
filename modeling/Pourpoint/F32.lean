import Mathlib.Data.Int.Log
import Mathlib.Data.Rat.Floor
import Mathlib.Tactic

/-!
# Single-precision numbers

An `f32` is its sign bit and its other 31 bits. Comparisons read the bits: for numbers the magnitude
bits grow with the magnitude, so `<` compares signed magnitudes, in which both zeros are `0`.
`total_cmp` compares the two's-complement keys, in which `-0.0` is below `+0.0`.
-/

namespace Pourpoint

/-- The magnitudes have numerals. -/
instance F32.neZero_magnitude : NeZero (2 ^ 31 : ℕ) := ⟨by norm_num⟩

/-- `f32`, by its bits. -/
structure F32 where
  negative : Bool
  magnitude : Fin (2 ^ 31)
  deriving DecidableEq, Repr

namespace F32

/-- The magnitude bits of infinity. -/
def infinityBits : ℕ := 0x7F800000

def isNan (x : F32) : Bool := infinityBits < x.magnitude.val

def isFinite (x : F32) : Bool := x.magnitude.val < infinityBits

/-- `f32::NAN`. -/
def nan : F32 := ⟨false, 0x7FC00000⟩

/-- `f32::INFINITY`. -/
def infinity : F32 := ⟨false, 0x7F800000⟩

def neg (x : F32) : F32 := { x with negative := !x.negative }

/-- The numeric order of the values that are not `NaN`. -/
def numericKey (x : F32) : ℤ := if x.negative then -x.magnitude.val else x.magnitude.val

/-- `a < b`, false when one side is `NaN`. -/
def lt (a b : F32) : Bool := !a.isNan && !b.isNan && decide (a.numericKey < b.numericKey)

/-- `a <= b`, false when one side is `NaN`. -/
def le (a b : F32) : Bool := !a.isNan && !b.isNan && decide (a.numericKey ≤ b.numericKey)

/-- `a == b`, false when one side is `NaN`. -/
def eq (a b : F32) : Bool := !a.isNan && !b.isNan && decide (a.numericKey = b.numericKey)

theorem le_trans {a b c : F32} (hab : a.le b = true) (hbc : b.le c = true) : a.le c = true := by
  simp only [le, Bool.and_eq_true, decide_eq_true_iff] at *
  exact ⟨⟨hab.1.1, hbc.1.2⟩, hab.2.trans hbc.2⟩

/-- The key of `total_cmp`. -/
def totalKey (x : F32) : ℤ := if x.negative then -1 - x.magnitude.val else x.magnitude.val

/-- `f32::total_cmp`. -/
def totalCmp (a b : F32) : Ordering := compare a.totalKey b.totalKey

/-! ## Rounding -/

/-- Round to the nearest integer, ties to even. -/
def roundHalfEven (q : ℚ) : ℕ :=
  let n := ⌊q⌋₊
  if q - n < 1 / 2 then n
  else if 1 / 2 < q - n then n + 1
  else if n % 2 = 0 then n else n + 1

/-- The exponent of the last place of the significand, for a nonnegative number. -/
def ulpExponent (q : ℚ) : ℤ := if q = 0 then -149 else max (Int.log 2 q - 23) (-149)

/-- The nonnegative `f32` nearest to a nonnegative rational, ties to even: `as f32`. A significand
that rounds up to the next power of two carries into the exponent bits. -/
def ofNonneg (q : ℚ) : F32 :=
  let exponent := ulpExponent q
  let significand := roundHalfEven (q / (2 : ℚ) ^ exponent)
  let bits := (exponent + 149).toNat * 2 ^ 23 + significand
  ⟨false, ⟨min bits infinityBits, lt_of_le_of_lt (min_le_right _ _) (by decide)⟩⟩

/-- `i32 as f32`. -/
def ofInt (v : ℤ) : F32 := if v < 0 then (ofNonneg (-v)).neg else ofNonneg v

example : ofNonneg 0 = ⟨false, 0⟩ := by decide +kernel
example : ofNonneg 1000 = ⟨false, 0x447A0000⟩ := by decide +kernel
example : ofNonneg (2 ^ 24 + 1) = ⟨false, 0x4B800000⟩ := by decide +kernel
example : ofNonneg (3 / 2 ^ 149) = ⟨false, 3⟩ := by decide +kernel
example : ofNonneg (2 ^ 32 - 1) = ⟨false, 0x4F800000⟩ := by decide +kernel

end F32

end Pourpoint
