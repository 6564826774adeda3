import Pourpoint.F32

/-!
# Double-precision numbers

An `f64` by its value. The two zeros are one: no operation of the modelled code divides by a zero or
otherwise tells them apart. An operation rounds the exact result to the nearest number, ties to even.
-/

namespace Pourpoint

/-- The values of `f64`. -/
inductive F64 where
  | nan
  | infinity (negative : Bool)
  | finite (value : ℚ)
  deriving DecidableEq

namespace F64

/-- `f64::from_bits`. -/
def ofBits (bits : ℕ) : F64 :=
  let negative := bits / 2 ^ 63 % 2 = 1
  let exponent : ℕ := bits / 2 ^ 52 % 2 ^ 11
  let fraction : ℕ := bits % 2 ^ 52
  let sign : ℚ := if negative then -1 else 1
  if exponent = 2047 then if fraction = 0 then .infinity negative else .nan
  else if exponent = 0 then .finite (sign * fraction * (2 : ℚ) ^ (-1074 : ℤ))
  else .finite (sign * (2 ^ 52 + fraction) * (2 : ℚ) ^ ((exponent : ℤ) - 1075))

/-- `f64::to_bits` of a number `n / d`, where `d` is a power of two. -/
def toBits : F64 → ℕ
  | .nan => 0x7ff8000000000000
  | .infinity negative => (if negative then 2 ^ 63 else 0) + 2047 * 2 ^ 52
  | .finite q =>
    let exponent : ℤ := (Nat.log2 q.num.natAbs : ℤ) - Nat.log2 q.den
    let sign := if q < 0 then 2 ^ 63 else 0
    if q = 0 then 0
    else if exponent < -1022 then sign + q.num.natAbs * 2 ^ 1074 / q.den
    else sign + (exponent + 1022).toNat * 2 ^ 52 +
      q.num.natAbs * 2 ^ (52 + 1074) / (q.den * 2 ^ (exponent + 1074).toNat)

/-- The exponent of the last place of the significand, for a positive number. -/
def ulpExponent (q : ℚ) : ℤ := max (Int.log 2 q - 52) (-1074)

/-- The nearest number to a rational, ties to even. -/
def round (q : ℚ) : F64 :=
  if q = 0 then .finite 0
  else
    let place := (2 : ℚ) ^ ulpExponent |q|
    let magnitude := F32.roundHalfEven (|q| / place) * place
    if 2 ^ 1024 ≤ magnitude then .infinity (q < 0)
    else .finite (if q < 0 then -magnitude else magnitude)

def neg : F64 → F64
  | nan => nan
  | infinity negative => infinity !negative
  | finite q => finite (-q)

def add : F64 → F64 → F64
  | nan, _ | _, nan => nan
  | infinity a, infinity b => if a = b then infinity a else nan
  | infinity a, finite _ => infinity a
  | finite _, infinity b => infinity b
  | finite p, finite q => round (p + q)

def sub (x y : F64) : F64 := x.add y.neg

def mul : F64 → F64 → F64
  | nan, _ | _, nan => nan
  | infinity a, infinity b => infinity (a != b)
  | infinity a, finite q | finite q, infinity a => if q = 0 then nan else infinity (a != decide (q < 0))
  | finite p, finite q => round (p * q)

/-- Division by a number that is not zero. -/
def div : F64 → F64 → F64
  | nan, _ | _, nan => nan
  | infinity _, infinity _ => nan
  | infinity a, finite q => infinity (a != decide (q < 0))
  | finite _, infinity _ => finite 0
  | finite p, finite q => round (p / q)

def isNan : F64 → Bool
  | nan => true
  | _ => false

def isFinite : F64 → Bool
  | finite _ => true
  | _ => false

/-- The place of a value in the numeric order; that of `NaN` is not used. -/
def numericKey : F64 → WithBot (WithTop ℚ)
  | nan => ⊥
  | infinity negative => if negative then ⊥ else ((⊤ : WithTop ℚ) : WithBot (WithTop ℚ))
  | finite q => ((q : WithTop ℚ) : WithBot (WithTop ℚ))

/-- `a <= b`, false when one side is `NaN`. -/
def le (a b : F64) : Bool := !a.isNan && !b.isNan && decide (a.numericKey ≤ b.numericKey)

/-- `a < b`, false when one side is `NaN`. -/
def lt (a b : F64) : Bool := !a.isNan && !b.isNan && decide (a.numericKey < b.numericKey)

/-- `a == b`, false when one side is `NaN`. -/
def eq (a b : F64) : Bool := !a.isNan && !b.isNan && decide (a.numericKey = b.numericKey)

theorem finite_le {p q : ℚ} : (finite p).le (.finite q) = true ↔ p ≤ q := by
  simp only [le, isNan, Bool.not_false, Bool.true_and, numericKey, WithBot.coe_le_coe,
    WithTop.coe_le_coe, decide_eq_true_iff]

theorem lt_finite {p q : ℚ} : (finite p).lt (.finite q) = decide (p < q) := by
  simp only [lt, isNan, Bool.not_false, Bool.true_and, numericKey, WithBot.coe_lt_coe,
    WithTop.coe_lt_coe]

theorem le_trans {a b c : F64} (hab : a.le b = true) (hbc : b.le c = true) : a.le c = true := by
  simp only [le, Bool.and_eq_true, decide_eq_true_iff] at *
  exact ⟨⟨hab.1.1, hbc.1.2⟩, hab.2.trans hbc.2⟩

theorem le_of_lt_eq_false {a b : F64} (ha : a.isNan = false) (hb : b.isNan = false)
    (h : b.lt a = false) : a.le b = true := by
  simp only [lt, le, ha, hb, Bool.not_false, Bool.true_and, decide_eq_false_iff_not,
    decide_eq_true_iff] at *
  exact not_lt.1 h

theorem isNan_left_of_le {a b : F64} (h : a.le b = true) : a.isNan = false := by
  simp only [le, Bool.and_eq_true, Bool.not_eq_true'] at h
  exact h.1.1

theorem isNan_right_of_le {a b : F64} (h : a.le b = true) : b.isNan = false := by
  simp only [le, Bool.and_eq_true, Bool.not_eq_true'] at h
  exact h.1.2

theorem isNan_of_isFinite {x : F64} (hx : x.isFinite = true) : x.isNan = false := by
  cases x <;> first | rfl | cases hx

theorem le_antisymm {a b : F64} (hab : a.le b = true) (hba : b.le a = true) : a = b := by
  have ha := isNan_left_of_le hab
  have hb := isNan_right_of_le hab
  simp only [le, Bool.and_eq_true, decide_eq_true_iff] at hab hba
  have hkey : a.numericKey = b.numericKey := hab.2.antisymm hba.2
  match a, b with
  | .infinity na, .infinity nb => cases na <;> cases nb <;> first | rfl | cases hkey
  | .infinity na, .finite q => cases na <;> cases hkey
  | .finite p, .infinity nb => cases nb <;> cases hkey
  | .finite p, .finite q => exact congrArg finite (WithTop.coe_injective (WithBot.coe_injective hkey))

/-- The value of a number, zero if it has none. -/
def toRat : F64 → ℚ
  | finite q => q
  | nan | infinity _ => 0

/-- `x <= 0.0`. -/
def isNonpos : F64 → Bool
  | nan => false
  | infinity negative => negative
  | finite q => q ≤ 0

/-- `x >= 0.0`. -/
def isNonneg : F64 → Bool
  | nan => false
  | infinity negative => !negative
  | finite q => 0 ≤ q

theorem isNonpos_of_toRat_pos {x : F64} (h : 0 < x.toRat) : x.isNonpos = false := by
  cases x with
  | nan => rfl
  | infinity negative => exact absurd h (lt_irrefl 0)
  | finite q => exact decide_eq_false (not_le.2 h)

theorem isNonneg_of_toRat_neg {x : F64} (h : x.toRat < 0) : x.isNonneg = false := by
  cases x with
  | nan => rfl
  | infinity negative => exact absurd h (lt_irrefl 0)
  | finite q => exact decide_eq_false (not_le.2 h)

def i64Min : ℤ := -2 ^ 63

def i64Max : ℤ := 2 ^ 63 - 1

/-- `as i64` of an integer. -/
def saturate (n : ℤ) : ℤ := max i64Min (min n i64Max)

/-- A rounding to an integer, then `as i64`. -/
def toI64 (toInt : ℚ → ℤ) : F64 → ℤ
  | nan => 0
  | infinity negative => if negative then i64Min else i64Max
  | finite q => saturate (toInt q)

/-- `x.floor() as i64`. -/
def floorI64 : F64 → ℤ := toI64 Int.floor

/-- `x.ceil() as i64`. -/
def ceilI64 : F64 → ℤ := toI64 Int.ceil

protected def abs : F64 → F64
  | nan => nan
  | infinity _ => infinity false
  | finite q => finite |q|

/-- `f64::max`, which ignores a `NaN`. -/
protected def max (a b : F64) : F64 :=
  if a.isNan then b else if b.isNan then a else if a.lt b then b else a

/-- `f64::min`, which ignores a `NaN`. -/
protected def min (a b : F64) : F64 :=
  if a.isNan then b else if b.isNan then a else if b.lt a then b else a

/-- `f64::clamp`, for bounds in order. -/
protected def clamp (x low high : F64) : F64 := if x.lt low then low else if high.lt x then high else x

/-- `f64::round`: to the nearest integer, halves away from zero. -/
def roundHalfAway (q : ℚ) : ℤ := if 0 ≤ q then ⌊q + 1 / 2⌋ else -⌊-q + 1 / 2⌋

/-- `x.round() as u32`. -/
def roundU32 : F64 → ℕ
  | nan => 0
  | infinity negative => if negative then 0 else 2 ^ 32 - 1
  | finite q => Nat.min (roundHalfAway q).toNat (2 ^ 32 - 1)

example : ofBits 0x3FF0000000000000 = .finite 1 := by decide +kernel
example : ofBits 0xC010000000000000 = .finite (-4) := by decide +kernel
example : ofBits 0x7FF0000000000000 = .infinity false := by decide +kernel
example : toBits (.finite (-5 / 2)) = 0xc004000000000000 := by decide +kernel
example : add (.finite (2 ^ 53)) (.finite 1) = .finite (2 ^ 53) := by decide +kernel
example : div (.finite 1) (.finite 3) = ofBits 0x3FD5555555555555 := by decide +kernel
example : floorI64 (.finite (-2 ^ 80)) = i64Min := by decide +kernel

end F64

end Pourpoint
