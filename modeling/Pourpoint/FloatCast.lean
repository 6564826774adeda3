import Pourpoint.F64
import Pourpoint.Library.FloatFormat

/-!
# Steps and conversions of floating-point numbers

`next_up` and `next_down` of `f32`, and `f32` as `f64`, which keeps the order (`F32.toF64_le`). A
`Double` is an `f64` by its bits, for code that calls `total_cmp`, which tells the two zeros apart.
-/

namespace Pourpoint

open Library

namespace F32

/-! ## Comparisons by keys -/

theorem le_iff {a b : F32} : a.le b = true ↔
    a.isNan = false ∧ b.isNan = false ∧ a.numericKey ≤ b.numericKey := by
  simp [le, and_assoc]

theorem lt_iff {a b : F32} : a.lt b = true ↔
    a.isNan = false ∧ b.isNan = false ∧ a.numericKey < b.numericKey := by
  simp [lt, and_assoc]

theorem eq_iff {a b : F32} : a.eq b = true ↔
    a.isNan = false ∧ b.isNan = false ∧ a.numericKey = b.numericKey := by
  simp [eq, and_assoc]

theorem totalKey_injective : Function.Injective totalKey := by
  rintro ⟨na, ma⟩ ⟨nb, mb⟩ h
  obtain ⟨hneg, hmag⟩ : na = nb ∧ ma.val = mb.val := eq_of_complementKey_eq h
  rw [hneg, Fin.ext hmag]

/-- The total order refines the numeric one. -/
theorem le_of_totalKey_le {a b : F32} (ha : a.isNan = false) (hb : b.isNan = false)
    (h : a.totalKey ≤ b.totalKey) : a.le b = true :=
  le_iff.2 ⟨ha, hb, signedKey_le_of_complementKey_le h⟩

/-! ## Steps -/

/-- `next_up`. -/
def nextUp (x : F32) : F32 :=
  if x.isNan ∨ x = infinity then x
  else if x.magnitude.val = 0 then ⟨false, 1⟩
  else if x.negative then ⟨true, Fin.ofNat _ (x.magnitude.val - 1)⟩
  else ⟨false, Fin.ofNat _ (x.magnitude.val + 1)⟩

/-- `next_down`. -/
def nextDown (x : F32) : F32 := x.neg.nextUp.neg

@[simp]
theorem isFinite_neg (x : F32) : x.neg.isFinite = x.isFinite := rfl

@[simp]
theorem isNan_neg (x : F32) : x.neg.isNan = x.isNan := rfl

@[simp]
theorem numericKey_neg (x : F32) : x.neg.numericKey = -x.numericKey := by
  cases x with
  | mk negative magnitude => cases negative <;> simp [neg, numericKey]

theorem magnitude_lt_of_isFinite {x : F32} (hx : x.isFinite = true) :
    x.magnitude.val < 0x7F800000 := of_decide_eq_true hx

theorem isNan_of_isFinite {x : F32} (hx : x.isFinite = true) : x.isNan = false :=
  decide_eq_false (magnitude_lt_of_isFinite hx).asymm

theorem isFinite_of_eq {a b : F32} (ha : a.isFinite = true) (h : a.eq b = true) :
    b.isFinite = true := by
  have hlt := magnitude_lt_of_isFinite ha
  obtain ⟨-, -, hkey⟩ := eq_iff.1 h
  refine decide_eq_true ?_
  unfold numericKey at hkey
  unfold infinityBits
  split_ifs at hkey <;> omega

/-- One step up: the magnitude moves by one, away from zero or towards it. -/
theorem nextUp_of_isFinite {x : F32} (hx : x.isFinite = true) :
    x.nextUp.numericKey = x.numericKey + 1 ∧ x.nextUp.isNan = false := by
  have hlt := magnitude_lt_of_isFinite hx
  have hnot : ¬(x.isNan = true ∨ x = infinity) := by
    intro h
    rcases h with h | rfl
    · rw [isNan_of_isFinite hx] at h
      cases h
    · exact absurd hx (by decide)
  rw [nextUp, if_neg hnot]
  split_ifs with hzero hneg
  · have hkey : x.numericKey = 0 := by
      unfold numericKey
      rw [hzero]
      split_ifs <;> rfl
    exact ⟨by rw [hkey]; rfl, by decide⟩
  · have hval : (Fin.ofNat (2 ^ 31) (x.magnitude.val - 1)).val = x.magnitude.val - 1 :=
      Nat.mod_eq_of_lt (by omega)
    refine ⟨?_, decide_eq_false ?_⟩
    · simp only [numericKey, hneg, if_true, hval]
      omega
    · simp only [infinityBits, hval]
      omega
  · have hval : (Fin.ofNat (2 ^ 31) (x.magnitude.val + 1)).val = x.magnitude.val + 1 :=
      Nat.mod_eq_of_lt (by omega)
    refine ⟨?_, decide_eq_false ?_⟩
    · simp only [numericKey, hneg, if_false, Bool.false_eq_true, hval]
      omega
    · simp only [infinityBits, hval]
      omega

theorem nextDown_of_isFinite {x : F32} (hx : x.isFinite = true) :
    x.nextDown.numericKey = x.numericKey - 1 ∧ x.nextDown.isNan = false := by
  obtain ⟨hkey, hnan⟩ := nextUp_of_isFinite (x := x.neg) hx
  refine ⟨?_, hnan⟩
  rw [nextDown, numericKey_neg, hkey, numericKey_neg]
  ring

/-- Every number below infinity has a step up. -/
theorem nextUp_of_ne_infinity {x : F32} (hx : x.isNan = false) (hne : x ≠ infinity) :
    x.nextUp.numericKey = x.numericKey + 1 ∧ x.nextUp.isNan = false := by
  by_cases hfinite : x.isFinite = true
  · exact nextUp_of_isFinite hfinite
  · have hmagnitude : x.magnitude = ⟨0x7F800000, by decide⟩ :=
      Fin.ext (le_antisymm (not_lt.1 (of_decide_eq_false hx))
        (not_lt.1 fun h => hfinite (decide_eq_true h)))
    obtain ⟨negative, magnitude⟩ := x
    subst hmagnitude
    cases negative with
    | false => exact absurd rfl hne
    | true => decide

theorem nextUp_le {a b : F32} (h : a.le b = true) : a.nextUp.le b.nextUp = true := by
  obtain ⟨ha, hb, hle⟩ := le_iff.1 h
  by_cases hbtop : b = infinity
  · have hup : b.nextUp = b := by rw [hbtop]; decide
    by_cases hatop : a = infinity
    · rw [hatop, hbtop]
      decide
    · obtain ⟨hkey, hnum⟩ := nextUp_of_ne_infinity ha hatop
      rw [hup]
      refine le_iff.2 ⟨hnum, hb, ?_⟩
      have hmax : a.nextUp.magnitude.val ≤ 0x7F800000 := not_lt.1 (of_decide_eq_false hnum)
      rw [hbtop]
      show _ ≤ (0x7F800000 : ℤ)
      unfold numericKey
      split_ifs <;> omega
  · have hatop : a ≠ infinity := by
      intro hatop
      rw [hatop] at hle
      have hle : (0x7F800000 : ℤ) ≤ b.numericKey := hle
      have hmax : b.magnitude.val ≤ 0x7F800000 := not_lt.1 (of_decide_eq_false hb)
      refine hbtop ?_
      obtain ⟨negative, magnitude⟩ := b
      unfold numericKey at hle
      cases negative
      · have hval : magnitude.val = 0x7F800000 := by
          simp only [Bool.false_eq_true, if_false] at hle hmax
          omega
        exact congrArg (F32.mk false) (Fin.ext hval)
      · simp only [if_true] at hle
        omega
    obtain ⟨hkey, hnum⟩ := nextUp_of_ne_infinity ha hatop
    obtain ⟨hkey', hnum'⟩ := nextUp_of_ne_infinity hb hbtop
    exact le_iff.2 ⟨hnum, hnum', by omega⟩

theorem neg_le_neg {a b : F32} (h : a.le b = true) : b.neg.le a.neg = true := by
  obtain ⟨ha, hb, hle⟩ := le_iff.1 h
  refine le_iff.2 ⟨hb, ha, ?_⟩
  rw [numericKey_neg, numericKey_neg]
  omega

theorem nextDown_le {a b : F32} (h : a.le b = true) : a.nextDown.le b.nextDown = true :=
  neg_le_neg (nextUp_le (neg_le_neg h))

theorem isNan_nextUp {x : F32} (hx : x.isNan = true) : x.nextUp.isNan = true := by
  rw [nextUp, if_pos (Or.inl hx)]
  exact hx

example : nextUp ⟨true, 0⟩ = ⟨false, 1⟩ ∧ nextDown ⟨false, 0⟩ = ⟨true, 1⟩ := by decide

end F32

/-! ## Values of binary formats -/

namespace F64

/-- The value of magnitude bits with `p` fraction bits, where those of infinity are `top`. -/
def ofFormat (p : ℕ) (e : ℤ) (top : ℕ) (negative : Bool) (n : ℕ) : F64 :=
  if top < n then .nan
  else if n < top then .finite (signedValue p e negative n)
  else .infinity negative

variable {p top n m : ℕ} {e : ℤ} {a b : Bool}

theorem isNan_ofFormat (hn : n ≤ top) : (ofFormat p e top a n).isNan = false := by
  rw [ofFormat, if_neg hn.not_gt]
  split_ifs <;> rfl

/-- The values are ordered as the signed magnitudes. -/
theorem ofFormat_le (htop : 0 < top) (hn : n ≤ top) (hm : m ≤ top)
    (h : signedKey a n ≤ signedKey b m) : (ofFormat p e top a n).le (ofFormat p e top b m) = true := by
  simp only [le, isNan_ofFormat hn, isNan_ofFormat hm, Bool.not_false, Bool.true_and,
    decide_eq_true_iff]
  simp only [ofFormat, hn.not_gt, hm.not_gt, if_false]
  by_cases hn' : n < top
  · by_cases hm' : m < top
    · simp only [hn', hm', if_true, numericKey, WithBot.coe_le_coe, WithTop.coe_le_coe]
      exact signedValue_le_iff.2 h
    · cases b with
      | false =>
        rw [if_neg hm']
        exact le_top
      | true =>
        cases a <;> simp only [signedKey, Bool.false_eq_true, if_false, if_true] at h <;> omega
  · cases a with
    | true =>
      rw [if_neg hn']
      exact bot_le
    | false =>
      have hb : b = false ∧ ¬m < top := by
        cases b <;> simp only [signedKey, Bool.false_eq_true, if_false, if_true] at h
        · exact ⟨rfl, by omega⟩
        · omega
      rw [if_neg hn', if_neg hb.2, hb.1]

end F64

/-- `f64::from`. -/
def F32.toF64 (x : F32) : F64 := .ofFormat 23 (-149) infinityBits x.negative x.magnitude.val

theorem F32.toF64_le {a b : F32} (h : a.le b = true) : a.toF64.le b.toF64 = true := by
  simp only [le, Bool.and_eq_true, Bool.not_eq_true', decide_eq_true_iff] at h
  exact F64.ofFormat_le (by decide) (not_lt.1 (of_decide_eq_false h.1.1))
    (not_lt.1 (of_decide_eq_false h.1.2)) h.2

theorem F32.toF64_of_isNan {x : F32} (hx : x.isNan = true) : x.toF64 = .nan :=
  if_pos (of_decide_eq_true hx)

example : F32.toF64 ⟨true, 0x3F800000⟩ = .finite (-1) := by decide +kernel

/-- `as f32`. -/
def F64.toF32 : F64 → F32
  | nan => .nan
  | infinity negative => { F32.infinity with negative }
  | finite q => if q < 0 then (F32.ofNonneg (-q)).neg else .ofNonneg q

/-! ## Doubles by their bits -/

/-- The magnitudes have numerals. -/
instance Double.neZero_magnitude : NeZero (2 ^ 63 : ℕ) := ⟨by norm_num⟩

/-- `f64`, by its bits. -/
structure Double where
  negative : Bool
  magnitude : Fin (2 ^ 63)
  deriving DecidableEq, Repr

namespace Double

/-- The magnitude bits of infinity. -/
def infinityBits : ℕ := 0x7FF0000000000000

def isNan (x : Double) : Bool := infinityBits < x.magnitude.val

/-- The value, its sign of zero dropped. -/
def toF64 (x : Double) : F64 := .ofFormat 52 (-1074) infinityBits x.negative x.magnitude.val

def infinity (negative : Bool) : Double := ⟨negative, Fin.ofNat _ infinityBits⟩

/-- `as f32`, which keeps the sign of a zero. -/
def toF32 (x : Double) : F32 := { x.toF64.toF32 with negative := x.negative }

/-- `f64::max`, with the first of two zeros. -/
protected def max (a b : Double) : Double :=
  if a.isNan then b else if b.isNan then a else if a.toF64.lt b.toF64 then b else a

/-- `f64::min`, with the first of two zeros. -/
protected def min (a b : Double) : Double :=
  if a.isNan then b else if b.isNan then a else if b.toF64.lt a.toF64 then b else a

/-- The key of `total_cmp`. -/
def totalKey (x : Double) : ℤ := if x.negative then -1 - x.magnitude.val else x.magnitude.val

/-- `f64::total_cmp`. -/
def totalCmp (a b : Double) : Ordering := compare a.totalKey b.totalKey

theorem toF64_le_of_totalKey_le {a b : Double} (ha : a.isNan = false) (hb : b.isNan = false)
    (h : a.totalKey ≤ b.totalKey) : a.toF64.le b.toF64 = true :=
  F64.ofFormat_le (by decide) (not_lt.1 (of_decide_eq_false ha)) (not_lt.1 (of_decide_eq_false hb))
    (signedKey_le_of_complementKey_le h)

end Double

/-- `Coord<f64>`, by its bits. -/
structure DoubleCoord where
  x : Double
  y : Double
  deriving DecidableEq, Repr

end Pourpoint
