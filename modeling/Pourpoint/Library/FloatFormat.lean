import Mathlib.Tactic

/-!
# Binary floating-point magnitudes

The bits of a magnitude are an exponent field above a fraction field of `p` bits. The first exponent
has no implicit leading bit; its unit is `2 ^ e`. Successive bit patterns are one unit in the last
place apart (`magnitudeValue_succ`), so the values are ordered as the bits are.
-/

namespace Library

/-- The significand with its implicit bit. -/
def significand (p n : ℕ) : ℕ := if n / 2 ^ p = 0 then n % 2 ^ p else 2 ^ p + n % 2 ^ p

/-- The exponent of the last place, above that of the subnormal numbers. -/
def scale (p n : ℕ) : ℕ := n / 2 ^ p - 1

/-- The value of magnitude bits. -/
def magnitudeValue (p : ℕ) (e : ℤ) (n : ℕ) : ℚ := significand p n * (2 : ℚ) ^ (e + scale p n)

variable {p n m : ℕ} {e : ℤ}

theorem significand_lt : significand p n < 2 ^ (p + 1) := by
  have hmod : n % 2 ^ p < 2 ^ p := Nat.mod_lt n (by positivity)
  unfold significand
  split_ifs <;> rw [pow_succ] <;> omega

@[simp]
theorem magnitudeValue_zero : magnitudeValue p e 0 = 0 := by
  simp [magnitudeValue, significand]

theorem magnitudeValue_nonneg : 0 ≤ magnitudeValue p e n := by
  unfold magnitudeValue
  positivity

/-- The next bits are one unit in the last place above. -/
theorem magnitudeValue_succ :
    magnitudeValue p e (n + 1) = magnitudeValue p e n + (2 : ℚ) ^ (e + scale p n) := by
  have hpos : 0 < 2 ^ p := by positivity
  have hdiv := Nat.div_add_mod n (2 ^ p)
  have hmod : n % 2 ^ p < 2 ^ p := Nat.mod_lt n hpos
  by_cases hcarry : n % 2 ^ p + 1 < 2 ^ p
  · have hn : n + 1 = 2 ^ p * (n / 2 ^ p) + (n % 2 ^ p + 1) := by omega
    have hquot : (n + 1) / 2 ^ p = n / 2 ^ p := by
      rw [hn, Nat.mul_add_div hpos, Nat.div_eq_of_lt hcarry, Nat.add_zero]
    have hrem : (n + 1) % 2 ^ p = n % 2 ^ p + 1 := by
      rw [hn, Nat.mul_add_mod, Nat.mod_eq_of_lt hcarry]
    have hsig : significand p (n + 1) = significand p n + 1 := by
      unfold significand
      rw [hquot, hrem]
      split_ifs <;> omega
    rw [magnitudeValue, magnitudeValue, hsig, scale, scale, hquot]
    push_cast
    ring
  · have hlast : n % 2 ^ p + 1 = 2 ^ p := by omega
    have hn : n + 1 = 2 ^ p * (n / 2 ^ p + 1) := by rw [Nat.mul_succ]; omega
    have hquot : (n + 1) / 2 ^ p = n / 2 ^ p + 1 := by rw [hn, Nat.mul_div_cancel_left _ hpos]
    have hrem : (n + 1) % 2 ^ p = 0 := by rw [hn, Nat.mul_mod_right]
    have hlastq : ((n % 2 ^ p : ℕ) : ℚ) + 1 = 2 ^ p := by exact_mod_cast hlast
    by_cases hsub : n / 2 ^ p = 0
    · simp only [magnitudeValue, significand, scale, hquot, hrem, hsub, if_true]
      simp only [Nat.zero_add, Nat.sub_self, Nat.zero_sub, Nat.one_ne_zero, if_false, Nat.add_zero]
      push_cast
      rw [← hlastq]
      ring
    · obtain ⟨q, hq⟩ := Nat.exists_eq_succ_of_ne_zero hsub
      simp only [magnitudeValue, significand, scale, hquot, hrem, hq, Nat.succ_ne_zero, if_false,
        Nat.add_zero, Nat.succ_sub_one]
      have hexp : (2 : ℚ) ^ (e + (q.succ : ℕ)) = 2 ^ (e + q) * 2 := by
        rw [← zpow_add_one₀ (two_ne_zero), Nat.cast_succ, add_assoc]
      push_cast at hexp ⊢
      rw [hexp, ← hlastq]
      ring

theorem magnitudeValue_strictMono : StrictMono (magnitudeValue p e) := by
  refine strictMono_nat_of_lt_succ ?_
  intro n
  have hunit : (0 : ℚ) < 2 ^ (e + scale p n) := by positivity
  rw [magnitudeValue_succ]
  exact lt_add_of_pos_right _ hunit

theorem magnitudeValue_field (q : ℕ) : magnitudeValue p e (2 ^ p * (q + 1)) = 2 ^ (e + p + q) := by
  have hpos : 0 < 2 ^ p := by positivity
  rw [magnitudeValue, significand, scale, Nat.mul_div_cancel_left _ hpos, Nat.mul_mod_right,
    if_neg (Nat.succ_ne_zero q), Nat.add_zero, Nat.add_sub_cancel, Nat.cast_pow, Nat.cast_ofNat,
    ← zpow_natCast, ← zpow_add₀ two_ne_zero]
  congr 1
  ring

/-! ## Signed values -/

/-- The place of a signed magnitude in the numeric order. -/
def signedKey (negative : Bool) (n : ℕ) : ℤ := if negative then -n else n

/-- The two's-complement order of a sign and magnitude bits, in which `-0` is below `0`. -/
def complementKey (negative : Bool) (n : ℕ) : ℤ := if negative then -1 - n else n

theorem eq_of_complementKey_eq {a b : Bool} (h : complementKey a n = complementKey b m) :
    a = b ∧ n = m := by
  unfold complementKey at h
  cases a <;> cases b <;> simp only [Bool.false_eq_true, if_false, if_true] at h
  · exact ⟨rfl, by omega⟩
  · omega
  · omega
  · exact ⟨rfl, by omega⟩

theorem signedKey_le_of_complementKey_le {a b : Bool} (h : complementKey a n ≤ complementKey b m) :
    signedKey a n ≤ signedKey b m := by
  unfold complementKey at h
  unfold signedKey
  split_ifs at * <;> omega

/-- The value of a code with its sign. -/
def signedValue (p : ℕ) (e : ℤ) (negative : Bool) (n : ℕ) : ℚ :=
  if negative then -magnitudeValue p e n else magnitudeValue p e n

theorem signedValue_le_iff {a b : Bool} :
    signedValue p e a n ≤ signedValue p e b m ↔ signedKey a n ≤ signedKey b m := by
  have hmono := magnitudeValue_strictMono (p := p) (e := e)
  have hzero : ∀ k, magnitudeValue p e k ≤ 0 ↔ k = 0 := by
    intro k
    rw [← magnitudeValue_zero (p := p) (e := e), hmono.le_iff_le, Nat.le_zero]
  have hn := magnitudeValue_nonneg (p := p) (e := e) (n := n)
  have hm := magnitudeValue_nonneg (p := p) (e := e) (n := m)
  unfold signedValue signedKey
  cases a <;> cases b
  · simp [hmono.le_iff_le]
  · simp only [Bool.false_eq_true, if_false, if_true]
    constructor
    · intro h
      have hn0 := (hzero n).1 (by linarith)
      have hm0 := (hzero m).1 (by linarith)
      omega
    · intro h
      have hn0 : n = 0 := by omega
      have hm0 : m = 0 := by omega
      simp [hn0, hm0]
  · simp only [Bool.false_eq_true, if_false, if_true]
    exact iff_of_true (by linarith) (by omega)
  · simp [hmono.le_iff_le]

end Library
