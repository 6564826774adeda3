import Pourpoint.FloatCast

/-!
# Rounding and order

Rounding to nearest does not pass a number that is itself a double: a sum with a nonnegative term is at
least the other term (`Double.le_add`). A magnitude is either a multiple of the last place of the exact
result or lies in a lower binade (`F64.multiple_or_lt`).
-/

namespace Pourpoint

open Library

namespace F32

theorem floor_le_roundHalfEven (q : ℚ) : ⌊q⌋₊ ≤ roundHalfEven q := by
  unfold roundHalfEven
  dsimp only
  split_ifs <;> omega

/-- Rounding does not pass an integer. -/
theorem roundHalfEven_le {q : ℚ} {n : ℕ} (hn : q ≤ n) : roundHalfEven q ≤ n := by
  by_cases hq : 0 ≤ q
  · have hfloor : ⌊q⌋₊ ≤ n := by
      rw [← Nat.floor_natCast (R := ℚ) n]
      exact Nat.floor_mono hn
    by_cases heq : ⌊q⌋₊ = n
    · have hexact : q - (⌊q⌋₊ : ℚ) = 0 := by
        have := Nat.floor_le hq
        rw [heq] at this ⊢
        linarith
      unfold roundHalfEven
      dsimp only
      rw [hexact, if_pos (by norm_num)]
      exact hfloor
    · have hup : roundHalfEven q ≤ ⌊q⌋₊ + 1 := by
        unfold roundHalfEven
        dsimp only
        split_ifs <;> omega
      omega
  · have hzero : ⌊q⌋₊ = 0 := Nat.floor_of_nonpos (not_le.1 hq).le
    unfold roundHalfEven
    dsimp only
    rw [hzero, if_pos (by push_cast; linarith)]
    exact Nat.zero_le n

end F32

namespace F64

theorem le_finite {p q : ℚ} (h : p ≤ q) : (finite p).le (finite q) = true := by
  simp only [le, isNan, Bool.not_false, Bool.true_and, decide_eq_true_iff, numericKey,
    WithBot.coe_le_coe, WithTop.coe_le_coe]
  exact h

theorem le_infinity (q : ℚ) : (finite q).le (infinity false) = true :=
  Bool.and_eq_true_iff.2 ⟨rfl, decide_eq_true le_top⟩

/-- A magnitude in the last place of a number: a multiple of it, or in a lower binade. -/
theorem multiple_or_lt {s k : ℕ} (hs : s < 2 ^ 53) {x : ℚ} (hx : 0 < x) :
    (∃ n : ℕ, (s : ℚ) * 2 ^ (-1074 + (k : ℤ)) = n * 2 ^ ulpExponent x) ∨
      (s : ℚ) * 2 ^ (-1074 + (k : ℤ)) < 2 ^ 52 * 2 ^ ulpExponent x ∧
        2 ^ 52 * 2 ^ ulpExponent x ≤ x := by
  by_cases hplace : ulpExponent x ≤ -1074 + (k : ℤ)
  · obtain ⟨j, hj⟩ := Int.eq_ofNat_of_zero_le (sub_nonneg.2 hplace)
    refine Or.inl ⟨s * 2 ^ j, ?_⟩
    have hexp : (-1074 + (k : ℤ)) = j + ulpExponent x := by omega
    rw [hexp, zpow_add₀ two_ne_zero, zpow_natCast]
    push_cast
    ring
  · have hlog : ulpExponent x = Int.log 2 x - 52 := by
      unfold ulpExponent at *
      omega
    have hbinade : (2 : ℚ) ^ 52 * 2 ^ ulpExponent x = 2 ^ Int.log 2 x := by
      rw [hlog, ← zpow_natCast, ← zpow_add₀ two_ne_zero]
      congr 1
      push_cast
      ring
    refine Or.inr ⟨?_, hbinade ▸ Int.zpow_log_le_self one_lt_two hx⟩
    have hexp : (2 : ℚ) ^ (-1074 + (k : ℤ)) ≤ 2 ^ (ulpExponent x - 1) :=
      zpow_le_zpow_right₀ one_le_two (by omega)
    have hhalf : (2 : ℚ) ^ (ulpExponent x - 1) * 2 = 2 ^ ulpExponent x := by
      rw [← zpow_add_one₀ two_ne_zero, sub_add_cancel]
    have hsq : (s : ℚ) < 2 ^ 53 := by exact_mod_cast hs
    have hpos : (0 : ℚ) < 2 ^ (ulpExponent x - 1) := by positivity
    calc (s : ℚ) * 2 ^ (-1074 + (k : ℤ)) ≤ s * 2 ^ (ulpExponent x - 1) := by gcongr
      _ < 2 ^ 53 * 2 ^ (ulpExponent x - 1) := by gcongr
      _ = 2 ^ 52 * (2 ^ (ulpExponent x - 1) * 2) := by ring
      _ = 2 ^ 52 * 2 ^ ulpExponent x := by rw [hhalf]

/-- Rounding up to a number does not go below a magnitude that is below it. -/
theorem le_rounded {s k : ℕ} (hs : s < 2 ^ 53) {x : ℚ} (hx : 0 < x)
    (h : (s : ℚ) * 2 ^ (-1074 + (k : ℤ)) ≤ x) : (s : ℚ) * 2 ^ (-1074 + (k : ℤ)) ≤
      F32.roundHalfEven (x / 2 ^ ulpExponent x) * 2 ^ ulpExponent x := by
  have hplace : (0 : ℚ) < 2 ^ ulpExponent x := by positivity
  have hbelow : ∀ n : ℕ, (n : ℚ) * 2 ^ ulpExponent x ≤ x →
      (n : ℚ) * 2 ^ ulpExponent x ≤
        F32.roundHalfEven (x / 2 ^ ulpExponent x) * 2 ^ ulpExponent x := by
    intro n hn
    have hfloor : n ≤ ⌊x / 2 ^ ulpExponent x⌋₊ := Nat.le_floor ((le_div_iff₀ hplace).2 hn)
    have hround := hfloor.trans (F32.floor_le_roundHalfEven _)
    gcongr
  rcases multiple_or_lt (k := k) hs hx with ⟨n, hn⟩ | ⟨hlt, hle⟩
  · rw [hn] at h ⊢
    exact hbelow n h
  · have := hbelow (2 ^ 52) (by exact_mod_cast hle)
    push_cast at this
    exact hlt.le.trans this

theorem rounded_le {s k : ℕ} (hs : s < 2 ^ 53) {x : ℚ} (hx : 0 < x)
    (h : x ≤ (s : ℚ) * 2 ^ (-1074 + (k : ℤ))) :
    F32.roundHalfEven (x / 2 ^ ulpExponent x) * 2 ^ ulpExponent x ≤
      (s : ℚ) * 2 ^ (-1074 + (k : ℤ)) := by
  have hplace : (0 : ℚ) < 2 ^ ulpExponent x := by positivity
  rcases multiple_or_lt (k := k) hs hx with ⟨n, hn⟩ | ⟨hlt, hle⟩
  · rw [hn] at h ⊢
    have hround := F32.roundHalfEven_le ((div_le_iff₀ hplace).2 h)
    gcongr
  · exact absurd (hle.trans h) hlt.not_ge

/-- Rounding a number above a double. -/
theorem le_round {v x : ℚ} {s k : ℕ} (hs : s < 2 ^ 53) (hv : |v| = s * 2 ^ (-1074 + (k : ℤ)))
    (htop : |v| < 2 ^ 1024) (hx : v ≤ x) : (finite v).le (round x) = true := by
  unfold round
  by_cases hzero : x = 0
  · rw [if_pos hzero]
    exact le_finite (hzero ▸ hx)
  · rw [if_neg hzero]
    dsimp only
    by_cases hneg : x < 0
    · have hvneg : v < 0 := hx.trans_lt hneg
      have hmag : |x| ≤ |v| := by
        rw [abs_of_neg hneg, abs_of_neg hvneg]
        exact neg_le_neg hx
      have hround := rounded_le hs (abs_pos.2 hzero) (hmag.trans_eq hv)
      rw [← hv] at hround
      rw [if_neg (hround.trans_lt htop).not_ge, if_pos hneg]
      refine le_finite ?_
      rw [abs_of_neg hvneg] at hround
      linarith only [hround]
    · have hxpos : 0 < x := lt_of_le_of_ne (not_lt.1 hneg) (Ne.symm hzero)
      split_ifs with hoverflow
      · rw [decide_eq_false hneg]
        exact le_infinity v
      · refine le_finite ?_
        rw [abs_of_pos hxpos]
        by_cases hvneg : v < 0
        · have : (0 : ℚ) ≤ F32.roundHalfEven (x / 2 ^ ulpExponent x) * 2 ^ ulpExponent x :=
            mul_nonneg (Nat.cast_nonneg _) (zpow_nonneg zero_le_two _)
          exact hvneg.le.trans this
        · have habs : |v| = v := abs_of_nonneg (not_lt.1 hvneg)
          rw [habs] at hv
          rw [hv] at hx ⊢
          exact le_rounded hs hxpos hx

theorem round_between {v x : ℚ} {s k : ℕ} (hs : s < 2 ^ 53) (hv : v = s * 2 ^ (-1074 + (k : ℤ)))
    (htop : v < 2 ^ 1024) (hzero : 0 ≤ x) (hx : x ≤ v) :
    ∃ q, round x = .finite q ∧ 0 ≤ q ∧ q ≤ v := by
  rcases hzero.eq_or_lt with rfl | hpos
  · exact ⟨0, by rw [round, if_pos rfl], le_rfl, hx⟩
  · have hround := rounded_le hs hpos (hv ▸ hx)
    rw [← hv] at hround
    unfold round
    rw [if_neg hpos.ne']
    dsimp only
    rw [abs_of_pos hpos, if_neg (hround.trans_lt htop).not_ge, if_neg hpos.not_gt]
    exact ⟨_, rfl, mul_nonneg (Nat.cast_nonneg _) (zpow_nonneg zero_le_two _), hround⟩

theorem natCast_eq_place (n : ℕ) : (n : ℚ) = n * 2 ^ (-1074 + ((1074 : ℕ) : ℤ)) := by norm_num

end F64

namespace Double

/-- A double is at most its sum with a nonnegative number. -/
theorem le_add {x : Double} (hx : x.isNan = false) {t : ℚ} (ht : 0 ≤ t) :
    x.toF64.le (x.toF64.add (.finite t)) = true := by
  have hmax : x.magnitude.val ≤ infinityBits := not_lt.1 (of_decide_eq_false hx)
  have hrefl : x.toF64.le x.toF64 = true := toF64_le_of_totalKey_le hx hx le_rfl
  unfold toF64 F64.ofFormat at hrefl ⊢
  rw [if_neg hmax.not_gt] at hrefl ⊢
  split_ifs at hrefl ⊢ with hfinite
  · have hvalue : |signedValue 52 (-1074) x.negative x.magnitude.val| =
        magnitudeValue 52 (-1074) x.magnitude.val := by
      unfold signedValue
      split_ifs
      · rw [abs_neg, abs_of_nonneg magnitudeValue_nonneg]
      · rw [abs_of_nonneg magnitudeValue_nonneg]
    have htop : magnitudeValue 52 (-1074) x.magnitude.val < 2 ^ 1024 := by
      have hlt := magnitudeValue_strictMono (p := 52) (e := -1074) hfinite
      have hfield : infinityBits = 2 ^ 52 * (2046 + 1) := rfl
      rw [hfield, magnitudeValue_field] at hlt
      exact hlt.trans_eq (by norm_num)
    exact F64.le_round significand_lt (hvalue.trans rfl) (hvalue ▸ htop) (by linarith)
  · exact hrefl

end Double

end Pourpoint
