import Mathlib.Data.Set.Function
import Mathlib.Tactic

/-!
# The Hilbert curve

The curve through the square of side `2 ^ n` runs through its quadrants in the order lower left, upper
left, upper right, lower right. It starts at the lower left corner and ends at the lower right one; the
first and the last quadrant are reflected so that the end of each is next to the start of the next one
(`hilbertPoint_adjacent`).
-/

namespace Library

/-- The number of points before `(x, y)`. -/
def hilbertIndex : ℕ → ℕ → ℕ → ℕ
  | 0, _, _ => 0
  | n + 1, x, y =>
    if x < 2 ^ n ∧ y < 2 ^ n then hilbertIndex n y x
    else if x < 2 ^ n then 4 ^ n + hilbertIndex n x (y - 2 ^ n)
    else if 2 ^ n ≤ y then 2 * 4 ^ n + hilbertIndex n (x - 2 ^ n) (y - 2 ^ n)
    else 3 * 4 ^ n + hilbertIndex n (2 ^ n - 1 - y) (2 ^ n - 1 - (x - 2 ^ n))

/-- The point with this many points before it. -/
def hilbertPoint : ℕ → ℕ → ℕ × ℕ
  | 0, _ => (0, 0)
  | n + 1, d =>
    if d < 4 ^ n then (hilbertPoint n d).swap
    else if d < 2 * 4 ^ n then
      ((hilbertPoint n (d - 4 ^ n)).1, 2 ^ n + (hilbertPoint n (d - 4 ^ n)).2)
    else if d < 3 * 4 ^ n then
      (2 ^ n + (hilbertPoint n (d - 2 * 4 ^ n)).1, 2 ^ n + (hilbertPoint n (d - 2 * 4 ^ n)).2)
    else
      (2 ^ n + (2 ^ n - 1 - (hilbertPoint n (d - 3 * 4 ^ n)).2),
        2 ^ n - 1 - (hilbertPoint n (d - 3 * 4 ^ n)).1)

/-- The points of the square of side `2 ^ n`. -/
def square (n : ℕ) : Set (ℕ × ℕ) := {p | p.1 < 2 ^ n ∧ p.2 < 2 ^ n}

/-- The points differ by one in one coordinate. -/
def Adjacent (p q : ℕ × ℕ) : Prop :=
  p.1 = q.1 ∧ (p.2 + 1 = q.2 ∨ q.2 + 1 = p.2) ∨ p.2 = q.2 ∧ (p.1 + 1 = q.1 ∨ q.1 + 1 = p.1)

theorem hilbertIndex_lt {n x y : ℕ} (hx : x < 2 ^ n) (hy : y < 2 ^ n) : hilbertIndex n x y < 4 ^ n := by
  induction n generalizing x y with
  | zero => exact Nat.one_pos
  | succ n ih =>
    rw [pow_succ] at hx hy
    rw [hilbertIndex, pow_succ]
    split_ifs with hlow hleft hup
    · have := ih hlow.2 hlow.1
      omega
    · have := @ih x (y - 2 ^ n) hleft (by omega)
      omega
    · have := @ih (x - 2 ^ n) (y - 2 ^ n) (by omega) (by omega)
      omega
    · have := @ih (2 ^ n - 1 - y) (2 ^ n - 1 - (x - 2 ^ n)) (by omega) (by omega)
      omega

/-! ### The quadrants -/

theorem hilbertPoint_lowerLeft {n e : ℕ} (he : e < 4 ^ n) :
    hilbertPoint (n + 1) e = (hilbertPoint n e).swap := by
  rw [hilbertPoint, if_pos he]

theorem hilbertPoint_upperLeft {n e : ℕ} (he : e < 4 ^ n) :
    hilbertPoint (n + 1) (4 ^ n + e) = ((hilbertPoint n e).1, 2 ^ n + (hilbertPoint n e).2) := by
  rw [hilbertPoint, if_neg (by omega), if_pos (by omega), Nat.add_sub_cancel_left]

theorem hilbertPoint_upperRight {n e : ℕ} (he : e < 4 ^ n) :
    hilbertPoint (n + 1) (2 * 4 ^ n + e) =
      (2 ^ n + (hilbertPoint n e).1, 2 ^ n + (hilbertPoint n e).2) := by
  rw [hilbertPoint, if_neg (by omega), if_neg (by omega), if_pos (by omega), Nat.add_sub_cancel_left]

theorem hilbertPoint_lowerRight {n e : ℕ} :
    hilbertPoint (n + 1) (3 * 4 ^ n + e) =
      (2 ^ n + (2 ^ n - 1 - (hilbertPoint n e).2), 2 ^ n - 1 - (hilbertPoint n e).1) := by
  rw [hilbertPoint, if_neg (by omega), if_neg (by omega), if_neg (by omega), Nat.add_sub_cancel_left]

/-- An index lies in one of the quadrants. -/
theorem exists_quadrant {n d : ℕ} (hd : d < 4 ^ (n + 1)) :
    ∃ e < 4 ^ n, d = e ∨ d = 4 ^ n + e ∨ d = 2 * 4 ^ n + e ∨ d = 3 * 4 ^ n + e := by
  rw [pow_succ] at hd
  rcases Nat.lt_or_ge d (4 ^ n) with h₀ | h₀
  · exact ⟨d, h₀, Or.inl rfl⟩
  · rcases Nat.lt_or_ge d (2 * 4 ^ n) with h₁ | h₁
    · exact ⟨d - 4 ^ n, by omega, Or.inr (Or.inl (by omega))⟩
    · rcases Nat.lt_or_ge d (3 * 4 ^ n) with h₂ | h₂
      · exact ⟨d - 2 * 4 ^ n, by omega, Or.inr (Or.inr (Or.inl (by omega)))⟩
      · exact ⟨d - 3 * 4 ^ n, by omega, Or.inr (Or.inr (Or.inr (by omega)))⟩

/-! ### Both directions -/

theorem hilbertPoint_mem {n d : ℕ} (hd : d < 4 ^ n) : hilbertPoint n d ∈ square n := by
  induction n generalizing d with
  | zero => exact ⟨Nat.one_pos, Nat.one_pos⟩
  | succ n ih =>
    obtain ⟨e, he, rfl | rfl | rfl | rfl⟩ := exists_quadrant hd
    · obtain ⟨hx, hy⟩ := ih he
      rw [hilbertPoint_lowerLeft he, square, Set.mem_ofPred_eq, pow_succ, Prod.fst_swap,
        Prod.snd_swap]
      omega
    · obtain ⟨hx, hy⟩ := ih he
      rw [hilbertPoint_upperLeft he, square, Set.mem_ofPred_eq, pow_succ]
      omega
    · obtain ⟨hx, hy⟩ := ih he
      rw [hilbertPoint_upperRight he, square, Set.mem_ofPred_eq, pow_succ]
      omega
    · obtain ⟨hx, hy⟩ := ih he
      rw [hilbertPoint_lowerRight, square, Set.mem_ofPred_eq, pow_succ]
      omega

/-- The point at an index has that index. -/
theorem hilbertIndex_hilbertPoint {n d : ℕ} (hd : d < 4 ^ n) :
    hilbertIndex n (hilbertPoint n d).1 (hilbertPoint n d).2 = d := by
  induction n generalizing d with
  | zero =>
    rw [pow_zero] at hd
    exact (Nat.lt_one_iff.1 hd).symm
  | succ n ih =>
    obtain ⟨e, he, rfl | rfl | rfl | rfl⟩ := exists_quadrant hd
    · obtain ⟨hx, hy⟩ := hilbertPoint_mem he
      rw [hilbertPoint_lowerLeft he, Prod.fst_swap, Prod.snd_swap, hilbertIndex, if_pos ⟨hy, hx⟩,
        ih he]
    · obtain ⟨hx, hy⟩ := hilbertPoint_mem he
      rw [hilbertPoint_upperLeft he, hilbertIndex, if_neg (by omega), if_pos hx,
        Nat.add_sub_cancel_left, ih he]
    · obtain ⟨hx, hy⟩ := hilbertPoint_mem he
      rw [hilbertPoint_upperRight he, hilbertIndex, if_neg (by omega), if_neg (by omega),
        if_pos (by omega), Nat.add_sub_cancel_left, Nat.add_sub_cancel_left, ih he]
    · obtain ⟨hx, hy⟩ := hilbertPoint_mem he
      rw [hilbertPoint_lowerRight, hilbertIndex, if_neg (by omega), if_neg (by omega),
        if_neg (by omega), Nat.add_sub_cancel_left, Nat.sub_sub_self (by omega),
        Nat.sub_sub_self (by omega), ih he]

/-- A point is at its index. -/
theorem hilbertPoint_hilbertIndex {n x y : ℕ} (hx : x < 2 ^ n) (hy : y < 2 ^ n) :
    hilbertPoint n (hilbertIndex n x y) = (x, y) := by
  induction n generalizing x y with
  | zero =>
    rw [pow_zero, Nat.lt_one_iff] at hx hy
    rw [hx, hy]
    rfl
  | succ n ih =>
    rw [pow_succ] at hx hy
    rw [hilbertIndex]
    split_ifs with hlow hleft hup
    · rw [hilbertPoint_lowerLeft (hilbertIndex_lt hlow.2 hlow.1), ih hlow.2 hlow.1,
        Prod.swap_prod_mk]
    · rw [hilbertPoint_upperLeft (hilbertIndex_lt hleft (by omega)), ih hleft (by omega)]
      exact Prod.ext rfl (by dsimp only; omega)
    · rw [hilbertPoint_upperRight (hilbertIndex_lt (by omega) (by omega)), ih (by omega) (by omega)]
      exact Prod.ext (by dsimp only; omega) (by dsimp only; omega)
    · rw [hilbertPoint_lowerRight, ih (by omega) (by omega)]
      exact Prod.ext (by dsimp only; omega) (by dsimp only; omega)

/-- **The index is a bijection** of the square onto the numbers below its area. -/
theorem hilbertIndex_bijOn (n : ℕ) :
    Set.BijOn (fun p : ℕ × ℕ => hilbertIndex n p.1 p.2) (square n) {d | d < 4 ^ n} := by
  refine Set.InvOn.bijOn ⟨?_, ?_⟩ (fun p hp => hilbertIndex_lt hp.1 hp.2)
    (fun d hd => hilbertPoint_mem hd)
  · intro p hp
    exact hilbertPoint_hilbertIndex hp.1 hp.2
  · intro d hd
    exact hilbertIndex_hilbertPoint hd

/-! ## Neighbours -/

theorem hilbertPoint_zero (n : ℕ) : hilbertPoint n 0 = (0, 0) := by
  induction n with
  | zero => rfl
  | succ n ih => rw [hilbertPoint_lowerLeft (by positivity), ih, Prod.swap_prod_mk]

/-- The curve ends at the lower right corner. -/
theorem hilbertPoint_last (n : ℕ) : hilbertPoint n (4 ^ n - 1) = (2 ^ n - 1, 0) := by
  induction n with
  | zero => rfl
  | succ n ih =>
    have hfour : 0 < 4 ^ n := by positivity
    have htwo : 0 < 2 ^ n := by positivity
    have hlast : 4 ^ (n + 1) - 1 = 3 * 4 ^ n + (4 ^ n - 1) := by
      rw [pow_succ]
      omega
    rw [hlast, hilbertPoint_lowerRight, ih, pow_succ]
    exact Prod.ext (by dsimp only; omega) (by dsimp only; omega)

/-- **Points with consecutive indices are neighbours.** -/
theorem hilbertPoint_adjacent {n d : ℕ} (hd : d + 1 < 4 ^ n) :
    Adjacent (hilbertPoint n d) (hilbertPoint n (d + 1)) := by
  induction n generalizing d with
  | zero => exact absurd hd (by omega)
  | succ n ih =>
    have htwo : 0 < 2 ^ n := by positivity
    have hfirst := hilbertPoint_zero n
    have hlast := hilbertPoint_last n
    obtain ⟨e, he, hquadrant⟩ := exists_quadrant (Nat.lt_of_succ_lt hd)
    rw [pow_succ] at hd
    rcases Nat.lt_or_ge (e + 1) (4 ^ n) with hinside | hend
    · -- Both points lie in one quadrant, which is a reflected copy of the square.
      have hadjacent := ih hinside
      obtain ⟨hx, hy⟩ := hilbertPoint_mem he
      obtain ⟨hx', hy'⟩ := hilbertPoint_mem hinside
      unfold Adjacent at hadjacent ⊢
      rcases hquadrant with rfl | rfl | rfl | rfl
      · rw [hilbertPoint_lowerLeft he, hilbertPoint_lowerLeft hinside]
        exact hadjacent.symm
      · rw [Nat.add_assoc, hilbertPoint_upperLeft he, hilbertPoint_upperLeft hinside]
        omega
      · rw [Nat.add_assoc, hilbertPoint_upperRight he, hilbertPoint_upperRight hinside]
        omega
      · rw [Nat.add_assoc, hilbertPoint_lowerRight, hilbertPoint_lowerRight]
        omega
    · -- The last point of a quadrant and the first of the next.
      obtain rfl : e = 4 ^ n - 1 := by omega
      unfold Adjacent
      rcases hquadrant with rfl | rfl | rfl | rfl
      · rw [show 4 ^ n - 1 + 1 = 4 ^ n + 0 by omega, hilbertPoint_lowerLeft he,
          hilbertPoint_upperLeft (by positivity), hfirst, hlast, Prod.swap_prod_mk]
        omega
      · rw [show 4 ^ n + (4 ^ n - 1) + 1 = 2 * 4 ^ n + 0 by omega, hilbertPoint_upperLeft he,
          hilbertPoint_upperRight (by positivity), hfirst, hlast]
        omega
      · rw [show 2 * 4 ^ n + (4 ^ n - 1) + 1 = 3 * 4 ^ n + 0 by omega, hilbertPoint_upperRight he,
          hilbertPoint_lowerRight, hfirst, hlast]
        omega
      · omega

end Library
