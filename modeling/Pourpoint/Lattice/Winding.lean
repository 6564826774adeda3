import Pourpoint.Lattice.Polyline

/-!
# Winding numbers on the square lattice

Points of the lattice are `(row, col)` with rows growing downwards; cell `(r, c)` is the unit
square with corners `(r, c)` and `(r + 1, c + 1)`. The winding number of a family of directed unit
edges around a cell counts the vertical edges on its row, at or left of its column: `+1` for an
edge going up and `-1` for one going down.

* `winding_sub_west`: moving one cell east changes the winding number by the vertical edges
  crossed.
* `Closed.winding_sub_north`: for a closed polyline the same holds of moving one cell south. This
  is where closedness enters.
* `Closed.twiceArea_eq`: the shoelace sum of a closed polyline is twice the sum of its winding
  numbers, over any box that contains it.
-/

namespace Lattice

abbrev Point := ℤ × ℤ

abbrev Edge := Point × Point

/-! ## Unit edges -/

/-- An edge of length one along an axis. -/
def IsUnit (e : Edge) : Prop :=
  (e.2.1 = e.1.1 ∧ (e.2.2 = e.1.2 + 1 ∨ e.2.2 = e.1.2 - 1)) ∨
    (e.2.2 = e.1.2 ∧ (e.2.1 = e.1.1 + 1 ∨ e.2.1 = e.1.1 - 1))

/-! ## Winding numbers -/

/-- The signed contribution of an edge to the winding number around cell `(r, c)`. -/
def crossing (r c : ℤ) (e : Edge) : ℤ :=
  if e.1.2 = e.2.2 ∧ e.1.2 ≤ c then
    if e.1.1 = r + 1 ∧ e.2.1 = r then 1
    else if e.1.1 = r ∧ e.2.1 = r + 1 then -1
    else 0
  else 0

/-- The winding number of a family of edges around a cell. -/
def winding (es : List Edge) (x : Point) : ℤ := (es.map (crossing x.1 x.2)).sum

@[simp] theorem winding_nil (x : Point) : winding [] x = 0 := rfl

@[simp] theorem winding_cons (e : Edge) (es : List Edge) (x : Point) :
    winding (e :: es) x = crossing x.1 x.2 e + winding es x := rfl

theorem winding_append (es fs : List Edge) (x : Point) :
    winding (es ++ fs) x = winding es x + winding fs x := by
  simp [winding]

theorem winding_flatMap {β : Type*} (ws : List β) (f : β → List Edge) (x : Point) :
    winding (ws.flatMap f) x = (ws.map fun w => winding (f w) x).sum := by
  induction ws with
  | nil => rfl
  | cons w ws ih => simp [winding_append, ih]

/-- A nonzero winding number needs a vertical edge on the row, at or left of the column. -/
theorem exists_edge_of_winding_ne_zero {es : List Edge} {r c : ℤ} (h : winding es (r, c) ≠ 0) :
    ∃ e ∈ es, e.1.2 = e.2.2 ∧ e.1.2 ≤ c ∧
      (e.1.1 = r + 1 ∧ e.2.1 = r ∨ e.1.1 = r ∧ e.2.1 = r + 1) := by
  by_contra hno
  push Not at hno
  refine h (List.sum_eq_zero fun n hn => ?_)
  obtain ⟨e, he, rfl⟩ := List.mem_map.1 hn
  have hrow := hno e he
  unfold crossing
  split_ifs with h1 h2 h3
  · exact absurd h2.2 ((hrow h1.1 h1.2).1 h2.1)
  · exact absurd h3.2 ((hrow h1.1 h1.2).2 h3.1)
  · rfl
  · rfl

/-- The number of crossed edges has the parity of the winding number. -/
theorem countP_crossing_mod_two (es : List Edge) (x : Point) :
    ((es.countP fun e => crossing x.1 x.2 e != 0 : ℕ) : ℤ) % 2 = winding es x % 2 := by
  induction es with
  | nil => rfl
  | cons e es ih =>
    have hval : crossing x.1 x.2 e = 0 ∨ crossing x.1 x.2 e = 1 ∨ crossing x.1 x.2 e = -1 := by
      unfold crossing
      split_ifs <;> simp
    rw [List.countP_cons, winding_cons]
    rcases hval with h | h | h <;> simp [h] <;> omega

/-! ## Jumps -/

theorem crossing_sub_west (r c : ℤ) (e : Edge) :
    crossing r c e - crossing r (c - 1) e =
      (if e = ((r + 1, c), (r, c)) then 1 else 0) - if e = ((r, c), (r + 1, c)) then 1 else 0 := by
  obtain ⟨⟨a, b⟩, a', b'⟩ := e
  simp only [crossing, Prod.mk.injEq]
  split_ifs <;> omega

/-- **Crossing a column line.** -/
theorem winding_sub_west (es : List Edge) (r c : ℤ) :
    winding es (r, c) - winding es (r, c - 1) =
      es.count ((r + 1, c), (r, c)) - es.count ((r, c), (r + 1, c)) := by
  induction es with
  | nil => rfl
  | cons e es ih =>
    have h := crossing_sub_west r c e
    simp only [winding_cons, List.count_cons, beq_iff_eq, Nat.cast_add, Nat.cast_ite,
      Nat.cast_one, Nat.cast_zero] at *
    linarith

theorem crossing_sub_north {e : Edge} (he : IsUnit e) (r c : ℤ) :
    crossing r c e - crossing (r - 1) c e =
      (if e = ((r, c), (r, c + 1)) then 1 else 0) - (if e = ((r, c + 1), (r, c)) then 1 else 0) +
        ((if e.2.1 = r ∧ e.2.2 ≤ c then 1 else 0) - if e.1.1 = r ∧ e.1.2 ≤ c then 1 else 0) := by
  obtain ⟨⟨a, b⟩, a', b'⟩ := e
  simp only [IsUnit] at he
  simp only [crossing, Prod.mk.injEq]
  rcases he with ⟨rfl, rfl | rfl⟩ | ⟨rfl, rfl | rfl⟩ <;> split_ifs <;> omega

theorem winding_sub_north_eq {es : List Edge} (hu : ∀ e ∈ es, IsUnit e) (r c : ℤ) :
    winding es (r, c) - winding es (r - 1, c) =
      es.count ((r, c), (r, c + 1)) - es.count ((r, c + 1), (r, c)) +
        (es.map fun e => (if e.2.1 = r ∧ e.2.2 ≤ c then (1 : ℤ) else 0) -
          if e.1.1 = r ∧ e.1.2 ≤ c then 1 else 0).sum := by
  induction es with
  | nil => rfl
  | cons e es ih =>
    have h := crossing_sub_north (hu e (by simp)) r c
    have ih := ih fun e he => hu e (by simp [he])
    simp only [winding_cons, List.count_cons, beq_iff_eq, Nat.cast_add, Nat.cast_ite,
      Nat.cast_one, Nat.cast_zero, List.map_cons, List.sum_cons] at *
    linarith

/-- **Crossing a row line**, for a closed polyline of unit edges. -/
theorem Closed.winding_sub_north {l : List Point} (hc : Closed l)
    (hu : ∀ e ∈ segments l, IsUnit e) (r c : ℤ) :
    winding (segments l) (r, c) - winding (segments l) (r - 1, c) =
      (segments l).count ((r, c), (r, c + 1)) - (segments l).count ((r, c + 1), (r, c)) := by
  have htele := hc.sum_segments_sub fun v => if v.1 = r ∧ v.2 ≤ c then 1 else 0
  rw [winding_sub_north_eq hu, htele, add_zero]

/-! ## Area -/

/-- The shoelace sum of a family of edges: twice its signed area. -/
def twiceArea (es : List Edge) : ℤ := (es.map fun e => e.1.2 * e.2.1 - e.2.2 * e.1.1).sum

theorem sum_range_le_indicator (k : ℤ) (C : ℕ) (h0 : 0 ≤ k) (hC : k ≤ C) :
    (∑ c ∈ Finset.range C, if k ≤ (c : ℤ) then (1 : ℤ) else 0) = C - k := by
  induction C with
  | zero => simp_all; omega
  | succ C ih =>
    rw [Finset.sum_range_succ]
    by_cases h : k ≤ C
    · rw [ih h, if_pos h]
      push_cast
      ring
    · have hk : k = C + 1 := by push_cast at hC; omega
      rw [if_neg h, add_zero, Finset.sum_eq_zero]
      · push_cast; omega
      · intro c hc
        have := Finset.mem_range.1 hc
        rw [if_neg (by omega)]

/-- The crossings of a vertical edge, summed over a box it lies in. -/
theorem sum_crossing_vertical (a b k s : ℤ) (R C : ℕ)
    (ha : a = b + 1 ∧ s = 1 ∨ b = a + 1 ∧ s = -1) (h0 : 0 ≤ min a b) (hR : max a b ≤ R)
    (hk0 : 0 ≤ k) (hkC : k ≤ C) :
    ∑ r ∈ Finset.range R, ∑ c ∈ Finset.range C, crossing r c ((a, k), (b, k)) = s * (C - k) := by
  obtain ⟨m, hm⟩ : ∃ m : ℕ, (m : ℤ) = min a b := ⟨(min a b).toNat, by omega⟩
  have hrow : ∀ r ∈ Finset.range R, r ≠ m →
      ∑ c ∈ Finset.range C, crossing r c ((a, k), (b, k)) = 0 := by
    intro r _ hne
    refine Finset.sum_eq_zero fun c _ => ?_
    have : (r : ℤ) ≠ m := by exact_mod_cast hne
    simp only [crossing]
    split_ifs <;> omega
  rw [Finset.sum_eq_single_of_mem m (Finset.mem_range.2 (by omega)) hrow,
    ← sum_range_le_indicator k C hk0 hkC, Finset.mul_sum]
  refine Finset.sum_congr rfl fun c _ => ?_
  rcases ha with ⟨rfl, rfl⟩ | ⟨rfl, rfl⟩ <;> simp only [crossing, true_and] <;>
    split_ifs <;> omega

theorem shoelace_eq_of_isUnit {e : Edge} (he : IsUnit e) (R C : ℕ)
    (hbox : ∀ v ∈ [e.1, e.2], 0 ≤ v.1 ∧ v.1 ≤ R ∧ 0 ≤ v.2 ∧ v.2 ≤ C) :
    e.1.2 * e.2.1 - e.2.2 * e.1.1 =
      2 * ∑ r ∈ Finset.range R, ∑ c ∈ Finset.range C, crossing r c e +
        ((2 * C - e.2.2) * e.2.1 - (2 * C - e.1.2) * e.1.1) := by
  obtain ⟨⟨a, b⟩, a', b'⟩ := e
  have h1 := hbox (a, b) (by simp)
  have h2 := hbox (a', b') (by simp)
  simp only [IsUnit] at he h1 h2
  rcases he with ⟨rfl, h⟩ | ⟨rfl, rfl | rfl⟩
  · -- A horizontal edge crosses no row.
    have hz : ∑ r ∈ Finset.range R, ∑ c ∈ Finset.range C, crossing r c ((a', b), (a', b')) = 0 := by
      refine Finset.sum_eq_zero fun r _ => Finset.sum_eq_zero fun c _ => ?_
      simp only [crossing]
      split_ifs <;> omega
    rw [hz]
    ring
  · rw [sum_crossing_vertical a (a + 1) b' (-1) R C (by simp) (by omega) (by omega)
      (by omega) (by omega)]
    ring
  · rw [sum_crossing_vertical a (a - 1) b' 1 R C (by simp) (by omega) (by omega)
      (by omega) (by omega)]
    ring

theorem twiceArea_eq_add {es : List Edge} (hu : ∀ e ∈ es, IsUnit e) (R C : ℕ)
    (hbox : ∀ e ∈ es, ∀ v ∈ [e.1, e.2], 0 ≤ v.1 ∧ v.1 ≤ R ∧ 0 ≤ v.2 ∧ v.2 ≤ C) :
    twiceArea es =
      2 * ∑ r ∈ Finset.range R, ∑ c ∈ Finset.range C, winding es (r, c) +
        (es.map fun e => (2 * (C : ℤ) - e.2.2) * e.2.1 - (2 * (C : ℤ) - e.1.2) * e.1.1).sum := by
  induction es with
  | nil => simp [twiceArea]
  | cons e es ih =>
    have h := shoelace_eq_of_isUnit (hu e (by simp)) R C (hbox e (by simp))
    have ih := ih (fun e he => hu e (by simp [he])) fun e he => hbox e (by simp [he])
    simp only [twiceArea, winding_cons, Finset.sum_add_distrib, List.map_cons,
      List.sum_cons] at *
    linarith

/-- **Green's theorem.** The shoelace sum of a closed polyline of unit edges is twice the sum of
its winding numbers. -/
theorem Closed.twiceArea_eq {l : List Point} (hc : Closed l) (hu : ∀ e ∈ segments l, IsUnit e)
    (R C : ℕ) (hbox : ∀ v ∈ l, 0 ≤ v.1 ∧ v.1 ≤ R ∧ 0 ≤ v.2 ∧ v.2 ≤ C) :
    twiceArea (segments l) =
      2 * ∑ r ∈ Finset.range R, ∑ c ∈ Finset.range C, winding (segments l) (r, c) := by
  have htele := hc.sum_segments_sub fun v => (2 * C - v.2) * v.1
  rw [twiceArea_eq_add hu R C ?_, htele, add_zero]
  intro e he v hv
  rcases List.mem_pair.1 hv with rfl | rfl
  · exact hbox _ (left_mem_of_mem_segments he)
  · exact hbox _ (right_mem_of_mem_segments he)

end Lattice
