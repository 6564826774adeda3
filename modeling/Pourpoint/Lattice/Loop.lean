import Pourpoint.Lattice.Winding

/-!
# Boundary loops of a region

A region is a set of cells. Its boundary edges are the directed unit edges with the region on
their right. A *loop* is a closed polyline that uses boundary edges, each at most once; it may
touch itself or another loop at a vertex where two diagonal cells meet.

Walking along a loop, the cell on the left of the path is joined to the next one without crossing
any loop, or by crossing another strand of one loop twice. So the winding number of any loop `t`
is the same on the left of every edge of a loop `w` (`winding_leftCell_eq`). With `t = w` this is
the discrete Jordan curve theorem: a loop takes two neighbouring winding numbers, and one of them is
zero (`Outer.winding_eq`, `Inner.winding_eq`).
-/

namespace Lattice

/-! ## Boundary edges -/

/-- The cell on the right of a unit edge. -/
def rightCell (e : Edge) : Point :=
  if e.2.1 = e.1.1 then if e.2.2 = e.1.2 + 1 then e.1 else (e.1.1 - 1, e.2.2)
  else if e.2.1 = e.1.1 + 1 then (e.1.1, e.1.2 - 1) else e.2

/-- The cell on the left of a unit edge. -/
def leftCell (e : Edge) : Point :=
  if e.2.1 = e.1.1 then if e.2.2 = e.1.2 + 1 then (e.1.1 - 1, e.1.2) else e.2
  else if e.2.1 = e.1.1 + 1 then e.1 else (e.2.1, e.2.2 - 1)

section cells

variable (r c : ℤ)

/-! The eight unit edges at a vertex `(r, c)`. -/

@[simp] theorem rightCell_east : rightCell ((r, c), (r, c + 1)) = (r, c) := by simp [rightCell]
@[simp] theorem leftCell_east : leftCell ((r, c), (r, c + 1)) = (r - 1, c) := by simp [leftCell]
@[simp] theorem rightCell_south : rightCell ((r, c), (r + 1, c)) = (r, c - 1) := by
  simp [rightCell]
@[simp] theorem leftCell_south : leftCell ((r, c), (r + 1, c)) = (r, c) := by simp [leftCell]
@[simp] theorem rightCell_west : rightCell ((r, c), (r, c - 1)) = (r - 1, c - 1) := by
  simp [rightCell]; omega
@[simp] theorem leftCell_west : leftCell ((r, c), (r, c - 1)) = (r, c - 1) := by
  simp [leftCell]; omega
@[simp] theorem rightCell_north : rightCell ((r, c), (r - 1, c)) = (r - 1, c) := by
  simp [rightCell]; omega
@[simp] theorem leftCell_north : leftCell ((r, c), (r - 1, c)) = (r - 1, c - 1) := by
  simp [leftCell]; omega
@[simp] theorem rightCell_from_east : rightCell ((r, c + 1), (r, c)) = (r - 1, c) := by
  simp [rightCell]; omega
@[simp] theorem leftCell_from_east : leftCell ((r, c + 1), (r, c)) = (r, c) := by
  simp [leftCell]; omega
@[simp] theorem rightCell_from_south : rightCell ((r + 1, c), (r, c)) = (r, c) := by
  simp [rightCell]; omega
@[simp] theorem leftCell_from_south : leftCell ((r + 1, c), (r, c)) = (r, c - 1) := by
  simp [leftCell]; omega
@[simp] theorem rightCell_from_west : rightCell ((r, c - 1), (r, c)) = (r, c - 1) := by
  simp [rightCell]
@[simp] theorem leftCell_from_west : leftCell ((r, c - 1), (r, c)) = (r - 1, c - 1) := by
  simp [leftCell]
@[simp] theorem rightCell_from_north : rightCell ((r - 1, c), (r, c)) = (r - 1, c - 1) := by
  simp [rightCell]; omega
@[simp] theorem leftCell_from_north : leftCell ((r - 1, c), (r, c)) = (r - 1, c) := by
  simp [leftCell]

end cells

/-- A directed edge with the region `M` on its right and its complement on its left. -/
structure IsBoundary (M : Point → Bool) (e : Edge) : Prop where
  isUnit : IsUnit e
  right : M (rightCell e) = true
  left : M (leftCell e) = false

theorem isUnit_to {u : Point} {r c : ℤ} (h : IsUnit (u, (r, c))) :
    u = (r, c - 1) ∨ u = (r, c + 1) ∨ u = (r - 1, c) ∨ u = (r + 1, c) := by
  obtain ⟨a, b⟩ := u
  simp only [IsUnit] at h
  simp only [Prod.mk.injEq]
  omega

theorem isUnit_from {w : Point} {r c : ℤ} (h : IsUnit ((r, c), w)) :
    w = (r, c + 1) ∨ w = (r, c - 1) ∨ w = (r + 1, c) ∨ w = (r - 1, c) := by
  obtain ⟨a, b⟩ := w
  simp only [IsUnit] at h
  simp only [Prod.mk.injEq]
  omega

/-! ## Loops -/

variable {M : Point → Bool}

/-- A closed polyline of boundary edges, none used twice. -/
structure IsLoop (M : Point → Bool) (w : List Point) : Prop where
  closed : Closed w
  nonempty : segments w ≠ []
  nodup : (segments w).Nodup
  boundary : ∀ e ∈ segments w, IsBoundary M e

theorem IsLoop.isUnit {w : List Point} (h : IsLoop M w) : ∀ e ∈ segments w, IsUnit e :=
  fun e he => (h.boundary e he).isUnit

/-- **A loop has at least four edges.** Its length is even, since each edge changes the parity of
the sum of the coordinates, and an edge and its reverse do not both have the region on their
right. -/
theorem IsLoop.four_le_length {w : List Point} (h : IsLoop M w) : 4 ≤ (segments w).length := by
  have hflip : ∀ e ∈ segments w,
      (decide (2 ∣ e.1.1 + e.1.2) != decide (2 ∣ e.2.1 + e.2.2)) = true := by
    rintro ⟨⟨a, b⟩, c, d⟩ he
    have hu := h.isUnit _ he
    simp only [IsUnit] at hu
    simp only [bne_iff_ne, ne_eq, decide_eq_decide]
    omega
  have heven := h.closed.even_countP_segments fun x => decide (2 ∣ x.1 + x.2)
  rw [List.countP_eq_length.2 hflip] at heven
  have hpos := List.length_pos_of_ne_nil h.nonempty
  have htwo : (segments w).length ≠ 2 := by
    intro hlen
    obtain ⟨e, e', heq⟩ := List.length_eq_two.1 hlen
    have he : IsBoundary M e := h.boundary e (by simp [heq])
    have he' : IsBoundary M e' := h.boundary e' (by simp [heq])
    have hback : e' = e.swap := by
      obtain ⟨p, q, rfl, rfl⟩ := h.closed.eq_of_segments_eq_pair heq
      rfl
    have hcell : rightCell e' = leftCell e := by
      obtain ⟨⟨a, b⟩, v⟩ := e
      subst hback
      rcases isUnit_from he.isUnit with rfl | rfl | rfl | rfl <;> simp
    have hright := he'.right
    rw [hcell, he.left] at hright
    cases hright
  obtain ⟨n, hn⟩ := heven
  omega

theorem IsLoop.count_eq_zero {w : List Point} (h : IsLoop M w) {e : Edge}
    (he : M (rightCell e) = true → M (leftCell e) = false → False) :
    (segments w).count e = 0 :=
  List.count_eq_zero.2 fun hm => he (h.boundary e hm).right (h.boundary e hm).left

/-- The winding numbers of a loop on the four cells around a vertex. -/
theorem IsLoop.winding_around {t : List Point} (h : IsLoop M t) (r c : ℤ) :
    let W := winding (segments t)
    let I : Edge → ℤ := fun e => (segments t).count e
    W (r - 1, c) - W (r - 1, c - 1) = I ((r, c), (r - 1, c)) - I ((r - 1, c), (r, c)) ∧
    W (r, c) - W (r, c - 1) = I ((r + 1, c), (r, c)) - I ((r, c), (r + 1, c)) ∧
    W (r, c - 1) - W (r - 1, c - 1) = I ((r, c - 1), (r, c)) - I ((r, c), (r, c - 1)) ∧
    W (r, c) - W (r - 1, c) = I ((r, c), (r, c + 1)) - I ((r, c + 1), (r, c)) := by
  refine ⟨?_, winding_sub_west _ r c, ?_, h.closed.winding_sub_north h.isUnit r c⟩
  · simpa using winding_sub_west (segments t) (r - 1) c
  · simpa using h.closed.winding_sub_north h.isUnit r (c - 1)

/-- A strand of one loop past a vertex keeps the winding number of every loop on its left.

The two left cells are equal after a left turn and are separated by no boundary edge when the path
goes straight. After a right turn they are separated by the far cell: either it is outside the region
too, or both of its edges at the vertex are boundary edges, and conservation at the vertex says that
`t` uses both or neither. -/
theorem IsLoop.winding_leftCell_turn {t : List Point} (ht : IsLoop M t) {u v w : Point}
    (huv : IsBoundary M (u, v)) (hvw : IsBoundary M (v, w))
    (hcount : (segments t).count (u, v) = (segments t).count (v, w)) :
    winding (segments t) (leftCell (u, v)) = winding (segments t) (leftCell (v, w)) := by
  obtain ⟨r, c⟩ := v
  have hN := ht.count_eq_zero (e := ((r - 1, c), (r, c)))
  have hN' := ht.count_eq_zero (e := ((r, c), (r - 1, c)))
  have hS := ht.count_eq_zero (e := ((r + 1, c), (r, c)))
  have hS' := ht.count_eq_zero (e := ((r, c), (r + 1, c)))
  have hW := ht.count_eq_zero (e := ((r, c - 1), (r, c)))
  have hW' := ht.count_eq_zero (e := ((r, c), (r, c - 1)))
  have hE := ht.count_eq_zero (e := ((r, c + 1), (r, c)))
  have hE' := ht.count_eq_zero (e := ((r, c), (r, c + 1)))
  obtain ⟨aN, aS, aW, aE⟩ := ht.winding_around r c
  obtain ⟨hu, hR, hL⟩ := huv
  obtain ⟨hw, hR', hL'⟩ := hvw
  rcases isUnit_to hu with rfl | rfl | rfl | rfl <;>
    rcases isUnit_from hw with rfl | rfl | rfl | rfl <;>
    simp only [rightCell_east, rightCell_west, rightCell_south, rightCell_north, leftCell_east,
      leftCell_west, leftCell_south, leftCell_north, rightCell_from_east, rightCell_from_west,
      rightCell_from_south, rightCell_from_north, leftCell_from_east, leftCell_from_west,
      leftCell_from_south, leftCell_from_north] at * <;>
    grind

/-! ## Along a loop -/

theorem eq_of_isChain {α β : Type*} {R : α → α → Prop} {l : List α} (hl : l.IsChain R) (g : α → β)
    (hg : ∀ a ∈ l, ∀ b ∈ l, R a b → g a = g b) : ∀ a ∈ l, ∀ b ∈ l, g a = g b := by
  -- Every element agrees with the head.
  suffices h : ∀ a ∈ l, l.head? = none ∨ ∃ x, l.head? = some x ∧ g a = g x by
    intro a ha b hb
    cases l with
    | nil => simp at ha
    | cons x l =>
      have ha' : g a = g x := by simpa using h a ha
      have hb' : g b = g x := by simpa using h b hb
      rw [ha', hb']
  induction l with
  | nil => simp
  | cons x l ih =>
    intro a ha
    refine Or.inr ⟨x, rfl, ?_⟩
    rcases List.mem_cons.1 ha with rfl | ha
    · rfl
    · cases l with
      | nil => simp at ha
      | cons y l =>
        obtain ⟨hxy, hl'⟩ := List.isChain_cons_cons.1 hl
        have hay : g a = g y := by
          simpa using ih hl' (fun a ha b hb => hg a (by simp [ha]) b (by simp [hb])) a ha
        rw [hay, hg x (by simp) y (by simp) hxy]

/-- **The winding number of `t` is constant along `w`**, when `t` uses all edges of `w` or none. -/
theorem IsLoop.winding_leftCell_eq {t w : List Point} (ht : IsLoop M t) (hw : IsLoop M w)
    (hsame : ∀ e ∈ segments w, ∀ e' ∈ segments w, e ∈ segments t → e' ∈ segments t) {e e' : Edge}
    (he : e ∈ segments w) (he' : e' ∈ segments w) :
    winding (segments t) (leftCell e) = winding (segments t) (leftCell e') := by
  refine eq_of_isChain (isChain_segments w) (fun e => winding (segments t) (leftCell e)) ?_ e he
    e' he'
  rintro ⟨u, v⟩ huv ⟨v', x⟩ hvx rfl
  refine ht.winding_leftCell_turn (hw.boundary _ huv) (hw.boundary _ hvx) ?_
  by_cases hm : (u, v) ∈ segments t
  · rw [List.count_eq_one_of_mem ht.nodup hm,
      List.count_eq_one_of_mem ht.nodup (hsame _ huv _ hvx hm)]
  · rw [List.count_eq_zero.2 hm, List.count_eq_zero.2 fun h => hm (hsame _ hvx _ huv h)]

/-- Crossing an edge from left to right gains one for each use of it. -/
theorem IsLoop.winding_rightCell {t : List Point} (ht : IsLoop M t) {e : Edge}
    (he : IsBoundary M e) : winding (segments t) (rightCell e) =
      winding (segments t) (leftCell e) + (segments t).count e := by
  obtain ⟨⟨r, c⟩, v⟩ := e
  obtain ⟨aN, aS, aW, aE⟩ := ht.winding_around r c
  obtain ⟨hu, hR, hL⟩ := he
  -- The reversed edge has the region on its left, so no loop uses it.
  have hN := ht.count_eq_zero (e := ((r - 1, c), (r, c)))
  have hS := ht.count_eq_zero (e := ((r + 1, c), (r, c)))
  have hW := ht.count_eq_zero (e := ((r, c - 1), (r, c)))
  have hE := ht.count_eq_zero (e := ((r, c + 1), (r, c)))
  rcases isUnit_from hu with rfl | rfl | rfl | rfl <;>
    simp only [rightCell_east, rightCell_west, rightCell_south, rightCell_north, leftCell_east,
      leftCell_west, leftCell_south, leftCell_north, rightCell_from_east, rightCell_from_west,
      rightCell_from_south, rightCell_from_north, leftCell_from_east, leftCell_from_west,
      leftCell_from_south, leftCell_from_north] at * <;>
    grind

/-- The cell `x` has an edge of `w` as a side. -/
def Adjacent (w : List Point) (x : Point) : Prop :=
  ∃ e ∈ segments w, leftCell e = x ∨ rightCell e = x

theorem winding_west {t : List Point} (r c : ℤ) :
    winding (segments t) (r, c) = winding (segments t) (r, c - 1) ∨ Adjacent t (r, c) := by
  by_cases hup : ((r + 1, c), (r, c)) ∈ segments t
  · exact Or.inr ⟨_, hup, Or.inr (by simp)⟩
  by_cases hdown : ((r, c), (r + 1, c)) ∈ segments t
  · exact Or.inr ⟨_, hdown, Or.inl (by simp)⟩
  have h := winding_sub_west (segments t) r c
  rw [List.count_eq_zero.2 hup, List.count_eq_zero.2 hdown] at h
  exact Or.inl (by omega)

/-- Induction from the far west. -/
theorem west_induction {P : ℤ → Prop} (base : ∀ c < 0, P c) (step : ∀ c, P (c - 1) → P c) :
    ∀ c, P c := by
  intro c
  by_cases hc : c < 0
  · exact base c hc
  · induction c, (by omega : (-1 : ℤ) ≤ c) using Int.leInduction with
    | base => exact base _ (by omega)
    | succ n hn ih =>
      refine step _ ?_
      rw [Int.add_sub_cancel]
      by_cases h : n < 0
      · exact base n h
      · exact ih h

end Lattice
