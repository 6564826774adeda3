import Pourpoint.Lattice.Loop

/-!
# Nesting of boundary loops

The boundary edges of a bounded region are cut into loops (`IsDecomposition`). Each loop is listed
from its first vertex in row-major order. If it leaves that vertex to the east it winds once
around what it encloses (`Outer`); if it leaves to the south it encloses cells outside the region and
winds `-1` around them (`Inner`).

Two loops whose interiors meet are nested (`laminar`), nesting agrees with the row-major order of the
first vertices (`Inside.precedes`), and nested interiors are included in each other
(`Inside.winding_ne_zero`). The winding numbers of all loops add up to the region
(`IsDecomposition.sum_winding`).
-/

namespace Lattice

variable {M : Point → Bool}

/-! ## Bounded regions -/

/-- The region lies in the quadrant of nonnegative rows and columns. -/
def InQuadrant (M : Point → Bool) : Prop := ∀ x, M x = true → 0 ≤ x.1 ∧ 0 ≤ x.2

theorem IsBoundary.nonneg (hM : InQuadrant M) {e : Edge} (he : IsBoundary M e) :
    0 ≤ e.1.1 ∧ 0 ≤ e.1.2 ∧ 0 ≤ e.2.1 ∧ 0 ≤ e.2.2 := by
  obtain ⟨⟨r, c⟩, v⟩ := e
  have h := hM _ he.right
  rcases isUnit_from he.isUnit with rfl | rfl | rfl | rfl <;> simp at h ⊢ <;> omega

theorem IsLoop.winding_far_west (hM : InQuadrant M) {w : List Point} (hw : IsLoop M w) {r c : ℤ}
    (hc : c < 0) : winding (segments w) (r, c) = 0 := by
  by_contra h
  obtain ⟨e, he, -, hle, -⟩ := exists_edge_of_winding_ne_zero h
  have := (hw.boundary e he).nonneg hM
  omega

/-! ## First vertices -/

/-- `p` is at or before `q` in row-major order. -/
def Precedes (p q : Point) : Prop := p.1 < q.1 ∨ p.1 = q.1 ∧ p.2 ≤ q.2

theorem precedes_antisymm {p q : Point} (h : Precedes p q) (h' : Precedes q p) : p = q := by
  unfold Precedes at *
  exact Prod.ext (by omega) (by omega)

/-- The loop leaves its first vertex to the east. -/
def Outer (w : List Point) : Prop :=
  ∃ r c l, w = (r, c) :: (r, c + 1) :: l ∧ ∀ v ∈ w, Precedes (r, c) v

/-- The loop leaves its first vertex to the south. -/
def Inner (w : List Point) : Prop :=
  ∃ r c l, w = (r, c) :: (r + 1, c) :: l ∧ ∀ v ∈ w, Precedes (r, c) v

/-- A loop listed from its first vertex is outer or inner. -/
theorem IsLoop.outer_or_inner {w : List Point} (hw : IsLoop M w)
    (hmin : ∀ p ∈ w.head?, ∀ v ∈ w, Precedes p v) : Outer w ∨ Inner w := by
  match w, hw, hmin with
  | [], hw, _ => exact absurd rfl hw.nonempty
  | [_], hw, _ => exact absurd rfl hw.nonempty
  | (r, c) :: q :: l, hw, hmin =>
    have hle := hmin (r, c) rfl
    have hq := hle q (by simp)
    rcases isUnit_from (hw.isUnit ((r, c), q) (by simp)) with rfl | rfl | rfl | rfl
    · exact Or.inl ⟨r, c, l, rfl, hle⟩
    · simp [Precedes] at hq
    · exact Or.inr ⟨r, c, l, rfl, hle⟩
    · simp [Precedes] at hq
      omega

theorem winding_eq_zero_of_precedes {w : List Point} {r c i j : ℤ}
    (hmin : ∀ v ∈ w, Precedes (r, c) v) (h : i < r ∨ i = r ∧ j < c) :
    winding (segments w) (i, j) = 0 := by
  by_contra hne
  obtain ⟨e, he, hcol, hle, hrow⟩ := exists_edge_of_winding_ne_zero hne
  have h1 := hmin e.1 (left_mem_of_mem_segments he)
  have h2 := hmin e.2 (right_mem_of_mem_segments he)
  simp only [Precedes] at h1 h2
  omega

/-- The loop takes two values, those next to it, and is zero far away. -/
theorem IsLoop.winding_values (hM : InQuadrant M) {w : List Point} (hw : IsLoop M w) {e : Edge}
    (he : e ∈ segments w) {n : ℤ} (hn : winding (segments w) (leftCell e) = n) (x : Point) :
    winding (segments w) x = 0 ∨ winding (segments w) x = n ∨ winding (segments w) x = n + 1 := by
  have hleft : ∀ e' ∈ segments w, winding (segments w) (leftCell e') = n := fun e' he' =>
    (hw.winding_leftCell_eq hw (fun _ _ _ h _ => h) he' he).trans hn
  obtain ⟨r, c⟩ := x
  revert c
  refine west_induction (fun c hc => Or.inl (hw.winding_far_west hM hc)) fun c ih => ?_
  rcases winding_west (t := w) r c with h | ⟨e', he', h | h⟩
  · rw [h]
    exact ih
  · rw [← h]
    exact Or.inr (Or.inl (hleft e' he'))
  · rw [← h, hw.winding_rightCell (hw.boundary _ he'), hleft e' he',
      List.count_eq_one_of_mem hw.nodup he']
    exact Or.inr (Or.inr rfl)

/-- **An outer loop winds once around what it encloses.** -/
theorem Outer.winding_eq (hM : InQuadrant M) {w : List Point} (ho : Outer w) (hw : IsLoop M w)
    (x : Point) : winding (segments w) x = 0 ∨ winding (segments w) x = 1 := by
  obtain ⟨r, c, l, rfl, hmin⟩ := ho
  have hzero := winding_eq_zero_of_precedes (i := r - 1) (j := c) hmin (by omega)
  have := hw.winding_values hM (e := ((r, c), (r, c + 1))) (by simp) (n := 0)
    (by rw [leftCell_east, hzero]) x
  omega

/-- **An inner loop winds `-1` around what it encloses.** -/
theorem Inner.winding_eq (hM : InQuadrant M) {w : List Point} (hi : Inner w) (hw : IsLoop M w)
    (x : Point) : winding (segments w) x = 0 ∨ winding (segments w) x = -1 := by
  obtain ⟨r, c, l, rfl, hmin⟩ := hi
  have hzero := winding_eq_zero_of_precedes (i := r) (j := c - 1) hmin (by omega)
  have hmem : ((r, c), (r + 1, c)) ∈ segments ((r, c) :: (r + 1, c) :: l) := by simp
  have hr := hw.winding_rightCell (hw.boundary _ hmem)
  rw [rightCell_south, hzero, List.count_eq_one_of_mem hw.nodup hmem] at hr
  have := hw.winding_values hM hmem (n := -1) (by omega) x
  omega

theorem Inner.winding_first {w : List Point} {r c : ℤ} {l : List Point}
    (h : w = (r, c) :: (r + 1, c) :: l) (hmin : ∀ v ∈ w, Precedes (r, c) v) (hw : IsLoop M w) :
    winding (segments w) (r, c) = -1 := by
  subst h
  have hmem : ((r, c), (r + 1, c)) ∈ segments ((r, c) :: (r + 1, c) :: l) := by simp
  have hzero := winding_eq_zero_of_precedes (i := r) (j := c - 1) hmin (by omega)
  have hr := hw.winding_rightCell (hw.boundary _ hmem)
  rw [rightCell_south, leftCell_south, hzero, List.count_eq_one_of_mem hw.nodup hmem] at hr
  omega

/-! ## Two loops -/

/-- The loop `w` runs through the interior of `t`. -/
def Inside (w t : List Point) : Prop :=
  ∃ e ∈ segments w, winding (segments t) (leftCell e) ≠ 0

section two

variable {w t : List Point} (hw : IsLoop M w) (ht : IsLoop M t)
  (hd : (segments w).Disjoint (segments t))

include hw ht hd

theorem winding_eq_of_adjacent {e : Edge} (he : e ∈ segments w) {x : Point} (hx : Adjacent w x) :
    winding (segments t) x = winding (segments t) (leftCell e) := by
  have hsame : ∀ e ∈ segments w, ∀ e' ∈ segments w, e ∈ segments t → e' ∈ segments t :=
    fun e he _ _ h => (hd he h).elim
  obtain ⟨e', he', rfl | rfl⟩ := hx
  · exact ht.winding_leftCell_eq hw hsame he' he
  · rw [ht.winding_rightCell (hw.boundary _ he'), List.count_eq_zero.2 fun h => hd he' h,
      ht.winding_leftCell_eq hw hsame he' he]
    simp

theorem inside_of_adjacent {x : Point} (hx : Adjacent w x) (h : winding (segments t) x ≠ 0) :
    Inside w t := by
  obtain ⟨e, he, -⟩ := id hx
  exact ⟨e, he, by rwa [← winding_eq_of_adjacent hw ht hd he hx]⟩

theorem Inside.winding_of_adjacent (hin : Inside w t) {x : Point} (hx : Adjacent w x) :
    winding (segments t) x ≠ 0 := by
  obtain ⟨e, he, h⟩ := hin
  rwa [winding_eq_of_adjacent hw ht hd he hx]

/-- **Loops whose interiors meet are nested.** -/
theorem laminar (hM : InQuadrant M) {x : Point} (hwx : winding (segments w) x ≠ 0)
    (htx : winding (segments t) x ≠ 0) : Inside w t ∨ Inside t w := by
  obtain ⟨r, c⟩ := x
  revert c
  refine west_induction (fun c hc hwx => absurd (hw.winding_far_west hM hc) hwx) ?_
  intro c ih hwx htx
  rcases winding_west (t := w) r c with h | h
  · rcases winding_west (t := t) r c with h' | h'
    · exact ih (by rwa [← h]) (by rwa [← h'])
    · exact Or.inr (inside_of_adjacent ht hw hd.symm h' hwx)
  · exact Or.inl (inside_of_adjacent hw ht hd h htx)

/-- **Nested interiors are included in each other.** -/
theorem Inside.winding_ne_zero (hM : InQuadrant M) (hin : Inside w t) (hnot : ¬Inside t w)
    {x : Point} (hx : winding (segments w) x ≠ 0) : winding (segments t) x ≠ 0 := by
  obtain ⟨r, c⟩ := x
  revert c
  refine west_induction (fun c hc hx => absurd (hw.winding_far_west hM hc) hx) ?_
  intro c ih hx
  rcases winding_west (t := w) r c with h | h
  · rcases winding_west (t := t) r c with h' | h'
    · rw [h']
      exact ih (by rwa [← h])
    · exact absurd (inside_of_adjacent ht hw hd.symm h' hx) hnot
  · exact hin.winding_of_adjacent hw ht hd h

/-- **Nesting follows the row-major order.** The first vertex of the enclosing loop comes strictly
before that of the enclosed one. -/
theorem Inside.precedes {p q : Point} (hp : p ∈ w.head?) (hwmin : ∀ v ∈ w, Precedes p v)
    (htmin : ∀ v ∈ t, Precedes q v) (hin : Inside w t) :
    Precedes q p ∧ q ≠ p := by
  -- The cell just outside the first edge of `w` is inside `t`, so `t` has a vertex before `p`.
  suffices h : ∃ r' c', (r' < p.1 ∨ r' = p.1 ∧ c' < p.2) ∧ winding (segments t) (r', c') ≠ 0 by
    obtain ⟨r', c', hlt, hne⟩ := h
    have : ¬(r' < q.1 ∨ r' = q.1 ∧ c' < q.2) := fun h =>
      hne (winding_eq_zero_of_precedes (r := q.1) (c := q.2) htmin h)
    refine ⟨by unfold Precedes; omega, ?_⟩
    rintro rfl
    omega
  have hmin : ∀ p ∈ w.head?, ∀ v ∈ w, Precedes p v := by
    intro p' hp' v hv
    obtain rfl : p' = p := by simp_all
    exact hwmin v hv
  rcases hw.outer_or_inner hmin with ⟨r, c, l, rfl, -⟩ | ⟨r, c, l, rfl, -⟩
  · obtain rfl : (r, c) = p := by simpa using hp
    exact ⟨r - 1, c, by simp, hin.winding_of_adjacent hw ht hd
      ⟨((r, c), (r, c + 1)), by simp, Or.inl (by simp)⟩⟩
  · obtain rfl : (r, c) = p := by simpa using hp
    exact ⟨r, c - 1, by simp, hin.winding_of_adjacent hw ht hd
      ⟨((r, c), (r + 1, c)), by simp, Or.inr (by simp)⟩⟩

end two

/-! ## Decompositions -/

/-- The boundary of a region cut into closed polylines, each boundary edge used exactly once. -/
structure IsDecomposition (M : Point → Bool) (ws : List (List Point)) : Prop where
  closed : ∀ w ∈ ws, Closed w
  nonempty : ∀ w ∈ ws, segments w ≠ []
  nodup : (ws.flatMap segments).Nodup
  mem_iff : ∀ e, e ∈ ws.flatMap segments ↔ IsBoundary M e

theorem IsDecomposition.isLoop {ws : List (List Point)} (h : IsDecomposition M ws) {w : List Point}
    (hw : w ∈ ws) : IsLoop M w where
  closed := h.closed w hw
  nonempty := h.nonempty w hw
  nodup := (List.nodup_flatMap.1 h.nodup).1 w hw
  boundary := fun e he => (h.mem_iff e).1 (List.mem_flatMap.2 ⟨w, hw, he⟩)

theorem IsDecomposition.disjoint {ws : List (List Point)} (h : IsDecomposition M ws)
    {w t : List Point} (hw : w ∈ ws) (ht : t ∈ ws) (hne : w ≠ t) :
    (segments w).Disjoint (segments t) := by
  have : Std.Symm (Function.onFun List.Disjoint segments : List Point → List Point → Prop) :=
    ⟨fun _ _ h => List.Disjoint.symm h⟩
  exact (List.nodup_flatMap.1 h.nodup).2.forall hw ht hne

theorem count_eq_ite {es : List Edge} (hn : es.Nodup) (hm : ∀ e, e ∈ es ↔ IsBoundary M e) (e : Edge)
    (a b : Bool) (ha : IsUnit e) (hr : M (rightCell e) = a) (hl : M (leftCell e) = b) :
    es.count e = if a = true ∧ b = false then 1 else 0 := by
  split_ifs with h
  · exact List.count_eq_one_of_mem hn ((hm e).2 ⟨ha, by rw [hr, h.1], by rw [hl, h.2]⟩)
  · exact List.count_eq_zero.2 fun he =>
      h ⟨by rw [← hr, ((hm e).1 he).right], by rw [← hl, ((hm e).1 he).left]⟩

/-- **The loops of a region add up to it.** -/
theorem IsDecomposition.sum_winding (hM : InQuadrant M) {ws : List (List Point)}
    (h : IsDecomposition M ws) (x : Point) :
    (ws.map fun w => winding (segments w) x).sum = if M x then 1 else 0 := by
  rw [← winding_flatMap ws segments]
  obtain ⟨r, c⟩ := x
  revert c
  refine west_induction (fun c hc => ?_) fun c ih => ?_
  · have hfalse : M (r, c) = false := by
      by_contra hne
      have := hM (r, c) (by simpa using hne)
      omega
    rw [winding_flatMap, hfalse]
    exact List.sum_eq_zero (by
      intro n hn
      obtain ⟨w, hw, rfl⟩ := List.mem_map.1 hn
      exact (h.isLoop hw).winding_far_west hM hc)
  · have hjump := winding_sub_west (ws.flatMap segments) r c
    have hup := count_eq_ite h.nodup h.mem_iff ((r + 1, c), (r, c)) _ _ (by simp [IsUnit]) rfl rfl
    have hdown := count_eq_ite h.nodup h.mem_iff ((r, c), (r + 1, c)) _ _ (by simp [IsUnit]) rfl rfl
    rw [rightCell_from_south, leftCell_from_south] at hup
    rw [rightCell_south, leftCell_south] at hdown
    rw [hup, hdown, ih] at hjump
    cases hx : M (r, c) <;> cases hy : M (r, c - 1) <;> simp_all; omega

end Lattice
