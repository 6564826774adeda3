import Pourpoint.Boundary

/-!
# Rings in native coordinates

For a north-up geo-transform the even-odd rule at the centre of a cell, or at a pixel corner, reads
the winding number of the ring in the lattice (`evenOdd_iff`). The sign of the area tells outer
rings from inner ones (`MaskRings.isExterior_iff`), and an exterior strictly contains the first
vertex of a hole exactly when the hole runs through its interior
(`MaskRings.strictInterior_start_iff`).
-/

namespace Pourpoint

open Lattice

/-! ## The even-odd rule on the lattice -/

/-- The ray from `p` to the left meets the pixel corners as the winding number of cell `x` does. -/
structure SeenFrom (geo : GeoTransform) (p : Coord) (x : Point) : Prop where
  row : ∀ n : ℕ, p.y < geo.originY + n * geo.pixelHeight ↔ (n : ℤ) ≤ x.1
  col : ∀ n : ℕ, geo.originX + n * geo.pixelWidth < p.x ↔ (n : ℤ) ≤ x.2

/-- The centre of a cell, as a coordinate. -/
def cellCentre (geo : GeoTransform) (cell : GridCoord) : Coord :=
  ⟨(geo.pixelToCoord cell).x, (geo.pixelToCoord cell).y⟩

theorem seenFrom_centre {geo : GeoTransform} (hgeo : geo.NorthUp) (cell : GridCoord) :
    SeenFrom geo (cellCentre geo cell) (cell.row, cell.col) := by
  obtain ⟨hw, hh⟩ := hgeo
  constructor
  · intro n
    simp only [cellCentre, GeoTransform.pixelToCoord, add_lt_add_iff_left]
    rw [mul_lt_mul_right_of_neg hh, natCast_lt_add_half]
    norm_cast
  · intro n
    simp only [cellCentre, GeoTransform.pixelToCoord, add_lt_add_iff_left]
    rw [mul_lt_mul_iff_left₀ hw, natCast_lt_add_half]
    norm_cast

theorem seenFrom_corner {geo : GeoTransform} (hgeo : geo.NorthUp) (v : Vertex) :
    SeenFrom geo (cornerCoord geo v) ((v.1 : ℤ) - 1, (v.2 : ℤ) - 1) := by
  obtain ⟨hw, hh⟩ := hgeo
  constructor
  · intro n
    simp only [cornerCoord, add_lt_add_iff_left]
    rw [mul_lt_mul_right_of_neg hh, Nat.cast_lt]
    omega
  · intro n
    simp only [cornerCoord, add_lt_add_iff_left]
    rw [mul_lt_mul_iff_left₀ hw, Nat.cast_lt]
    omega

/-- A unit edge is crossed by the ray exactly when it counts for the winding number. -/
theorem crossesLeft_corner {geo : GeoTransform} {p : Coord} {x : Point} (hp : SeenFrom geo p x)
    {e : DirectedEdge} (he : Lattice.IsUnit (toEdge e)) :
    crossesLeft p (cornerCoord geo e.1, cornerCoord geo e.2) =
      (crossing x.1 x.2 (toEdge e) != 0) := by
  obtain ⟨⟨a, b⟩, a', b'⟩ := e
  obtain ⟨i, j⟩ := x
  simp only [Lattice.IsUnit, toEdge, toPoint] at he
  rcases he with ⟨hrow, hcol⟩ | ⟨hcol, hrow⟩
  · obtain rfl : a' = a := by exact_mod_cast hrow
    have : ¬(b : ℤ) = b' := by omega
    rw [crossesLeft]
    simp only [cornerCoord, hp.row]
    simp [crossing, toEdge, toPoint, this]
  · obtain rfl : b' = b := by exact_mod_cast hcol
    have hx : xAt p.y (cornerCoord geo (a, b'), cornerCoord geo (a', b')) =
        geo.originX + b' * geo.pixelWidth := by
      simp [xAt, cornerCoord]
    rw [crossesLeft, hx]
    simp only [cornerCoord, hp.row, hp.col, crossing, toEdge, toPoint]
    by_cases hb : (b' : ℤ) ≤ j
    · by_cases h1 : (a : ℤ) ≤ i <;> by_cases h2 : (a' : ℤ) ≤ i <;> simp [h1, h2, hb] <;> omega
    · simp [hb]

/-- **The even-odd rule reads the parity of the winding number.** -/
theorem evenOdd_eq {geo : GeoTransform} {p : Coord} {x : Point} (hp : SeenFrom geo p x) {ring : Ring}
    (hu : ∀ e ∈ segments (loop ring), Lattice.IsUnit e) :
    (toGeoCoords ring geo).evenOdd p = decide (winding (segments (loop ring)) x % 2 = 1) := by
  have hcount : (segments (toGeoCoords ring geo)).countP (crossesLeft p) =
      (segments (loop ring)).countP fun e => crossing x.1 x.2 e != 0 := by
    rw [toGeoCoords, segments_map, List.countP_map, loop, segments_map_toPoint, List.countP_map]
    refine List.countP_congr fun e he => ?_
    have hunit : Lattice.IsUnit (toEdge e) := by
      refine hu _ ?_
      rw [loop, segments_map_toPoint]
      exact List.mem_map_of_mem he
    have := crossesLeft_corner hp hunit
    simp only [Function.comp_apply] at this ⊢
    rw [← this]
    rfl
  have hparity := countP_crossing_mod_two (segments (loop ring)) x
  rw [LineString.evenOdd, hcount, ← hparity]
  congr 1
  rw [eq_iff_iff]
  omega

/-! ## Exteriors and holes -/

theorem shoelaceArea_eq {w : Ring} (h : 3 ≤ w.length) :
    shoelaceArea w = (twiceArea (segments (loop w)) : ℚ) / 2 := by
  have hsum : ∀ es : List DirectedEdge,
      (es.map fun e => (e.1.2 : ℚ) * e.2.1 - (e.2.2 : ℚ) * e.1.1).sum =
        (twiceArea (es.map toEdge) : ℚ) := by
    intro es
    induction es with
    | nil => simp [twiceArea]
    | cons e es ih =>
      simp only [twiceArea, List.map_cons, List.sum_cons, Int.cast_add] at ih ⊢
      rw [ih]
      simp [toEdge, toPoint]
  rw [shoelaceArea, if_neg (by omega), loop, segments_map_toPoint, hsum]

theorem exists_box (w : Ring) :
    ∃ N : ℕ, ∀ v ∈ loop w, 0 ≤ v.1 ∧ v.1 < (N : ℤ) ∧ 0 ≤ v.2 ∧ v.2 < (N : ℤ) := by
  refine ⟨(w.map fun v => v.1 + v.2).sum + 1, fun v hv => ?_⟩
  obtain ⟨u, hu, rfl⟩ := List.mem_map.1 hv
  have : u.1 + u.2 ≤ (w.map fun v => v.1 + v.2).sum :=
    List.single_le_sum (by simp) _ (List.mem_map_of_mem hu)
  simp only [toPoint]
  omega

/-- The area of a ring is the sum of its winding numbers. -/
theorem shoelaceArea_eq_sum {w : Ring} (hc : Closed (loop w))
    (hu : ∀ e ∈ segments (loop w), Lattice.IsUnit e) (hlen : 3 ≤ w.length) {N : ℕ}
    (hN : ∀ v ∈ loop w, 0 ≤ v.1 ∧ v.1 < (N : ℤ) ∧ 0 ≤ v.2 ∧ v.2 < (N : ℤ)) :
    shoelaceArea w =
      ((∑ r ∈ Finset.range N, ∑ c ∈ Finset.range N, winding (segments (loop w)) (r, c) : ℤ) : ℚ) := by
  have harea := hc.twiceArea_eq hu N N fun v hv =>
    ⟨(hN v hv).1, (hN v hv).2.1.le, (hN v hv).2.2.1, (hN v hv).2.2.2.le⟩
  rw [shoelaceArea_eq hlen, harea]
  push_cast
  ring

section rings

variable {mask : CatchmentMask} {rings : List Ring} (h : MaskRings mask rings)

include h

/-- **The sign of the area is the direction of the ring.** -/
theorem MaskRings.isExterior_iff {w : Ring} (hw : w ∈ rings) :
    isExterior w = true ↔ Outer (loop w) := by
  have hloop := h.isLoop hw
  have hM := mask.inQuadrant_region
  obtain ⟨N, hN⟩ := exists_box w
  have hlen : (loop w).length = w.length := List.length_map _
  rw [isExterior, decide_eq_true_eq]
  constructor
  · intro hnonneg
    rcases h.outer_or_inner hw with ho | hi
    · exact ho
    -- An inner ring has no positive winding number, and its first cell has winding number `-1`.
    obtain ⟨r, c, l, hl, hmin⟩ := id hi
    have hfirst := Inner.winding_first hl hmin hloop
    have hthree : 3 ≤ w.length := by
      have hclosed := hloop.closed
      rw [hl, Closed] at hclosed
      rw [← hlen, hl]
      cases l with
      | nil => simp at hclosed
      | cons a l => simp
    have hbox := hN (r, c) (by simp [hl])
    obtain ⟨r, rfl⟩ := Int.eq_ofNat_of_zero_le hbox.1
    obtain ⟨c, rfl⟩ := Int.eq_ofNat_of_zero_le hbox.2.2.1
    have hle : ∀ i j : ℕ, winding (segments (loop w)) (i, j) ≤ 0 := by
      intro i j
      rcases hi.winding_eq hM hloop (i, j) with h0 | h0 <;> simp [h0]
    have hneg : ∑ r ∈ Finset.range N, ∑ c ∈ Finset.range N, winding (segments (loop w)) (r, c) < 0 := by
      refine Finset.sum_neg' (fun i _ => Finset.sum_nonpos fun j _ => hle i j) ⟨r, by simp; omega, ?_⟩
      refine Finset.sum_neg' (fun j _ => hle r j) ⟨c, by simp; omega, ?_⟩
      rw [hfirst]
      decide
    rw [shoelaceArea_eq_sum hloop.closed hloop.isUnit hthree hN] at hnonneg
    exact absurd hnonneg (not_le.2 (by exact_mod_cast hneg))
  · intro ho
    by_cases hthree : w.length < 3
    · rw [shoelaceArea, if_pos hthree]
    · rw [shoelaceArea_eq_sum hloop.closed hloop.isUnit (by omega) hN]
      have : 0 ≤ ∑ r ∈ Finset.range N, ∑ c ∈ Finset.range N, winding (segments (loop w)) (r, c) := by
        refine Finset.sum_nonneg fun i _ => Finset.sum_nonneg fun j _ => ?_
        rcases ho.winding_eq hM hloop (i, j) with h0 | h0 <;> simp [h0]
      exact_mod_cast this

theorem MaskRings.inner_of_not_isExterior {w : Ring} (hw : w ∈ rings) (hhole : isExterior w = false) :
    Inner (loop w) := by
  rcases h.outer_or_inner hw with ho | hi
  · rw [(h.isExterior_iff hw).2 ho] at hhole
    cases hhole
  · exact hi

/-- A winding number of a ring is `0`, or `1` for an exterior and `-1` for a hole. -/
theorem MaskRings.winding_eq {w : Ring} (hw : w ∈ rings) (x : Point) :
    winding (segments (loop w)) x = 0 ∨
      winding (segments (loop w)) x = if isExterior w then 1 else -1 := by
  have hM := mask.inQuadrant_region
  by_cases hext : isExterior w = true
  · rw [if_pos hext]
    exact ((h.isExterior_iff hw).1 hext).winding_eq hM (h.isLoop hw) x
  · rw [if_neg hext]
    exact (h.inner_of_not_isExterior hw (by simpa using hext)).winding_eq hM (h.isLoop hw) x

/-- **Inside a ring, under the even-odd rule, is winding number nonzero.** -/
theorem MaskRings.evenOdd_iff {w : Ring} (hw : w ∈ rings) {geo : GeoTransform} {p : Coord} {x : Point}
    (hp : SeenFrom geo p x) :
    (toGeoCoords w geo).evenOdd p = true ↔ winding (segments (loop w)) x ≠ 0 := by
  rw [evenOdd_eq hp (h.isLoop hw).isUnit, decide_eq_true_eq]
  rcases h.winding_eq hw x with h0 | h0
  · simp [h0]
  · rw [h0]
    split_ifs <;> simp

end rings

/-! ## The first vertex of a hole -/

/-- A pixel corner lies on a unit edge only as one of its ends. -/
theorem onSegment_corner {geo : GeoTransform} (hgeo : geo.NorthUp) {v : Vertex} {e : DirectedEdge}
    (he : Lattice.IsUnit (toEdge e))
    (hon : OnSegment (cornerCoord geo v) (cornerCoord geo e.1, cornerCoord geo e.2)) :
    v = e.1 ∨ v = e.2 := by
  obtain ⟨⟨a, b⟩, a', b'⟩ := e
  obtain ⟨r, c⟩ := v
  obtain ⟨hw, hh⟩ := hgeo
  obtain ⟨-, hx1, hx2, hy1, hy2⟩ := hon
  have hcol : ∀ m n : ℕ, geo.originX + m * geo.pixelWidth ≤ geo.originX + n * geo.pixelWidth ↔
      m ≤ n := fun m n => by rw [add_le_add_iff_left, mul_le_mul_iff_left₀ hw, Nat.cast_le]
  have hrow : ∀ m n : ℕ, geo.originY + m * geo.pixelHeight ≤ geo.originY + n * geo.pixelHeight ↔
      n ≤ m := fun m n => by rw [add_le_add_iff_left, mul_le_mul_right_of_neg hh, Nat.cast_le]
  simp only [cornerCoord, min_le_iff, le_max_iff, hcol, hrow] at hx1 hx2 hy1 hy2
  simp only [Lattice.IsUnit, toEdge, toPoint] at he
  simp only [Prod.mk.injEq]
  omega

section rings

variable {mask : CatchmentMask} {rings : List Ring} (h : MaskRings mask rings)

include h

/-- Another ring does not pass through the first vertex of a hole, so its winding number is the
same on all sides of it. -/
theorem MaskRings.other_at_corner {w t : Ring} (hw : w ∈ rings) (ht : t ∈ rings) (hne : w ≠ t)
    {r c : ℤ} {l : List Point} (hl : loop w = (r, c) :: (r + 1, c) :: l) :
    (r, c) ∉ loop t ∧
      winding (segments (loop t)) (r - 1, c - 1) = winding (segments (loop t)) (r, c) := by
  obtain ⟨hfalse, hW, hN, hNW⟩ := h.inner_corner hw hl
  have hloop := h.isLoop ht
  have hsouth : (segments (loop t)).count ((r, c), (r + 1, c)) = 0 := by
    refine List.count_eq_zero.2 fun hm => h.disjoint hw ht hne ?_ hm
    simp [hl]
  constructor
  · intro hmem
    obtain ⟨u, hu⟩ := hloop.closed.exists_segment_from hloop.nonempty hmem
    have hb := hloop.boundary _ hu
    have hR := hb.right
    have hL := hb.left
    rcases isUnit_from hb.isUnit with rfl | rfl | rfl | rfl
    · simp [hfalse] at hR
    · simp [hW] at hL
    · exact List.count_eq_zero.1 hsouth hu
    · simp [hNW] at hL
  · obtain ⟨-, aS, aW, -⟩ := hloop.winding_around r c
    have h1 := hloop.count_eq_zero (e := ((r + 1, c), (r, c))) (by simp [hfalse])
    have h2 := hloop.count_eq_zero (e := ((r, c - 1), (r, c))) (by simp [hNW])
    have h3 := hloop.count_eq_zero (e := ((r, c), (r, c - 1))) (by simp [hW])
    simp only [h1, hsouth] at aS
    simp only [h2, h3] at aW
    omega

/-- **The test of the owner search.** An exterior strictly contains the first vertex of a hole
exactly when the hole runs through its interior. -/
theorem MaskRings.strictInterior_start_iff {geo : GeoTransform} (hgeo : geo.NorthUp) {w t : Ring}
    (hw : w ∈ rings) (ht : t ∈ rings) (hhole : isExterior w = false) (hext : isExterior t = true)
    {start : Vertex} (hstart : start ∈ w.head?) :
    (Polygon.new (toGeoCoords t geo) []).StrictInterior (cornerCoord geo start) ↔
      Inside (loop w) (loop t) := by
  have hne : w ≠ t := by
    rintro rfl
    simp [hhole] at hext
  obtain ⟨r, c, l, hl, -⟩ := h.inner_of_not_isExterior hw hhole
  have hpt : toPoint start = (r, c) := by
    have : (loop w).head? = some (toPoint start) := by
      rw [loop, List.head?_map, Option.mem_def.1 hstart]
      rfl
    rw [hl] at this
    simpa using this.symm
  obtain ⟨hnot, hwind⟩ := h.other_at_corner hw ht hne hl
  have hseen := seenFrom_corner hgeo start
  obtain ⟨hr, hc⟩ := Prod.mk.inj hpt
  rw [hr, hc] at hseen
  have hclosed : Closed (toGeoCoords t geo) := (h.closed t ht).map _
  -- The cell below and right of the start lies along the hole.
  have hedge : ((r, c), (r + 1, c)) ∈ segments (loop w) := by simp [hl]
  have hadj : Adjacent (loop w) (r, c) := ⟨_, hedge, Or.inl (by simp)⟩
  have hinside : Inside (loop w) (loop t) ↔ winding (segments (loop t)) (r, c) ≠ 0 :=
    ⟨fun hin => hin.winding_of_adjacent (h.isLoop hw) (h.isLoop ht) (h.disjoint hw ht hne) hadj,
      inside_of_adjacent (h.isLoop hw) (h.isLoop ht) (h.disjoint hw ht hne) hadj⟩
  have hoff : ¬(toGeoCoords t geo).OnBoundary (cornerCoord geo start) := by
    rintro ⟨s, hs, hon⟩
    rw [toGeoCoords, segments_map] at hs
    obtain ⟨e, he, rfl⟩ := List.mem_map.1 hs
    have hunit : Lattice.IsUnit (toEdge e) := by
      refine (h.isLoop ht).isUnit _ ?_
      rw [loop, segments_map_toPoint]
      exact List.mem_map_of_mem he
    refine hnot ?_
    rw [← hpt]
    refine List.mem_map_of_mem ?_
    rcases onSegment_corner hgeo hunit hon with rfl | rfl
    · exact left_mem_of_mem_segments he
    · exact right_mem_of_mem_segments he
  rw [hinside, ← hwind, ← h.evenOdd_iff ht hseen]
  simp [Polygon.StrictInterior, Polygon.covers, Polygon.new, LineString.close_of_closed hclosed, hoff]

end rings

end Pourpoint
