import Pourpoint.Coverage
import Pourpoint.Rasterize

/-!
# Vectorising and rasterising

Rasterising the polygons of a mask gives the mask back (`rasterize_polygonize`). The rasterizer
counts crossings with all rings at once, so it does not matter which exterior a hole belongs to, only
that no ring is lost: the crossings left of a cell centre add up to the winding numbers of the cell,
and those to the mask.
-/

namespace Pourpoint

open Lattice

/-! ## Crossings in pixel space -/

theorem coordToPixelF64_corner {geo : GeoTransform} (hgeo : geo.NorthUp) (v : Vertex) :
    geo.coordToPixelF64 ⟨(cornerCoord geo v).x, (cornerCoord geo v).y⟩ =
      some ((v.1 : ℚ), (v.2 : ℚ)) := by
  obtain ⟨hw, hh⟩ := hgeo
  have hw' : geo.pixelWidth ≠ 0 := ne_of_gt hw
  have hh' : geo.pixelHeight ≠ 0 := ne_of_lt hh
  simp [GeoTransform.coordToPixelF64, cornerCoord, hw', hh']

/-- A vertical edge crosses the scanline in its own column. -/
theorem edgeIntersection_vertical (scanY y0 y1 x : ℚ) :
    edgeIntersection scanY (some (y0, x), some (y1, x)) =
      if (decide (y0 < scanY) != decide (y1 < scanY)) = true then some x else none := by
  have hsome := isSome_edgeIntersection scanY (y0, x) (y1, x)
  have hval : ∀ z ∈ edgeIntersection scanY (some (y0, x), some (y1, x)), z = x := by
    intro z hz
    simp only [edgeIntersection, Option.mem_def] at hz
    split_ifs at hz <;> simpa using hz.symm
  cases h : edgeIntersection scanY (some (y0, x), some (y1, x)) with
  | none =>
    rw [h] at hsome
    rw [if_neg (by rw [← hsome]; simp)]
  | some z =>
    rw [h] at hsome
    rw [if_pos (by rw [← hsome]; rfl), hval z h]

/-- A unit edge crosses the scanline left of a cell centre exactly when it counts for the winding
number of the cell. -/
theorem edgeIntersection_corner {e : DirectedEdge} (he : Lattice.IsUnit (toEdge e)) (r c : ℕ) :
    ((edgeIntersection (r + 1 / 2)
      (some ((e.1.1 : ℚ), (e.1.2 : ℚ)), some ((e.2.1 : ℚ), (e.2.2 : ℚ)))).map (atOrLeft c)).getD
        false = (crossing r c (toEdge e) != 0) := by
  obtain ⟨⟨a, b⟩, a', b'⟩ := e
  have hcolumn : atOrLeft c b' = decide ((b' : ℤ) ≤ c) := by
    rw [atOrLeft, decide_eq_decide, natCast_le_add_half]
    omega
  have hrowline : ∀ n : ℕ, ((n : ℚ) < r + 1 / 2) = ((n : ℤ) ≤ r) := fun n => by
    rw [natCast_lt_add_half, Nat.cast_le]
  simp only [Lattice.IsUnit, toEdge, toPoint] at he
  rcases he with ⟨hrow, hcol⟩ | ⟨hcol, hrow⟩
  · obtain rfl : a' = a := by exact_mod_cast hrow
    have hsome := isSome_edgeIntersection (r + 1 / 2) ((a' : ℚ), (b : ℚ)) ((a' : ℚ), (b' : ℚ))
    rw [bne_self_eq_false, Option.isSome_eq_false_iff, Option.isNone_iff_eq_none] at hsome
    have : ¬(b : ℤ) = b' := by omega
    simp only [hsome]
    simp [crossing, toEdge, toPoint, this]
  · obtain rfl : b' = b := by exact_mod_cast hcol
    simp only [edgeIntersection_vertical, hrowline, crossing, toEdge, toPoint]
    by_cases h1 : (a : ℤ) ≤ r <;> by_cases h2 : (a' : ℤ) ≤ r <;>
      by_cases hb : (b' : ℤ) ≤ c <;> simp [h1, h2, hb, hcolumn] <;> omega

theorem crossing_swap (r c : ℤ) (e : Edge) :
    (crossing r c e.swap != 0) = (crossing r c e != 0) := by
  obtain ⟨⟨a, b⟩, a', b'⟩ := e
  simp only [crossing, Prod.swap]
  split_ifs <;> simp <;> omega

/-- The crossings of a ring left of a cell centre, in either direction of the ring. -/
theorem countP_rowIntersections {geo : GeoTransform} (hgeo : geo.NorthUp) {w : Ring}
    (hu : ∀ e ∈ segments (loop w), Lattice.IsUnit e) {ls : LineString}
    (hls : Traces geo w ls) (r c : ℕ) :
    (rowIntersections r (ringVertices geo ls)).countP (atOrLeft c) =
      (segments (loop w)).countP fun e => crossing r c e != 0 := by
  have hunit : ∀ e ∈ segments w, Lattice.IsUnit (toEdge e) := by
    intro e he
    refine hu _ ?_
    rw [loop, segments_map_toPoint]
    exact List.mem_map_of_mem he
  have hvert : ringVertices geo (toGeoCoords w geo) =
      w.map fun v => some ((v.1 : ℚ), (v.2 : ℚ)) := by
    rw [ringVertices, toGeoCoords, List.map_map]
    exact List.map_congr_left fun v _ => coordToPixelF64_corner hgeo v
  rw [loop, segments_map_toPoint, List.countP_map, rowIntersections, List.countP_filterMap]
  rcases hls with rfl | rfl
  · rw [hvert, segments_map, List.countP_map]
    refine List.countP_congr fun e he => ?_
    rw [← Bool.eq_iff_iff]
    exact edgeIntersection_corner (hunit e he) r c
  · have hrev : ringVertices geo (toGeoCoords w geo).reverse =
        (w.map fun v => some ((v.1 : ℚ), (v.2 : ℚ))).reverse := by
      rw [← hvert, ringVertices, ringVertices, List.map_reverse]
    rw [hrev, segments_reverse, segments_map, List.countP_map, List.countP_reverse, List.countP_map]
    refine List.countP_congr fun e he => ?_
    have hswap : Lattice.IsUnit (toEdge e.swap) := by
      have := hunit e he
      simp only [Lattice.IsUnit, toEdge, Prod.fst_swap, Prod.snd_swap] at this ⊢
      omega
    have := edgeIntersection_corner hswap r c
    rw [← Bool.eq_iff_iff, Function.comp_apply, Function.comp_apply, Function.comp_apply,
      ← crossing_swap]
    exact this

/-! ## No ring is lost -/

/-- Summing over the exteriors and the holes they own sums over all holes. -/
theorem sum_map_filter_owner {α β : Type} [DecidableEq β] (f : α → Option β) (n : α → ℕ) {ts : List β}
    (hn : ts.Nodup) (ws : List α) (howner : ∀ w ∈ ws, ∃ t ∈ ts, f w = some t) :
    (ts.map fun t => ((ws.filter fun w => decide (f w = some t)).map n).sum).sum =
      (ws.map n).sum := by
  induction ws with
  | nil => simp
  | cons w ws ih =>
    obtain ⟨t, ht, hw⟩ := howner w (by simp)
    have hsplit : ∀ s, (((w :: ws).filter fun w => decide (f w = some s)).map n).sum =
        (if s = t then n w else 0) + ((ws.filter fun w => decide (f w = some s)).map n).sum := by
      intro s
      by_cases hs : s = t
      · subst hs
        simp [hw]
      · have hs' : ¬t = s := fun h => hs h.symm
        simp [hw, hs, hs']
    have hone : (ts.map fun s => if s = t then n w else 0).sum = n w := by
      rw [← List.sum_toFinset _ hn, Finset.sum_ite_eq' ts.toFinset t fun _ => n w,
        if_pos (List.mem_toFinset.2 ht)]
    simp only [hsplit, List.sum_map_add, hone, List.map_cons, List.sum_cons,
      ih fun w hw => howner w (by simp [hw])]

section rings

variable {mask : CatchmentMask} {rings : List Ring} (h : MaskRings mask rings) (geo : GeoTransform)

include h

theorem MaskRings.closed_polygonRings :
    ∀ ls ∈ polygonRings ((rings.filter isExterior).map (ringPolygon rings geo)), Closed ls := by
  intro ls hls
  obtain ⟨poly, hpoly, hmem⟩ := List.mem_flatMap.1 hls
  obtain ⟨t, ht, rfl⟩ := List.mem_map.1 hpoly
  have ht' := (List.mem_filter.1 ht).1
  obtain ⟨ext, g, heq, hext, hholes⟩ := h.ringPolygon_eq geo ht'
  rw [heq] at hmem
  rcases List.mem_cons.1 hmem with rfl | hmem
  · exact hext.closed (h.closed t ht')
  · obtain ⟨w, hown, rfl⟩ := List.mem_map.1 hmem
    exact (hholes w hown).closed (h.closed w (List.mem_filter.1 (List.mem_filter.1 hown).1).1)

variable {geo} (hgeo : geo.NorthUp)

include hgeo

/-- **All crossings together are the crossings of the boundary.** -/
theorem MaskRings.countP_polygonRings (r c : ℕ) :
    ((polygonRings ((rings.filter isExterior).map (ringPolygon rings geo))).flatMap fun ls =>
      rowIntersections r (ringVertices geo ls)).countP (atOrLeft c) =
        ((rings.map loop).flatMap segments).countP fun e => crossing r c e != 0 := by
  -- The crossings of a single ring.
  let n : Ring → ℕ := fun w => (segments (loop w)).countP fun e => crossing r c e != 0
  have hring : ∀ w ∈ rings, ∀ ls, Traces geo w ls →
      (rowIntersections r (ringVertices geo ls)).countP (atOrLeft c) = n w := fun w hw ls hls =>
    countP_rowIntersections hgeo (h.isLoop hw).isUnit hls r c
  have hpoly : ∀ t ∈ rings.filter isExterior,
      (((ringPolygon rings geo t).exterior :: (ringPolygon rings geo t).interiors).flatMap fun ls =>
        rowIntersections r (ringVertices geo ls)).countP (atOrLeft c) =
          n t + ((ownedHoles rings t).map n).sum := by
    intro t ht
    have ht' := (List.mem_filter.1 ht).1
    obtain ⟨ext, g, heq, hext, hholes⟩ := h.ringPolygon_eq geo ht'
    rw [heq, List.flatMap_cons, List.countP_append, hring t ht' ext hext, List.countP_flatMap,
      List.map_map]
    congr 2
    refine List.map_congr_left fun w hown => ?_
    exact hring w (List.mem_filter.1 (List.mem_filter.1 hown).1).1 _ (hholes w hown)
  have howner : ∀ w ∈ rings.filter fun w => !isExterior w,
      ∃ t ∈ rings.filter isExterior, owner rings w = some t := by
    intro w hw
    obtain ⟨hw, hhole⟩ := List.mem_filter.1 hw
    obtain ⟨t, ho⟩ := h.exists_owner hw (by simpa using hhole)
    obtain ⟨ht, hext, -⟩ := owner_eq_some ho
    exact ⟨t, List.mem_filter.2 ⟨ht, hext⟩, ho⟩
  have hholes : ((rings.filter isExterior).map fun t => ((ownedHoles rings t).map n).sum).sum =
      ((rings.filter fun w => !isExterior w).map n).sum :=
    sum_map_filter_owner (owner rings) n (h.nodup.filter _) _ howner
  calc ((polygonRings ((rings.filter isExterior).map (ringPolygon rings geo))).flatMap fun ls =>
        rowIntersections r (ringVertices geo ls)).countP (atOrLeft c)
      = ((rings.filter isExterior).map fun t => n t + ((ownedHoles rings t).map n).sum).sum := by
        rw [polygonRings, List.flatMap_assoc, List.flatMap_map, List.countP_flatMap]
        exact congrArg List.sum (List.map_congr_left hpoly)
    _ = ((rings.filter isExterior).map n).sum +
          ((rings.filter fun w => !isExterior w).map n).sum := by
        rw [List.sum_map_add, hholes]
    _ = (rings.map n).sum := by
        rw [← List.sum_append, ← List.map_append]
        exact ((List.filter_append_perm isExterior rings).map n).sum_eq
    _ = ((rings.map loop).flatMap segments).countP fun e => crossing r c e != 0 := by
        rw [List.flatMap_map, List.countP_flatMap]
        rfl

end rings

/-- The polygons of a mask cover its cells and no others. -/
theorem rasterize_of_polygonize {contains : Polygon → Coord → Bool}
    (hc : ContainsIsStrictInterior contains) {mask : CatchmentMask} {geo : GeoTransform}
    (hgeo : geo.NorthUp) {polygons : MultiPolygon}
    (hpoly : polygonize contains mask geo = .ok (some polygons)) :
    rasterizeMultiPolygon polygons geo mask.dims = .ok mask.data := by
  obtain ⟨rings, hrun, h⟩ := exists_rings mask
  by_cases hnil : extractEdges mask = []
  · simp [polygonize, hnil] at hpoly
    cases hpoly
  · rw [h.polygonize_eq hgeo hc hrun hnil] at hpoly
    obtain rfl := Option.some.inj (Except.ok.inj hpoly)
    obtain ⟨e, he⟩ := List.exists_mem_of_ne_nil _ hnil
    have hregion := (mem_extractEdges mask _).1 (List.mem_map_of_mem he)
    obtain ⟨-, c, -, hlt, -⟩ := mask.exists_cell_of_region hregion.right
    have hcols : 0 < mask.dims.cols := (Nat.zero_le c).trans_lt hlt
    obtain ⟨data, hdata, hlen, hcells⟩ :=
      rasterizeMultiPolygon_spec geo hcols (h.closed_polygonRings geo)
    rw [hdata]
    refine congrArg Except.ok (CatchmentMask.eq_data hlen fun cell hcell => ?_)
    -- A cell's crossings have the parity of its winding number, which is one in the mask.
    have hparity := countP_crossing_mod_two ((rings.map loop).flatMap segments) (cell.row, cell.col)
    rw [winding_flatMap, h.isDecomposition.sum_winding mask.inQuadrant_region,
      mask.region_natCast hcell.1 hcell.2] at hparity
    rw [show mask.cols = mask.dims.cols from rfl, hcells cell hcell, h.countP_polygonRings hgeo]
    cases hin : mask.contains cell <;> simp [hin] at hparity ⊢ <;> omega

/-- **Round trip.** `polygonize` gives `None` exactly for an empty mask, and otherwise rasterising
its result gives the mask back, cell for cell. -/
theorem rasterize_polygonize {contains : Polygon → Coord → Bool}
    (hc : ContainsIsStrictInterior contains) (mask : CatchmentMask) {geo : GeoTransform}
    (hgeo : geo.NorthUp) :
    ∃ out, polygonize contains mask geo = .ok out ∧
      (out = none ↔ ∀ cell, mask.dims.Mem cell → mask.contains cell = false) ∧
      ∀ polygons, out = some polygons →
        rasterizeMultiPolygon polygons geo mask.dims = .ok mask.data := by
  obtain ⟨rings, hrun, h⟩ := exists_rings mask
  rw [← extractEdges_eq_nil_iff]
  by_cases hnil : extractEdges mask = []
  · refine ⟨none, ?_, by simp [hnil], by simp⟩
    simp [polygonize, hnil]
    rfl
  · have hpoly := h.polygonize_eq hgeo hc hrun hnil
    refine ⟨_, hpoly, by simp [hnil], fun polygons hpolygons => ?_⟩
    exact rasterize_of_polygonize hc hgeo (hpoly.trans (congrArg Except.ok hpolygons))

theorem rasterize_polygonize_donut :
    ∃ out, polygonize strictInterior donut ⟨0, 0, 1, -1⟩ = .ok out ∧
      (out = none ↔ ∀ cell, donut.dims.Mem cell → donut.contains cell = false) ∧
      ∀ polygons, out = some polygons →
        rasterizeMultiPolygon polygons ⟨0, 0, 1, -1⟩ donut.dims = .ok donut.data :=
  rasterize_polygonize containsIsStrictInterior_strictInterior donut (by decide)

end Pourpoint
