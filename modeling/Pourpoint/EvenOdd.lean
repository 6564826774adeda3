import Pourpoint.Rasterize

/-!
# The even-odd rule

The mask of a multipolygon, said without the rasterizer: an edge of a ring counts for a cell when it
passes the line through the centres of the row at or left of the centre of the cell, and the cell is
filled when an odd number of edges counts (`rasterizeMultiPolygon_evenOdd`).
-/

namespace Pourpoint

open Lattice

/-- The edges of a ring in pixel space, each from `(row, col)` to `(row, col)`. -/
def ringEdges (geo : GeoTransform) (ring : LineString) : List ((ℚ × ℚ) × (ℚ × ℚ)) :=
  segments (ring.filterMap fun c => geo.coordToPixelF64 ⟨c.x, c.y⟩)

/-- The edge has the line in its row range, without the lower end and with the upper one. -/
def EdgeSpans (scanY : ℚ) (edge : (ℚ × ℚ) × (ℚ × ℚ)) : Prop :=
  min edge.1.1 edge.2.1 < scanY ∧ scanY ≤ max edge.1.1 edge.2.1

instance (scanY : ℚ) (edge : (ℚ × ℚ) × (ℚ × ℚ)) : Decidable (EdgeSpans scanY edge) :=
  inferInstanceAs (Decidable (_ ∧ _))

/-- The column at which the line through the ends of an edge has this row. -/
def crossingColumn (scanY : ℚ) (edge : (ℚ × ℚ) × (ℚ × ℚ)) : ℚ :=
  edge.1.2 + (scanY - edge.1.1) / (edge.2.1 - edge.1.1) * (edge.2.2 - edge.1.2)

/-- The edge counts for the cell. -/
def countsFor (cell : GridCoord) (edge : (ℚ × ℚ) × (ℚ × ℚ)) : Bool :=
  decide (EdgeSpans (cell.row + 1 / 2) edge ∧
    crossingColumn (cell.row + 1 / 2) edge ≤ cell.col + 1 / 2)

/-- The crossings of a ring with the line through the centres of a row. -/
def ringCrossings (r : ℕ) (geo : GeoTransform) (ring : LineString) : List ℚ :=
  ((ringEdges geo ring).filter fun edge => EdgeSpans (r + 1 / 2) edge).map (crossingColumn (r + 1 / 2))

theorem edgeIntersection_some (scanY : ℚ) (edge : (ℚ × ℚ) × (ℚ × ℚ)) :
    edgeIntersection scanY (some edge.1, some edge.2) =
      if EdgeSpans scanY edge then some (crossingColumn scanY edge) else none := by
  obtain ⟨⟨y0, x0⟩, y1, x1⟩ := edge
  have hspans : EdgeSpans scanY ((y0, x0), (y1, x1)) ↔
      ¬(scanY ≤ (if y0 ≤ y1 then y0 else y1) ∨ (if y0 ≤ y1 then y1 else y0) < scanY) := by
    rw [EdgeSpans, min_def, max_def, not_or, not_le, not_lt]
  simp only [edgeIntersection, crossingColumn]
  by_cases h : EdgeSpans scanY ((y0, x0), (y1, x1))
  · rw [if_pos h, if_neg (hspans.1 h)]
  · rw [if_neg h, if_pos (not_not.1 fun hnot => h (hspans.2 hnot))]

/-- The rasterizer finds the crossings of the edges of each ring. -/
theorem rowIntersections_ringVertices (r : ℕ) (geo : GeoTransform) (ring : LineString) :
    rowIntersections r (ringVertices geo ring) = ringCrossings r geo ring := by
  by_cases hgeo : geo.pixelWidth = 0 ∨ geo.pixelHeight = 0
  · have hnone : ∀ c : Coord, geo.coordToPixelF64 ⟨c.x, c.y⟩ = none := fun c => if_pos hgeo
    have hrow : rowIntersections r (ringVertices geo ring) = [] := by
      apply List.filterMap_eq_nil_iff.2
      intro e he
      rw [ringVertices, segments_map] at he
      obtain ⟨s, -, rfl⟩ := List.mem_map.1 he
      simp [hnone, Prod.map]
    have hedges : ringEdges geo ring = [] := by
      simp [ringEdges, hnone]
    rw [hrow, ringCrossings, hedges]
    rfl
  · have hsome : ∀ c : Coord, geo.coordToPixelF64 ⟨c.x, c.y⟩ =
        some ((c.y - geo.originY) / geo.pixelHeight, (c.x - geo.originX) / geo.pixelWidth) :=
      fun c => if_neg hgeo
    have hedge : ∀ edge : (ℚ × ℚ) × (ℚ × ℚ),
        edgeIntersection (r + 1 / 2) (Prod.map some some edge) =
          if EdgeSpans (r + 1 / 2) edge then some (crossingColumn (r + 1 / 2) edge) else none :=
      edgeIntersection_some _
    have hvertices : ringVertices geo ring =
        (ring.map fun c => ((c.y - geo.originY) / geo.pixelHeight,
          (c.x - geo.originX) / geo.pixelWidth)).map some := by
      rw [ringVertices, List.map_map]
      exact List.map_congr_left fun c _ => hsome c
    have hring : (ring.filterMap fun c => geo.coordToPixelF64 ⟨c.x, c.y⟩) =
        ring.map fun c => ((c.y - geo.originY) / geo.pixelHeight,
          (c.x - geo.originX) / geo.pixelWidth) := by
      simp only [hsome, List.filterMap_eq_map']
    rw [rowIntersections, ringCrossings, ringEdges, hring, hvertices, segments_map, List.filterMap_map]
    simp only [Function.comp_def, hedge]
    induction segments (ring.map fun c => ((c.y - geo.originY) / geo.pixelHeight,
      (c.x - geo.originX) / geo.pixelWidth)) with
    | nil => rfl
    | cons edge edges ih =>
      by_cases h : EdgeSpans (r + 1 / 2) edge
      · simp only [List.filterMap_cons, ih, List.filter_cons, decide_true, h]
        rfl
      · simp only [List.filterMap_cons, ih, List.filter_cons, decide_false, h]
        rfl

/-- The crossings at or left of a centre are those of the edges that count for the cell. -/
theorem countP_ringCrossings (cell : GridCoord) (geo : GeoTransform) (rings : List LineString) :
    (rings.flatMap fun ring => ringCrossings cell.row geo ring).countP (atOrLeft cell.col) =
      (rings.flatMap (ringEdges geo)).countP (countsFor cell) := by
  induction rings with
  | nil => rfl
  | cons ring rings ih =>
    rw [List.flatMap_cons, List.flatMap_cons, List.countP_append, List.countP_append, ih]
    congr 1
    rw [ringCrossings, List.countP_map, List.countP_filter]
    apply List.countP_congr
    intro edge _
    simp [countsFor, atOrLeft, and_comm]

/-- **Scanline filling is the even-odd rule on edges.** For closed rings and a grid with a
column, a cell is filled exactly when an odd number of ring edges counts for it. Every scanline has an
even number of crossings, and they are the crossings of the rings one by one. -/
theorem rasterizeMultiPolygon_evenOdd (multiPolygon : MultiPolygon) (geo : GeoTransform)
    (dims : GridDims) (hcols : 0 < dims.cols)
    (hclosed : ∀ ring ∈ polygonRings multiPolygon, Closed ring) :
    ∃ mask, rasterizeMultiPolygon multiPolygon geo dims = .ok mask ∧
      mask.length = dims.rows * dims.cols ∧
      (∀ cell, dims.Mem cell → (mask[cell.index dims.cols]? = some true ↔
        Odd (((polygonRings multiPolygon).flatMap (ringEdges geo)).countP (countsFor cell)))) ∧
      ∀ r, Even (rowIntersections r (collectAllVertices multiPolygon geo)).length ∧
        rowIntersections r (collectAllVertices multiPolygon geo) =
          (polygonRings multiPolygon).flatMap (ringCrossings r geo) := by
  obtain ⟨mask, hrun, hlength, hcells⟩ := rasterizeMultiPolygon_spec geo hcols hclosed
  refine ⟨mask, hrun, hlength, ?_, ?_⟩
  · intro cell hcell
    have hlt : cell.index dims.cols < mask.length := by
      rw [hlength]
      exact GridCoord.index_lt hcell
    have hcell := hcells cell hcell
    simp only [rowIntersections_ringVertices] at hcell
    rw [countP_ringCrossings, List.getD_eq_getElem _ _ hlt] at hcell
    rw [List.getElem?_eq_getElem hlt, Option.some.injEq, hcell, decide_eq_true_eq, Nat.odd_iff]
  · intro r
    have hrings := rowIntersections_collectAllVertices r multiPolygon geo
    refine ⟨?_, ?_⟩
    · rw [hrings]
      exact even_length_flatMap _ fun ring hring => even_rowIntersections r geo (hclosed ring hring)
    · rw [hrings]
      simp only [rowIntersections_ringVertices]

/-- A triangle over a grid of two by two unit cells. -/
def triangle : MultiPolygon := [⟨[⟨0, 0⟩, ⟨2, 0⟩, ⟨0, -2⟩, ⟨0, 0⟩], []⟩]

/-- Its long edge passes through two centres, and these are not filled. -/
theorem rasterizeMultiPolygon_evenOdd_triangle :
    ∃ mask, rasterizeMultiPolygon triangle ⟨0, 0, 1, -1⟩ ⟨2, 2⟩ = .ok mask ∧
      mask[0]? = some true ∧ mask[1]? ≠ some true := by
  obtain ⟨mask, hrun, -, hcells, -⟩ := rasterizeMultiPolygon_evenOdd triangle ⟨0, 0, 1, -1⟩ ⟨2, 2⟩
    (by decide) (by decide)
  refine ⟨mask, hrun, ?_, ?_⟩
  · exact (hcells ⟨0, 0⟩ (by decide)).2 (by decide +kernel)
  · intro h
    exact absurd ((hcells ⟨0, 1⟩ (by decide)).1 h) (by decide +kernel)

end Pourpoint
