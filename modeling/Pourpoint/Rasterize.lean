import Pourpoint.Geometry
import Pourpoint.Grid
import Mathlib.Data.List.Sort

/-!
# The scanline rasterizer

All rings are put into one vertex list in pixel space, with a sentinel after each ring. On the line
through the cell centres of a row the crossings with the edges are sorted and the cells between the
first and the second, the third and the fourth, ... are filled.

On closed rings the number of crossings of a row is even, edges never join one ring to the next, and
a cell is filled exactly when an odd number of crossings is at or left of its centre
(`rasterizeMultiPolygon_spec`).
-/

namespace Pourpoint

open Lattice

/-! ## The rasterizer -/

/-- A vertex `(row, col)` in pixel space, or the `NaN` sentinel. -/
abbrev PixelVertex := Option (ℚ × ℚ)

/-- The vertices of a ring in pixel space. -/
def ringVertices (geo : GeoTransform) (ls : LineString) : List PixelVertex :=
  ls.map fun c => geo.coordToPixelF64 ⟨c.x, c.y⟩

/-- `collect_all_vertices`. -/
def collectAllVertices (multiPolygon : MultiPolygon) (geo : GeoTransform) : List PixelVertex :=
  multiPolygon.flatMap fun polygon =>
    ringVertices geo polygon.exterior ++ [none] ++
      polygon.interiors.flatMap fun hole => ringVertices geo hole ++ [none]

/-- Where an edge crosses the scanline. Edges that touch a sentinel are skipped. -/
def edgeIntersection (scanY : ℚ) : PixelVertex × PixelVertex → Option ℚ
  | (some (y0, x0), some (y1, x1)) =>
    let lo := if y0 ≤ y1 then y0 else y1
    let hi := if y0 ≤ y1 then y1 else y0
    if scanY ≤ lo ∨ hi < scanY then none
    else some (x0 + (scanY - y0) / (y1 - y0) * (x1 - x0))
  | _ => none

/-- The crossings of a row, in the order of the edges. -/
def rowIntersections (r : ℕ) (vertices : List PixelVertex) : List ℚ :=
  (segments vertices).filterMap (edgeIntersection (r + 1 / 2))

/-- `((x - 0.5).ceil().max(0.0) as usize).min(cols)`. -/
def columnBound (cols : ℕ) (x : ℚ) : ℕ := min (max 0 ⌈x - 1 / 2⌉).toNat cols

/-- Set the cells of a half-open column range. -/
def fillRange (colStart colEnd : ℕ) (rowCells : List Bool) : Exec (List Bool) :=
  if colStart ≤ colEnd ∧ colEnd ≤ rowCells.length then
    .ok (rowCells.mapIdx fun c cell => if colStart ≤ c ∧ c < colEnd then true else cell)
  else .error .outOfBounds

/-- Fill between the crossings, two at a time. A last single crossing is ignored. -/
def fillPairs (cols : ℕ) : List ℚ → List Bool → Exec (List Bool)
  | x0 :: x1 :: rest, rowCells => do
    let rowCells ← fillRange (columnBound cols x0) (columnBound cols x1) rowCells
    fillPairs cols rest rowCells
  | _, rowCells => .ok rowCells

/-- `fill_row_multi`. -/
def fillRowMulti (r cols : ℕ) (vertices : List PixelVertex) (rowCells : List Bool) :
    Exec (List Bool) :=
  fillPairs cols ((rowIntersections r vertices).insertionSort (· ≤ ·)) rowCells

/-- `rasterize_multi_polygon`. Rows are independent, so the parallel branch computes the same. -/
def rasterizeMultiPolygon (multiPolygon : MultiPolygon) (geo : GeoTransform) (dims : GridDims) :
    Exec (List Bool) :=
  let vertices := collectAllVertices multiPolygon geo
  if vertices.length < 2 then .ok (List.replicate (dims.rows * dims.cols) false)
  else if dims.cols = 0 then .error .zeroChunkSize
  else do
    let rows ← (List.range dims.rows).mapM fun r =>
      fillRowMulti r dims.cols vertices (List.replicate dims.cols false)
    return rows.flatten

/-! ## Filling a row -/

/-- A crossing at or left of the centre of column `c`. -/
def atOrLeft (c : ℕ) (x : ℚ) : Bool := decide (x ≤ c + 1 / 2)

theorem columnBound_le_iff {cols c : ℕ} (hc : c < cols) (x : ℚ) :
    columnBound cols x ≤ c ↔ atOrLeft c x = true := by
  unfold columnBound atOrLeft
  rw [decide_eq_true_eq, min_le_iff, Int.toNat_le, max_le_iff, Int.ceil_le, sub_le_iff_le_add]
  constructor
  · rintro (⟨-, h⟩ | h)
    · exact_mod_cast h
    · omega
  · intro h
    exact Or.inl ⟨by omega, by exact_mod_cast h⟩

theorem columnBound_mono (cols : ℕ) {x y : ℚ} (h : x ≤ y) : columnBound cols x ≤ columnBound cols y := by
  unfold columnBound
  have : ⌈x - 1 / 2⌉ ≤ ⌈y - 1 / 2⌉ := Int.ceil_mono (by linarith)
  omega

/-- **Filling between sorted crossings.** A cell ends up set when it was set, or when an odd number
of crossings is at or left of its centre. -/
theorem fillPairs_spec {cols : ℕ} (xs : List ℚ) (hsort : xs.Pairwise (· ≤ ·)) (heven : Even xs.length)
    (rowCells : List Bool) (hlen : rowCells.length = cols) :
    ∃ cells, fillPairs cols xs rowCells = .ok cells ∧ cells.length = cols ∧
      ∀ c < cols, cells.getD c false =
        (rowCells.getD c false || decide (xs.countP (atOrLeft c) % 2 = 1)) := by
  match xs with
  | [] => exact ⟨rowCells, rfl, hlen, fun c _ => by simp⟩
  | [_] => simp at heven
  | x0 :: x1 :: rest =>
    obtain ⟨h0, hsort'⟩ := List.pairwise_cons.1 hsort
    obtain ⟨h1, hrest⟩ := List.pairwise_cons.1 hsort'
    have h01 : x0 ≤ x1 := h0 x1 (by simp)
    have hfill : fillRange (columnBound cols x0) (columnBound cols x1) rowCells =
        .ok (rowCells.mapIdx fun c cell =>
          if columnBound cols x0 ≤ c ∧ c < columnBound cols x1 then true else cell) := by
      rw [fillRange, if_pos]
      exact ⟨columnBound_mono cols h01, by rw [hlen]; exact min_le_right _ _⟩
    have heven' : Even rest.length := by simpa [parity_simps] using heven
    obtain ⟨cells, hrun, hlen', hcells⟩ := fillPairs_spec rest hrest heven'
      (rowCells.mapIdx fun c cell =>
        if columnBound cols x0 ≤ c ∧ c < columnBound cols x1 then true else cell)
      (by simpa using hlen)
    refine ⟨cells, by simp only [fillPairs, hfill, ok_bind, hrun], hlen', fun c hc => ?_⟩
    have hget : (rowCells.mapIdx fun c cell =>
        if columnBound cols x0 ≤ c ∧ c < columnBound cols x1 then true else cell).getD c false =
          (rowCells.getD c false || (atOrLeft c x0 && !atOrLeft c x1)) := by
      have hc' : c < rowCells.length := by omega
      rw [List.getD_eq_getElem _ _ (by simpa using hc'), List.getD_eq_getElem _ _ hc',
        List.getElem_mapIdx]
      simp only [columnBound_le_iff hc, ← not_le, Bool.not_eq_true]
      cases atOrLeft c x0 <;> cases atOrLeft c x1 <;> simp
    rw [hcells c hc, hget, Bool.or_assoc]
    congr 1
    -- The centre is left of both crossings, between them, or right of both.
    have hleft : ∀ x y, x ≤ y → atOrLeft c y = true → atOrLeft c x = true := by
      intro x y hxy hy
      simp only [atOrLeft, decide_eq_true_eq] at *
      exact hxy.trans hy
    cases hx1 : atOrLeft c x1 with
    | true =>
      simp [hx1, hleft x0 x1 h01 hx1]
      omega
    | false =>
      have hzero : rest.countP (atOrLeft c) = 0 := by
        refine List.countP_eq_zero.2 fun x hx hx' => ?_
        rw [hleft x1 x (h1 x hx) hx'] at hx1
        cases hx1
      simp only [List.countP_cons, hzero, hx1]
      cases atOrLeft c x0 <;> simp
termination_by xs.length

/-! ## Crossings of a ring -/

/-- All rings of a multipolygon, in the order they are collected. -/
def polygonRings (multiPolygon : MultiPolygon) : List LineString :=
  multiPolygon.flatMap fun polygon => polygon.exterior :: polygon.interiors

@[simp] theorem edgeIntersection_none_left (scanY : ℚ) (v : PixelVertex) :
    edgeIntersection scanY (none, v) = none := rfl

@[simp] theorem edgeIntersection_none_right (scanY : ℚ) (v : PixelVertex) :
    edgeIntersection scanY (v, none) = none := by
  cases v <;> rfl

theorem isSome_edgeIntersection (scanY : ℚ) (u v : ℚ × ℚ) :
    (edgeIntersection scanY (some u, some v)).isSome =
      (decide (u.1 < scanY) != decide (v.1 < scanY)) := by
  obtain ⟨y0, x0⟩ := u
  obtain ⟨y1, x1⟩ := v
  by_cases h0 : y0 < scanY <;> by_cases h1 : y1 < scanY <;> by_cases h : y0 ≤ y1 <;>
    simp only [edgeIntersection, h, h0, h1, if_true, if_false] <;>
    split_ifs <;> simp <;> grind

/-- **Edges never join one ring to the next.** -/
theorem rowIntersections_append_none (r : ℕ) (a b : List PixelVertex) :
    rowIntersections r (a ++ [none] ++ b) = rowIntersections r a ++ rowIntersections r b := by
  have hnone : ∀ l : List PixelVertex,
      (segments (l ++ [none])).filterMap (edgeIntersection (r + 1 / 2)) = rowIntersections r l := by
    intro l
    rcases List.eq_nil_or_concat l with rfl | ⟨l, v, rfl⟩
    · rfl
    · rw [List.concat_eq_append, segments_append_pair, List.filterMap_append]
      simp [rowIntersections]
  have hcons : (segments (none :: b)).filterMap (edgeIntersection (r + 1 / 2)) =
      rowIntersections r b := by
    cases b with
    | nil => rfl
    | cons v b =>
      rw [segments_cons_cons, List.filterMap_cons_none (edgeIntersection_none_left _ _)]
      rfl
  rw [List.append_assoc, List.singleton_append, rowIntersections, segments_append_cons,
    List.filterMap_append, hnone, hcons]

theorem rowIntersections_collectAllVertices (r : ℕ) (multiPolygon : MultiPolygon)
    (geo : GeoTransform) : rowIntersections r (collectAllVertices multiPolygon geo) =
      (polygonRings multiPolygon).flatMap fun ls => rowIntersections r (ringVertices geo ls) := by
  have hrings : ∀ rings : List LineString,
      rowIntersections r (rings.flatMap fun ls => ringVertices geo ls ++ [none]) =
        rings.flatMap fun ls => rowIntersections r (ringVertices geo ls) := by
    intro rings
    induction rings with
    | nil => rfl
    | cons ls rings ih => simp only [List.flatMap_cons, rowIntersections_append_none, ih]
  have hflat : collectAllVertices multiPolygon geo =
      (polygonRings multiPolygon).flatMap fun ls => ringVertices geo ls ++ [none] := by
    rw [collectAllVertices, polygonRings, List.flatMap_assoc]
    simp
  rw [hflat, hrings]

/-- **A closed ring crosses every scanline an even number of times.** -/
theorem even_rowIntersections (r : ℕ) (geo : GeoTransform) {ls : LineString} (h : Closed ls) :
    Even (rowIntersections r (ringVertices geo ls)).length := by
  by_cases hgeo : geo.pixelWidth = 0 ∨ geo.pixelHeight = 0
  · have hnone : rowIntersections r (ringVertices geo ls) = [] := by
      refine List.filterMap_eq_nil_iff.2 fun e he => ?_
      rw [ringVertices, segments_map] at he
      obtain ⟨s, -, rfl⟩ := List.mem_map.1 he
      simp [GeoTransform.coordToPixelF64, hgeo, Prod.map]
    simp [hnone]
  · have hsome : ∀ c : Coord, geo.coordToPixelF64 ⟨c.x, c.y⟩ =
        some ((c.y - geo.originY) / geo.pixelHeight, (c.x - geo.originX) / geo.pixelWidth) :=
      fun c => if_neg hgeo
    have hcount := h.even_countP_segments
      fun c => decide ((c.y - geo.originY) / geo.pixelHeight < (r : ℚ) + 1 / 2)
    rw [rowIntersections, List.length_filterMap_eq_countP, ringVertices, segments_map,
      List.countP_map]
    simp only [Function.comp_def, Prod.map, hsome, isSome_edgeIntersection]
    exact hcount

theorem even_length_flatMap {α β : Type} {f : α → List β} (l : List α)
    (h : ∀ a ∈ l, Even (f a).length) : Even (l.flatMap f).length := by
  induction l with
  | nil => simp
  | cons a l ih =>
    rw [List.flatMap_cons, List.length_append]
    exact (h a (by simp)).add (ih fun a ha => h a (by simp [ha]))

/-! ## The whole grid -/

/-- Row-major reading of rows of equal length. -/
theorem getD_flatten {cols c : ℕ} (hc : c < cols) (rows : List (List Bool))
    (hlen : ∀ row ∈ rows, row.length = cols) (r : ℕ) :
    rows.flatten.getD (r * cols + c) false = (rows.getD r []).getD c false := by
  induction rows generalizing r with
  | nil => simp
  | cons row rows ih =>
    have hrow := hlen row (by simp)
    cases r with
    | zero =>
      have hlt : 0 * cols + c < row.length := by omega
      rw [List.flatten_cons, List.getD_append _ _ _ _ hlt]
      simp
    | succ r =>
      have hle : row.length ≤ (r + 1) * cols + c := by rw [hrow]; nlinarith
      have hsub : (r + 1) * cols + c - row.length = r * cols + c := by
        rw [hrow, Nat.add_mul, Nat.one_mul]
        omega
      rw [List.flatten_cons, List.getD_append_right _ _ _ _ hle, hsub,
        ih (fun row hrow => hlen row (by simp [hrow]))]
      simp

theorem length_flatten_eq {cols : ℕ} (rows : List (List Bool))
    (hlen : ∀ row ∈ rows, row.length = cols) : rows.flatten.length = rows.length * cols := by
  rw [List.length_flatten, List.map_congr_left hlen]
  simp

/-- A geo-transform without pixel coordinates sets no cell. -/
theorem rasterizeMultiPolygon_degenerate {multiPolygon : MultiPolygon} {geo : GeoTransform}
    {dims : GridDims} (hgeo : geo.pixelWidth = 0 ∨ geo.pixelHeight = 0) {mask : List Bool}
    (hrun : rasterizeMultiPolygon multiPolygon geo dims = .ok mask) : true ∉ mask := by
  have hnone : ∀ v ∈ collectAllVertices multiPolygon geo, v = none := by
    have hpix : ∀ c : NativeCoord, geo.coordToPixelF64 c = none := fun c => if_pos hgeo
    intro v hv
    simp only [collectAllVertices, ringVertices, hpix, List.mem_flatMap, List.mem_append,
      List.mem_map, List.mem_singleton] at hv
    grind
  have hnil : ∀ r, rowIntersections r (collectAllVertices multiPolygon geo) = [] := by
    refine fun r => List.filterMap_eq_nil_iff.2 fun e he => ?_
    obtain ⟨u, v⟩ := e
    rw [hnone u (left_mem_of_mem_segments he)]
    rfl
  have hrow : ∀ r ∈ List.range dims.rows, ∃ cells,
      fillRowMulti r dims.cols (collectAllVertices multiPolygon geo)
        (List.replicate dims.cols false) = .ok cells ∧ true ∉ cells := by
    intro r _
    refine ⟨List.replicate dims.cols false, ?_, by simp⟩
    rw [fillRowMulti, hnil]
    rfl
  obtain ⟨rows, hrows, hfalse⟩ := exists_mapM_eq_ok _ hrow
  simp only [rasterizeMultiPolygon] at hrun
  split_ifs at hrun
  · rw [← Except.ok.inj hrun]
    simp
  · rw [hrows, ok_bind] at hrun
    rw [← Except.ok.inj hrun, List.mem_flatten]
    rintro ⟨row, hmem, htrue⟩
    obtain ⟨i, hi, rfl⟩ := List.mem_iff_getElem.1 hmem
    exact hfalse.get (i := i) (by simpa [hfalse.length_eq] using hi) hi htrue

/-- **Scanline filling is the even-odd rule.** -/
theorem rasterizeMultiPolygon_spec {multiPolygon : MultiPolygon} (geo : GeoTransform)
    {dims : GridDims} (hcols : 0 < dims.cols) (hclosed : ∀ ls ∈ polygonRings multiPolygon, Closed ls) :
    ∃ mask, rasterizeMultiPolygon multiPolygon geo dims = .ok mask ∧
      mask.length = dims.rows * dims.cols ∧
      ∀ cell, dims.Mem cell → mask.getD (cell.index dims.cols) false =
        decide (((polygonRings multiPolygon).flatMap fun ls =>
          rowIntersections cell.row (ringVertices geo ls)).countP (atOrLeft cell.col) % 2 = 1) := by
  simp only [rasterizeMultiPolygon]
  split_ifs with hshort hzero
  · refine ⟨_, rfl, by simp, fun cell _ => ?_⟩
    have hnil : rowIntersections cell.row (collectAllVertices multiPolygon geo) = [] := by
      match collectAllVertices multiPolygon geo, hshort with
      | [], _ => rfl
      | [_], _ => rfl
    rw [← rowIntersections_collectAllVertices, hnil]
    simp
  · omega
  · have hrow : ∀ r ∈ List.range dims.rows, ∃ cells,
        fillRowMulti r dims.cols (collectAllVertices multiPolygon geo)
          (List.replicate dims.cols false) = .ok cells ∧ cells.length = dims.cols ∧
        ∀ c < dims.cols, cells.getD c false =
          decide (((polygonRings multiPolygon).flatMap fun ls =>
            rowIntersections r (ringVertices geo ls)).countP (atOrLeft c) % 2 = 1) := by
      intro r _
      have hperm := List.perm_insertionSort (· ≤ ·)
        (rowIntersections r (collectAllVertices multiPolygon geo))
      have heven : Even (rowIntersections r (collectAllVertices multiPolygon geo)).length := by
        rw [rowIntersections_collectAllVertices]
        exact even_length_flatMap _ fun ls hls => even_rowIntersections r geo (hclosed ls hls)
      have hsort := List.pairwise_insertionSort (· ≤ ·)
        (rowIntersections r (collectAllVertices multiPolygon geo))
      have hwidth : (List.replicate dims.cols false).length = dims.cols := List.length_replicate
      obtain ⟨cells, hrun, hlen, hcells⟩ :=
        fillPairs_spec _ hsort (by rwa [hperm.length_eq]) _ hwidth
      refine ⟨cells, hrun, hlen, fun c hc => ?_⟩
      rw [hcells c hc, hperm.countP_eq, rowIntersections_collectAllVertices]
      simp
    obtain ⟨rows, hrun, hrows⟩ := exists_mapM_eq_ok _ hrow
    have hlen : rows.length = dims.rows := by
      rw [← hrows.length_eq, List.length_range]
    have hget : ∀ r (hr : r < rows.length), rows[r].length = dims.cols ∧
        ∀ c < dims.cols, rows[r].getD c false =
          decide (((polygonRings multiPolygon).flatMap fun ls =>
            rowIntersections r (ringVertices geo ls)).countP (atOrLeft c) % 2 = 1) := by
      intro r hr
      simpa using hrows.get (i := r) (by simpa [hlen] using hr) hr
    have hwidth : ∀ row ∈ rows, row.length = dims.cols := by
      intro row hmem
      obtain ⟨r, hr, rfl⟩ := List.mem_iff_getElem.1 hmem
      exact (hget r hr).1
    refine ⟨rows.flatten, by rw [hrun]; rfl, by rw [length_flatten_eq rows hwidth, hlen], ?_⟩
    intro cell hcell
    have hr : cell.row < rows.length := by rw [hlen]; exact hcell.1
    rw [GridCoord.index, getD_flatten hcell.2 rows hwidth, List.getD_eq_getElem _ _ hr]
    exact (hget cell.row hr).2 cell.col hcell.2

end Pourpoint
