import Pourpoint.FloatCast
import Pourpoint.FlowDirection
import Pourpoint.Library.MinBy
import Mathlib.Data.Prod.Lex

/-!
# Snapping to a raster seed

`snap_pour_point` collects the cells of the masked accumulation tile that reach the effective
threshold and picks the nearest to the reference point; ties go to the higher accumulation, then to
the lower row and column. The choice is the least `seedKey` over the candidate cells
(`snapPourPoint_spec`). Distances are exact; accumulations are `f32` values and are compared by
`total_cmp`.
-/

namespace Pourpoint

open Library

/-! ## Accumulation tiles -/

/-- Typed wrapper around upstream counts or areas; masked cells are `NaN`. -/
structure AccumulationTile (state : TileState) where
  inner : RasterTile F32

namespace AccumulationTile

variable {state : TileState}

def dims (tile : AccumulationTile state) : GridDims := tile.inner.dims

def geo (tile : AccumulationTile state) : GeoTransform := tile.inner.geo

def getRaw (tile : AccumulationTile state) (cell : GridCoord) : F32 := tile.inner.get cell

/-- `apply_mask`: cells outside the mask become `NaN`. -/
def applyMask (tile : AccumulationTile .raw) (mask : CatchmentMask) :
    Except RasterTileError (AccumulationTile .masked) :=
  if hdims : mask.dims = tile.dims then .ok ⟨tile.inner.overwrite .nan mask hdims⟩
  else .error (tile.inner.maskMismatch mask)

end AccumulationTile

/-! ## Thresholds -/

/-- `hfx::FlowAccumulationUnits`. -/
inductive FlowAccumulationUnits where
  | cells | km2
  deriving DecidableEq, Repr

/-- Minimum upstream-pixel count, a `u32`. -/
@[ext]
structure SnapThreshold where
  pixels : ℕ
  pixels_lt : pixels < 2 ^ 32
  deriving Repr

instance : DecidableEq SnapThreshold := fun _ _ => decidable_of_iff _ SnapThreshold.ext_iff.symm

/-- The threshold as it is compared. -/
def SnapThreshold.asF32 (threshold : SnapThreshold) : F32 := .ofNonneg threshold.pixels

/-- The area of a pixel, in double precision. -/
def GeoTransform.pixelArea (geo : GeoTransform) : F64 :=
  ((F64.finite geo.pixelWidth).mul (.finite geo.pixelHeight)).abs

/-- The threshold in the declared accumulation units. -/
def effectiveThreshold (threshold : SnapThreshold) (units : FlowAccumulationUnits)
    (geo : GeoTransform) : F32 :=
  match units with
  | .cells => threshold.asF32
  | .km2 => (((F64.finite threshold.pixels).mul geo.pixelArea).div (.finite 1000000)).toF32

/-! ## Candidates and ranking -/

inductive SnapError where
  | noCellAboveThreshold (threshold : F32) (units : FlowAccumulationUnits) (epsg : ℕ)
      (outletX outletY : ℚ)
  | nonFiniteReference (epsg : ℕ) (outletX outletY : ℚ)
  deriving DecidableEq, Repr

/-- Raster seed cell with its native centre and accumulation. -/
structure SnappedPoint where
  cell : GridCoord
  coord : NativeCoord
  accumulation : F32
  deriving DecidableEq, Repr

/-- A threshold-qualified raster seed candidate. -/
structure RasterSeedCandidate where
  cell : GridCoord
  distanceSquared : ℚ
  accumulation : F32
  deriving DecidableEq, Repr

/-- Squared distance of a cell centre from a point in fractional pixel space. -/
def centreDistanceSquared (frac : ℚ × ℚ) (cell : GridCoord) : ℚ :=
  let dr := cell.row + 1 / 2 - frac.1
  let dc := cell.col + 1 / 2 - frac.2
  dr * dr + dc * dc

/-- One cell of the loop of `raster_seed_candidates`. -/
def seedCandidate (frac : ℚ × ℚ) (accumulation : AccumulationTile .masked) (threshold : F32)
    (cell : GridCoord) : Option RasterSeedCandidate :=
  let value := accumulation.getRaw cell
  if !value.isFinite || value.lt threshold then none
  else some ⟨cell, centreDistanceSquared frac cell, value⟩

/-- `raster_seed_candidates`. -/
def rasterSeedCandidates (frac : ℚ × ℚ) (accumulation : AccumulationTile .masked) (threshold : F32) :
    List RasterSeedCandidate :=
  (List.range accumulation.dims.rows).flatMap fun row =>
    (List.range accumulation.dims.cols).filterMap fun col =>
      seedCandidate frac accumulation threshold ⟨row, col⟩

/-- The order of `NearestAccumulationRasterSeedRanker`. -/
def rankCmp (a b : RasterSeedCandidate) : Ordering :=
  (compare a.distanceSquared b.distanceSquared).then <|
    (b.accumulation.totalCmp a.accumulation).then <|
      (compare a.cell.row b.cell.row).then (compare a.cell.col b.cell.col)

/-- `NearestAccumulationRasterSeedRanker::rank`. -/
def rank (candidates : List RasterSeedCandidate) : Option RasterSeedCandidate :=
  minBy rankCmp candidates

/-- `snap_pour_point`. -/
def snapPourPoint (outlet : NativeCoord) (accumulation : AccumulationTile .masked)
    (threshold : SnapThreshold) (units : FlowAccumulationUnits) (epsg : ℕ) :
    Except SnapError SnappedPoint :=
  match accumulation.geo.coordToPixelF64 outlet with
  | none => .error (.nonFiniteReference epsg outlet.x outlet.y)
  | some frac =>
    let thresholdF32 := effectiveThreshold threshold units accumulation.geo
    match rank (rasterSeedCandidates frac accumulation thresholdF32) with
    | none => .error (.noCellAboveThreshold thresholdF32 units epsg outlet.x outlet.y)
    | some candidate =>
      .ok ⟨candidate.cell, accumulation.geo.pixelToCoord candidate.cell, candidate.accumulation⟩

/-! ## The selected cell -/

/-- The ranking key: squared distance, negated accumulation, row, column. -/
def seedKey (frac : ℚ × ℚ) (accumulation : F32) (cell : GridCoord) : ℚ ×ₗ ℤ ×ₗ ℕ ×ₗ ℕ :=
  toLex (centreDistanceSquared frac cell, toLex (-accumulation.totalKey, toLex (cell.row, cell.col)))

/-- The key of a candidate. -/
def RasterSeedCandidate.key (c : RasterSeedCandidate) : ℚ ×ₗ ℤ ×ₗ ℕ ×ₗ ℕ :=
  toLex (c.distanceSquared, toLex (-c.accumulation.totalKey, toLex (c.cell.row, c.cell.col)))

/-- The comparison is lexicographic. -/
theorem rankCmp_eq_gt_iff (a b : RasterSeedCandidate) : rankCmp a b = .gt ↔ b.key < a.key := by
  simp only [rankCmp, F32.totalCmp, Ordering.then_eq_gt, compare_gt_iff_gt, compare_eq_iff_eq,
    RasterSeedCandidate.key, Prod.Lex.toLex_lt_toLex, neg_lt_neg_iff, neg_inj]
  constructor
  · rintro (h | ⟨h, h' | ⟨h', h'' | ⟨h'', h'''⟩⟩⟩)
    · exact Or.inl h
    · exact Or.inr ⟨h.symm, Or.inl h'⟩
    · exact Or.inr ⟨h.symm, Or.inr ⟨h', Or.inl h''⟩⟩
    · exact Or.inr ⟨h.symm, Or.inr ⟨h', Or.inr ⟨h''.symm, h'''⟩⟩⟩
  · rintro (h | ⟨h, h' | ⟨h', h'' | ⟨h'', h'''⟩⟩⟩)
    · exact Or.inl h
    · exact Or.inr ⟨h.symm, Or.inl h'⟩
    · exact Or.inr ⟨h.symm, Or.inr ⟨h', Or.inl h''⟩⟩
    · exact Or.inr ⟨h.symm, Or.inr ⟨h', Or.inr ⟨h''.symm, h'''⟩⟩⟩

/-- The cell reaches the threshold with a finite accumulation. -/
def ReachesThreshold (value threshold : F32) : Prop :=
  value.isFinite = true ∧ value.lt threshold = false

instance (value threshold : F32) : Decidable (ReachesThreshold value threshold) :=
  inferInstanceAs (Decidable (_ ∧ _))

theorem mem_rasterSeedCandidates {frac : ℚ × ℚ} {accumulation : AccumulationTile .masked}
    {threshold : F32} {c : RasterSeedCandidate} :
    c ∈ rasterSeedCandidates frac accumulation threshold ↔
      accumulation.dims.Mem c.cell ∧
        ReachesThreshold (accumulation.getRaw c.cell) threshold ∧
          c = ⟨c.cell, centreDistanceSquared frac c.cell, accumulation.getRaw c.cell⟩ := by
  have hone : ∀ cell, seedCandidate frac accumulation threshold cell = some c ↔
      ReachesThreshold (accumulation.getRaw cell) threshold ∧
        c = ⟨cell, centreDistanceSquared frac cell, accumulation.getRaw cell⟩ := by
    intro cell
    simp only [seedCandidate, ReachesThreshold]
    cases accumulation.getRaw cell |>.isFinite <;>
      cases (accumulation.getRaw cell).lt threshold <;> simp [eq_comm]
  simp only [rasterSeedCandidates, List.mem_flatMap, List.mem_filterMap, List.mem_range, hone]
  constructor
  · rintro ⟨row, hrow, col, hcol, hreach, rfl⟩
    exact ⟨⟨hrow, hcol⟩, hreach, rfl⟩
  · rintro ⟨⟨hrow, hcol⟩, hreach, heq⟩
    exact ⟨c.cell.row, hrow, c.cell.col, hcol, hreach, heq⟩

/-- **Snapping** fails when no cell reaches the threshold, and otherwise selects the cell with the
least key among those that do. -/
theorem snapPourPoint_spec {outlet : NativeCoord} {accumulation : AccumulationTile .masked}
    {frac : ℚ × ℚ} (hfrac : accumulation.geo.coordToPixelF64 outlet = some frac)
    (threshold : SnapThreshold) (units : FlowAccumulationUnits) (epsg : ℕ) :
    let reaches : GridCoord → Prop := fun cell => accumulation.dims.Mem cell ∧
      ReachesThreshold (accumulation.getRaw cell)
        (effectiveThreshold threshold units accumulation.geo)
    ((¬∃ cell, reaches cell) ∧
        ∃ e, snapPourPoint outlet accumulation threshold units epsg = .error e) ∨
      ∃ snapped, snapPourPoint outlet accumulation threshold units epsg = .ok snapped ∧
        reaches snapped.cell ∧ snapped.coord = accumulation.geo.pixelToCoord snapped.cell ∧
        snapped.accumulation = accumulation.getRaw snapped.cell ∧
        ∀ cell, reaches cell → seedKey frac (accumulation.getRaw snapped.cell) snapped.cell ≤
          seedKey frac (accumulation.getRaw cell) cell := by
  intro reaches
  simp only [snapPourPoint, hfrac]
  cases hrank : rank (rasterSeedCandidates frac accumulation
      (effectiveThreshold threshold units accumulation.geo)) with
  | none =>
    have hnil := minBy_eq_none_iff.1 hrank
    refine Or.inl ⟨?_, _, rfl⟩
    rintro ⟨cell, hmem, hreach⟩
    have : (⟨cell, centreDistanceSquared frac cell, accumulation.getRaw cell⟩ :
        RasterSeedCandidate) ∈ rasterSeedCandidates frac accumulation
          (effectiveThreshold threshold units accumulation.geo) :=
      mem_rasterSeedCandidates.2 ⟨hmem, hreach, rfl⟩
    rw [hnil] at this
    simp at this
  | some c =>
    obtain ⟨hc, hmin⟩ := minBy_eq_some rankCmp_eq_gt_iff hrank
    obtain ⟨hmem, hreach, heq⟩ := mem_rasterSeedCandidates.1 hc
    have hacc : c.accumulation = accumulation.getRaw c.cell := congrArg (·.accumulation) heq
    have hkey : c.key = seedKey frac (accumulation.getRaw c.cell) c.cell := by
      rw [heq]
      rfl
    refine Or.inr ⟨_, rfl, ⟨hmem, hreach⟩, rfl, hacc, fun cell hcell => ?_⟩
    rw [← hkey]
    exact hmin ⟨cell, centreDistanceSquared frac cell, accumulation.getRaw cell⟩
      (mem_rasterSeedCandidates.2 ⟨hcell.1, hcell.2, rfl⟩)

end Pourpoint
