import Pourpoint.Cog.Fetch

/-!
# The coverage of a window

A prepared window reports the grid of the raster and the indices of its tiles. From these
`covered_tile_col_row` finds the position of a tile, and `crossed_axes` whether the window reaches over a
tile boundary from west to east or from north to south.

**Theorem (`coverage_spec`).** The reported positions are those of the tiles that meet the window, and an
axis is crossed exactly when the first and the last pixel of the window lie in different tiles along it.
-/

namespace Pourpoint

open Library

inductive CrossedTileAxes where
  | neither | x | y | xAndY
  deriving DecidableEq, Repr

/-- `RasterWindowCoverage`. -/
structure RasterWindowCoverage where
  originX : F64
  originY : F64
  pixelWidth : F64
  pixelHeight : F64
  rasterWidth : ℕ
  rasterHeight : ℕ
  tileWidth : ℕ
  tileHeight : ℕ
  windowColOff : ℕ
  windowRowOff : ℕ
  coveredTileIndexes : List ℕ
  deriving DecidableEq

/-- `div_ceil` on an unsigned type. -/
def divCeilUnsigned (a b : ℕ) : Exec ℕ := if b = 0 then .error .divisionByZero else .ok (divCeil a b)

namespace RasterWindowCoverage

/-- `covered_tile_col_row`. -/
def coveredTileColRow (coverage : RasterWindowCoverage) (flatIndex : ℕ) : Exec (Option (ℕ × ℕ)) :=
  if flatIndex ∈ coverage.coveredTileIndexes then do
    let tilesAcross ← divCeilUnsigned coverage.rasterWidth coverage.tileWidth
    return some (← remUnsigned flatIndex tilesAcross, ← divUnsigned flatIndex tilesAcross)
  else .ok none

/-- The two sets are `BTreeSet`s of positions. -/
def crossedAxes (coverage : RasterWindowCoverage) : Exec CrossedTileAxes := do
  let tilesAcross ← divCeilUnsigned coverage.rasterWidth coverage.tileWidth
  let columns ← coverage.coveredTileIndexes.mapM fun index => remUnsigned index tilesAcross
  let rows ← coverage.coveredTileIndexes.mapM fun index => divUnsigned index tilesAcross
  return match decide (1 < columns.dedup.length), decide (1 < rows.dedup.length) with
    | false, false => .neither
    | true, false => .x
    | false, true => .y
    | true, true => .xAndY

end RasterWindowCoverage

namespace PreparedCogWindow

/-- `PreparedCogWindow::coverage`. -/
def coverage (prepared : PreparedCogWindow) : RasterWindowCoverage where
  originX := prepared.metadata.originX
  originY := prepared.metadata.originY
  pixelWidth := prepared.metadata.pixelWidth
  pixelHeight := prepared.metadata.pixelHeight
  rasterWidth := prepared.metadata.width
  rasterHeight := prepared.metadata.height
  tileWidth := prepared.metadata.tileWidth
  tileHeight := prepared.metadata.tileHeight
  windowColOff := prepared.window.colOff
  windowRowOff := prepared.window.rowOff
  coveredTileIndexes := prepared.plan.tiles.map (·.index)

/-- A range of pixels reaches over a tile boundary. -/
def Crosses (tile offset size : ℕ) : Prop := offset / tile < (offset + size - 1) / tile

instance (tile offset size : ℕ) : Decidable (Crosses tile offset size) :=
  inferInstanceAs (Decidable (_ < _))

/-- The axes along which the window reaches over a tile boundary. -/
def crossed (prepared : PreparedCogWindow) : CrossedTileAxes :=
  if Crosses prepared.metadata.tileWidth prepared.window.colOff prepared.window.width then
    if Crosses prepared.metadata.tileHeight prepared.window.rowOff prepared.window.height then .xAndY
    else .x
  else if Crosses prepared.metadata.tileHeight prepared.window.rowOff prepared.window.height then .y
  else .neither

section

variable {prepared : PreparedCogWindow} {content : List UInt8} {path : String}

theorem Planned.mem_coveredTileIndexes_iff (h : prepared.Planned content path) {index : ℕ} :
    index ∈ prepared.coverage.coveredTileIndexes ↔ ∃ tileCol tileRow,
      prepared.window.Meets prepared.metadata tileCol tileRow ∧
        index = prepared.metadata.tileIndex tileCol tileRow := by
  obtain ⟨geometry, hgeometry, htiles⟩ := h.tiles
  have hindices : prepared.coverage.coveredTileIndexes = geometry.indices := by
    rw [coverage, htiles, List.map_map]
    exact List.map_id _
  rw [hindices]
  exact TilePlan.mem_indices_iff h.merit hgeometry

theorem Planned.tilesAcross (h : prepared.Planned content path) :
    divCeilUnsigned prepared.coverage.rasterWidth prepared.coverage.tileWidth =
      .ok prepared.metadata.tilesAcross :=
  if_neg h.merit.tileWidth_pos.ne'

theorem Planned.colRow (h : prepared.Planned content path) {tileCol tileRow : ℕ}
    (hmeets : prepared.window.Meets prepared.metadata tileCol tileRow) :
    remUnsigned (prepared.metadata.tileIndex tileCol tileRow) prepared.metadata.tilesAcross =
        .ok tileCol ∧
      divUnsigned (prepared.metadata.tileIndex tileCol tileRow) prepared.metadata.tilesAcross =
        .ok tileRow := by
  have hon := hmeets.tileOn h.on
  have hcol := hon.col_lt_tilesAcross h.merit
  have hpos : 0 < prepared.metadata.tilesAcross := by omega
  rw [remUnsigned_eq_ok hpos, divUnsigned_eq_ok hpos, CogMetadata.tileIndex,
    Nat.mul_add_mod_self_right, Nat.mod_eq_of_lt hcol, Nat.mul_comm, Nat.mul_add_div hpos,
    Nat.div_eq_of_lt hcol, Nat.add_zero]
  exact ⟨rfl, rfl⟩

theorem Planned.tilesAcross_pos (h : prepared.Planned content path) :
    0 < prepared.metadata.tilesAcross := by
  have hmeets := meets_pixelTile h.merit h.on.height_pos h.on.width_pos
  exact Nat.zero_lt_of_lt ((hmeets.tileOn h.on).col_lt_tilesAcross h.merit)

/-- The columns of the covered tiles. -/
theorem Planned.mem_columns_iff (h : prepared.Planned content path) {tileCol : ℕ} :
    tileCol ∈ prepared.coverage.coveredTileIndexes.map (· % prepared.metadata.tilesAcross) ↔
      ∃ tileRow, prepared.window.Meets prepared.metadata tileCol tileRow := by
  have hpos := h.tilesAcross_pos
  have hrem : ∀ {col row}, prepared.window.Meets prepared.metadata col row →
      prepared.metadata.tileIndex col row % prepared.metadata.tilesAcross = col := by
    intro col row hmeets
    exact Except.ok.inj ((remUnsigned_eq_ok hpos).symm.trans (h.colRow hmeets).1)
  rw [List.mem_map]
  constructor
  · rintro ⟨index, hindex, rfl⟩
    obtain ⟨col, row, hmeets, rfl⟩ := h.mem_coveredTileIndexes_iff.1 hindex
    rw [hrem hmeets]
    exact ⟨row, hmeets⟩
  · rintro ⟨tileRow, hmeets⟩
    exact ⟨_, h.mem_coveredTileIndexes_iff.2 ⟨_, _, hmeets, rfl⟩, hrem hmeets⟩

/-- The rows of the covered tiles. -/
theorem Planned.mem_rows_iff (h : prepared.Planned content path) {tileRow : ℕ} :
    tileRow ∈ prepared.coverage.coveredTileIndexes.map (· / prepared.metadata.tilesAcross) ↔
      ∃ tileCol, prepared.window.Meets prepared.metadata tileCol tileRow := by
  have hpos := h.tilesAcross_pos
  have hdiv : ∀ {col row}, prepared.window.Meets prepared.metadata col row →
      prepared.metadata.tileIndex col row / prepared.metadata.tilesAcross = row := by
    intro col row hmeets
    exact Except.ok.inj ((divUnsigned_eq_ok hpos).symm.trans (h.colRow hmeets).2)
  rw [List.mem_map]
  constructor
  · rintro ⟨index, hindex, rfl⟩
    obtain ⟨col, row, hmeets, rfl⟩ := h.mem_coveredTileIndexes_iff.1 hindex
    rw [hdiv hmeets]
    exact ⟨col, hmeets⟩
  · rintro ⟨tileCol, hmeets⟩
    exact ⟨_, h.mem_coveredTileIndexes_iff.2 ⟨_, _, hmeets, rfl⟩, hdiv hmeets⟩

end

/-! ## One axis -/

/-- A list of positions from the first to the last tile, with both, has two positions when a boundary is
crossed. -/
theorem one_lt_length_dedup_iff {positions : List ℕ} {tile offset size : ℕ}
    (hbounds : ∀ i ∈ positions, offset / tile ≤ i ∧ i ≤ (offset + size - 1) / tile)
    (hfirst : offset / tile ∈ positions) (hlast : (offset + size - 1) / tile ∈ positions) :
    1 < positions.dedup.length ↔ Crosses tile offset size := by
  rw [← List.card_toFinset, Finset.one_lt_card]
  simp only [List.mem_toFinset]
  constructor
  · rintro ⟨i, hi, j, hj, hne⟩
    obtain ⟨hi₁, hi₂⟩ := hbounds i hi
    obtain ⟨hj₁, hj₂⟩ := hbounds j hj
    unfold Crosses
    omega
  · intro h
    exact ⟨_, hfirst, _, hlast, ne_of_lt h⟩

section

variable {prepared : PreparedCogWindow} {content : List UInt8} {path : String}

theorem Planned.columns_bounds (h : prepared.Planned content path) {tileCol tileRow : ℕ}
    (hmeets : prepared.window.Meets prepared.metadata tileCol tileRow) :
    prepared.window.colOff / prepared.metadata.tileWidth ≤ tileCol ∧
      tileCol ≤ (prepared.window.colOff + prepared.window.width - 1) /
        prepared.metadata.tileWidth := by
  have hpos := h.merit.tileWidth_pos
  have hcol := hmeets.col_lt
  exact ⟨Nat.lt_succ_iff.1 ((Nat.div_lt_iff_lt_mul hpos).2 hmeets.lt_col),
    (Nat.le_div_iff_mul_le hpos).2 (by omega)⟩

theorem Planned.rows_bounds (h : prepared.Planned content path) {tileCol tileRow : ℕ}
    (hmeets : prepared.window.Meets prepared.metadata tileCol tileRow) :
    prepared.window.rowOff / prepared.metadata.tileHeight ≤ tileRow ∧
      tileRow ≤ (prepared.window.rowOff + prepared.window.height - 1) /
        prepared.metadata.tileHeight := by
  have hpos := h.merit.tileHeight_pos
  have hrow := hmeets.row_lt
  exact ⟨Nat.lt_succ_iff.1 ((Nat.div_lt_iff_lt_mul hpos).2 hmeets.lt_row),
    (Nat.le_div_iff_mul_le hpos).2 (by omega)⟩

theorem Planned.one_lt_columns_iff (h : prepared.Planned content path) :
    1 < (prepared.coverage.coveredTileIndexes.map
        (· % prepared.metadata.tilesAcross)).dedup.length ↔
      Crosses prepared.metadata.tileWidth prepared.window.colOff prepared.window.width := by
  have hwidth := h.on.width_pos
  refine one_lt_length_dedup_iff ?_ ?_ ?_
  · intro tileCol hcol
    obtain ⟨tileRow, hmeets⟩ := h.mem_columns_iff.1 hcol
    exact h.columns_bounds hmeets
  · exact h.mem_columns_iff.2 ⟨_, meets_pixelTile h.merit h.on.height_pos hwidth⟩
  · have hlast : prepared.window.colOff + prepared.window.width - 1 =
        prepared.window.colOff + (prepared.window.width - 1) := by omega
    rw [hlast]
    exact h.mem_columns_iff.2 ⟨_, meets_pixelTile h.merit h.on.height_pos (by omega)⟩

theorem Planned.one_lt_rows_iff (h : prepared.Planned content path) :
    1 < (prepared.coverage.coveredTileIndexes.map
        (· / prepared.metadata.tilesAcross)).dedup.length ↔
      Crosses prepared.metadata.tileHeight prepared.window.rowOff prepared.window.height := by
  have hheight := h.on.height_pos
  refine one_lt_length_dedup_iff ?_ ?_ ?_
  · intro tileRow hrow
    obtain ⟨tileCol, hmeets⟩ := h.mem_rows_iff.1 hrow
    exact h.rows_bounds hmeets
  · exact h.mem_rows_iff.2 ⟨_, meets_pixelTile h.merit hheight h.on.width_pos⟩
  · have hlast : prepared.window.rowOff + prepared.window.height - 1 =
        prepared.window.rowOff + (prepared.window.height - 1) := by omega
    rw [hlast]
    exact h.mem_rows_iff.2 ⟨_, meets_pixelTile h.merit (by omega) h.on.width_pos⟩

theorem Planned.crossedAxes_eq (h : prepared.Planned content path) :
    prepared.coverage.crossedAxes = .ok prepared.crossed := by
  have hpos := h.tilesAcross_pos
  have hcolumns : prepared.coverage.coveredTileIndexes.mapM
      (fun index => remUnsigned index prepared.metadata.tilesAcross) = .ok
        (prepared.coverage.coveredTileIndexes.map (· % prepared.metadata.tilesAcross)) :=
    mapM_eq_ok_map fun _ _ => remUnsigned_eq_ok hpos
  have hrows : prepared.coverage.coveredTileIndexes.mapM
      (fun index => divUnsigned index prepared.metadata.tilesAcross) = .ok
        (prepared.coverage.coveredTileIndexes.map (· / prepared.metadata.tilesAcross)) :=
    mapM_eq_ok_map fun _ _ => divUnsigned_eq_ok hpos
  rw [RasterWindowCoverage.crossedAxes, h.tilesAcross, ok_bind, hcolumns, ok_bind, hrows, ok_bind]
  simp only [h.one_lt_columns_iff, h.one_lt_rows_iff]
  unfold crossed
  by_cases hx : Crosses prepared.metadata.tileWidth prepared.window.colOff prepared.window.width
  · by_cases hy : Crosses prepared.metadata.tileHeight prepared.window.rowOff prepared.window.height
    · simp [hx, hy]
      rfl
    · simp [hx, hy]
      rfl
  · by_cases hy : Crosses prepared.metadata.tileHeight prepared.window.rowOff prepared.window.height
    · simp [hx, hy]
      rfl
    · simp [hx, hy]
      rfl

theorem Planned.coveredTileColRow_of_meets (h : prepared.Planned content path) {tileCol tileRow : ℕ}
    (hmeets : prepared.window.Meets prepared.metadata tileCol tileRow) :
    prepared.coverage.coveredTileColRow (prepared.metadata.tileIndex tileCol tileRow) =
      .ok (some (tileCol, tileRow)) := by
  obtain ⟨hcol, hrow⟩ := h.colRow hmeets
  unfold RasterWindowCoverage.coveredTileColRow
  rw [if_pos (h.mem_coveredTileIndexes_iff.2 ⟨_, _, hmeets, rfl⟩), h.tilesAcross, ok_bind, hcol, ok_bind,
    hrow, ok_bind]
  rfl

theorem Planned.coveredTileColRow_of_not (h : prepared.Planned content path) {index : ℕ}
    (hnot : ¬∃ tileCol tileRow, prepared.window.Meets prepared.metadata tileCol tileRow ∧
      index = prepared.metadata.tileIndex tileCol tileRow) :
    prepared.coverage.coveredTileColRow index = .ok none := by
  unfold RasterWindowCoverage.coveredTileColRow
  rw [if_neg (mt h.mem_coveredTileIndexes_iff.1 hnot)]

end

end PreparedCogWindow

/-- **Coverage.** For a prepared window neither report aborts: the index of a tile that meets the window
has the position of the tile, any other index has none, and an axis is crossed exactly when the first
and the last pixel of the window lie in different tiles along it. -/
theorem coverage_spec {content : List UInt8} {path : String} {kind : RasterKind} {bbox : Rect}
    {prepared : PreparedRemoteWindow}
    (hprepared : (prepareRemoteWindow (.ofBytes content) path content.length kind bbox).outcome =
      .ok (.ok prepared)) :
    (∀ tileCol tileRow, prepared.window.Meets prepared.metadata tileCol tileRow →
      prepared.coverage.coveredTileColRow (prepared.metadata.tileIndex tileCol tileRow) =
        .ok (some (tileCol, tileRow))) ∧
      (∀ index, (¬∃ tileCol tileRow, prepared.window.Meets prepared.metadata tileCol tileRow ∧
        index = prepared.metadata.tileIndex tileCol tileRow) →
          prepared.coverage.coveredTileColRow index = .ok none) ∧
      prepared.coverage.crossedAxes = .ok prepared.crossed := by
  have hplanned := planned_of_prepareRemoteWindow hprepared
  refine ⟨fun tileCol tileRow hmeets => ?_, fun index hnot => ?_, hplanned.crossedAxes_eq⟩
  · exact hplanned.coveredTileColRow_of_meets hmeets
  · exact hplanned.coveredTileColRow_of_not hnot

/-- The window where four tiles meet crosses both axes. -/
theorem coverage_spec_corner :
    preparedCorner.coverage.coveredTileColRow 2 = .ok (some (0, 1)) ∧
      preparedCorner.coverage.crossedAxes = .ok .xAndY := by
  obtain ⟨hcovered, -, hcrossed⟩ := coverage_spec prepareRemoteWindow_fourTileTiff
  have hmeets : preparedCorner.window.Meets preparedCorner.metadata 0 1 :=
    ⟨by decide, by decide, by decide, by decide⟩
  exact ⟨hcovered 0 1 hmeets, hcrossed⟩

end Pourpoint
