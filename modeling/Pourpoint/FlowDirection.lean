import Pourpoint.F32
import Pourpoint.Grid

/-!
# Raster tiles and flow directions

A raster tile holds row-major data, a nodata value and a geo-transform. A flow-direction tile
decodes its bytes with one of three conventions; its nodata byte is not a direction, which
`from_raw` checks. So the directions that the trace follows (`get_checked`) are those of
`decoded_cell` (`FlowDirectionTile.getChecked_eq_some_iff`).

Masking overwrites the cells outside the mask with the byte 255, which is no direction in any
convention (`FlowDirectionTile.getChecked_applyMask`).
-/

namespace Pourpoint

/-! ## Tiles -/

inductive RasterTileError where
  | dimensionMismatch (expected rows cols actual : ℕ)
  | emptyTile (rows cols : ℕ)
  deriving DecidableEq, Repr

/-- Row-major raster tile with a nodata value. -/
structure RasterTile (α : Type) where
  data : List α
  rows : ℕ
  cols : ℕ
  nodata : α
  geo : GeoTransform
  length_eq : data.length = rows * cols
  rows_pos : 0 < rows
  cols_pos : 0 < cols

namespace RasterTile

variable {α : Type}

/-- `from_vec`. -/
def fromVec (data : List α) (dims : GridDims) (nodata : α) (geo : GeoTransform) :
    Except RasterTileError (RasterTile α) :=
  if hdims : dims.rows = 0 ∨ dims.cols = 0 then .error (.emptyTile dims.rows dims.cols)
  else if hlen : data.length ≠ dims.rows * dims.cols then
    .error (.dimensionMismatch (dims.rows * dims.cols) dims.rows dims.cols data.length)
  else .ok ⟨data, dims.rows, dims.cols, nodata, geo, by simpa using hlen, by omega, by omega⟩

def dims (tile : RasterTile α) : GridDims := ⟨tile.rows, tile.cols⟩

/-- The value at a cell of the tile. -/
def get (tile : RasterTile α) (cell : GridCoord) : α :=
  tile.data.getD (cell.index tile.cols) tile.nodata

/-- `get_checked`. Nothing outside the tile. -/
def getChecked (tile : RasterTile α) (row col : ℤ) : Option α :=
  if row < 0 ∨ col < 0 ∨ tile.rows ≤ row.toNat ∨ tile.cols ≤ col.toNat then none
  else some (tile.get ⟨row.toNat, col.toNat⟩)

theorem getChecked_natCast (tile : RasterTile α) (cell : GridCoord) :
    tile.getChecked cell.row cell.col = if tile.dims.Mem cell then some (tile.get cell) else none := by
  by_cases h : tile.dims.Mem cell
  · have hneg : ¬((cell.row : ℤ) < 0 ∨ (cell.col : ℤ) < 0 ∨ tile.rows ≤ (cell.row : ℤ).toNat ∨
        tile.cols ≤ (cell.col : ℤ).toNat) := by
      obtain ⟨hr, hc⟩ := h
      simp only [dims] at hr hc
      omega
    rw [getChecked, if_neg hneg, if_pos h]
    simp
  · have hpos : (cell.row : ℤ) < 0 ∨ (cell.col : ℤ) < 0 ∨ tile.rows ≤ (cell.row : ℤ).toNat ∨
        tile.cols ≤ (cell.col : ℤ).toNat := by
      by_contra hno
      refine h ⟨?_, ?_⟩ <;> simp only [dims] <;> omega
    rw [getChecked, if_pos hpos, if_neg h]

theorem exists_cell_of_getChecked {tile : RasterTile α} {row col : ℤ} {a : α}
    (h : tile.getChecked row col = some a) :
    ∃ cell : GridCoord, tile.dims.Mem cell ∧ row = cell.row ∧ col = cell.col := by
  unfold getChecked at h
  split_ifs at h with hout
  refine ⟨⟨row.toNat, col.toNat⟩, ⟨?_, ?_⟩, ?_, ?_⟩ <;> simp only [dims] <;> omega

/-- The loop of `apply_mask`: cells outside the mask are overwritten. -/
def maskData (fill : α) (data : List α) (mask : List Bool) : List α :=
  data.zipWith (fun a keep => if keep then a else fill) mask

theorem length_maskData {fill : α} {data : List α} {mask : List Bool}
    (h : mask.length = data.length) : (maskData fill data mask).length = data.length := by
  simp [maskData, h]

/-- The tile with the cells outside a mask overwritten. -/
def overwrite (fill : α) (tile : RasterTile α) (mask : CatchmentMask) (hdims : mask.dims = tile.dims) :
    RasterTile α where
  data := maskData fill tile.data mask.data
  rows := tile.rows
  cols := tile.cols
  nodata := tile.nodata
  geo := tile.geo
  length_eq := by
    obtain ⟨hr, hc⟩ : mask.rows = tile.rows ∧ mask.cols = tile.cols := by
      simpa [dims, CatchmentMask.dims] using hdims
    rw [length_maskData, tile.length_eq]
    rw [mask.length_eq, tile.length_eq, hr, hc]
  rows_pos := tile.rows_pos
  cols_pos := tile.cols_pos

/-- The error of `apply_mask` for a mask of other dimensions. -/
def maskMismatch (tile : RasterTile α) (mask : CatchmentMask) : RasterTileError :=
  .dimensionMismatch (tile.rows * tile.cols) tile.rows tile.cols (mask.rows * mask.cols)

/-- **Masking** keeps the cells of the mask and overwrites the others. -/
theorem get_overwrite {fill : α} {tile : RasterTile α} {mask : CatchmentMask}
    (hdims : mask.dims = tile.dims) {cell : GridCoord} (hcell : tile.dims.Mem cell) :
    (tile.overwrite fill mask hdims).get cell = if mask.contains cell then tile.get cell else fill := by
  have hcols : mask.cols = tile.cols := congrArg GridDims.cols hdims
  have hlen : mask.data.length = tile.data.length := by
    rw [mask.length_eq, tile.length_eq, hcols]
    exact congrArg (· * tile.cols) (congrArg GridDims.rows hdims)
  have hidx : cell.index tile.cols < tile.data.length := by
    rw [tile.length_eq]
    exact GridCoord.index_lt hcell
  have hidx' : cell.index tile.cols < mask.data.length := by rwa [hlen]
  have hidx'' : cell.index tile.cols < (maskData fill tile.data mask.data).length := by
    rwa [length_maskData hlen]
  simp only [get, overwrite, CatchmentMask.contains, hcols]
  rw [List.getD_eq_getElem _ _ hidx'', List.getD_eq_getElem _ _ hidx, List.getD_eq_getElem _ _ hidx']
  simp [maskData]

end RasterTile

/-! ## Directions -/

/-- D8 flow direction. -/
inductive FlowDir where
  | east | southeast | south | southwest | west | northwest | north | northeast
  deriving DecidableEq, Repr

/-- `hfx::FlowDirEncoding`. -/
inductive FlowDirEncoding where
  | esri | taudem | grass
  deriving DecidableEq, Repr

inductive InvalidFlowDir where
  | invalidEncoding (value : UInt8)
  deriving DecidableEq, Repr

namespace FlowDir

def all : List FlowDir :=
  [east, southeast, south, southwest, west, northwest, north, northeast]

/-- `from_esri`. Powers of two, clockwise from east. -/
def fromEsri (value : UInt8) : Except InvalidFlowDir (Option FlowDir) :=
  match value.toNat with
  | 0 => .ok none
  | 1 => .ok (some east)
  | 2 => .ok (some southeast)
  | 4 => .ok (some south)
  | 8 => .ok (some southwest)
  | 16 => .ok (some west)
  | 32 => .ok (some northwest)
  | 64 => .ok (some north)
  | 128 => .ok (some northeast)
  | _ => .error (.invalidEncoding value)

/-- `from_taudem`. One to eight, counter-clockwise from east. -/
def fromTaudem (value : UInt8) : Except InvalidFlowDir (Option FlowDir) :=
  match value.toNat with
  | 0 => .ok none
  | 1 => .ok (some east)
  | 2 => .ok (some northeast)
  | 3 => .ok (some north)
  | 4 => .ok (some northwest)
  | 5 => .ok (some west)
  | 6 => .ok (some southwest)
  | 7 => .ok (some south)
  | 8 => .ok (some southeast)
  | _ => .error (.invalidEncoding value)

/-- The byte is read as an `i8`; `-8` to `0` are a sink and the coverage exits. -/
def fromGrass (value : UInt8) : Except InvalidFlowDir (Option FlowDir) :=
  let signed : ℤ := if value.toNat < 128 then value.toNat else (value.toNat : ℤ) - 256
  if -8 ≤ signed ∧ signed ≤ 0 then .ok none
  else match value.toNat with
    | 1 => .ok (some northeast)
    | 2 => .ok (some north)
    | 3 => .ok (some northwest)
    | 4 => .ok (some west)
    | 5 => .ok (some southwest)
    | 6 => .ok (some south)
    | 7 => .ok (some southeast)
    | 8 => .ok (some east)
    | _ => .error (.invalidEncoding value)

/-- `from_encoded`. -/
def fromEncoded (value : UInt8) : FlowDirEncoding → Except InvalidFlowDir (Option FlowDir)
  | .esri => fromEsri value
  | .taudem => fromTaudem value
  | .grass => fromGrass value

/-- The column offset of one step. -/
def dx : FlowDir → ℤ
  | east | northeast | southeast => 1
  | west | northwest | southwest => -1
  | north | south => 0

/-- The row offset of one step. -/
def dy : FlowDir → ℤ
  | north | northwest | northeast => -1
  | south | southwest | southeast => 1
  | east | west => 0

def opposite : FlowDir → FlowDir
  | east => west
  | southeast => northwest
  | south => north
  | southwest => northeast
  | west => east
  | northwest => southeast
  | north => south
  | northeast => southwest

theorem mem_all (dir : FlowDir) : dir ∈ all := by
  cases dir <;> decide

@[simp] theorem opposite_opposite (dir : FlowDir) : dir.opposite.opposite = dir := by
  cases dir <;> rfl

@[simp] theorem dx_opposite (dir : FlowDir) : dir.opposite.dx = -dir.dx := by
  cases dir <;> rfl

@[simp] theorem dy_opposite (dir : FlowDir) : dir.opposite.dy = -dir.dy := by
  cases dir <;> rfl

end FlowDir

/-! ## Flow-direction tiles -/

/-- The typestate of a tile. -/
inductive TileState where
  | raw | masked

/-- The byte that masks a cell. -/
def flowDirNodata : UInt8 := 255

/-- Decoded seed-cell semantics. -/
inductive DecodedFlowCell where
  | direction (dir : FlowDir)
  | terminal
  deriving DecidableEq, Repr

/-- `decode`: a byte as a direction; anything else is `none`. -/
def decodeFlowDir (raw : UInt8) (encoding : FlowDirEncoding) : Option FlowDir :=
  if raw = flowDirNodata then none
  else match FlowDir.fromEncoded raw encoding with
    | .ok dir => dir
    | .error _ => none

/-- Typed wrapper around the bytes of a D8 raster. Its nodata byte is not a direction. -/
structure FlowDirectionTile (state : TileState) where
  inner : RasterTile UInt8
  encoding : FlowDirEncoding
  nodata_ne : ∀ dir, FlowDir.fromEncoded inner.nodata encoding ≠ .ok (some dir)

inductive FlowDirectionTileError where
  | directionalNodata (nodata : UInt8) (encoding : FlowDirEncoding)
  deriving DecidableEq, Repr

namespace FlowDirectionTile

variable {state : TileState}

/-- `from_raw`. -/
def fromRaw (tile : RasterTile UInt8) (encoding : FlowDirEncoding) :
    Except FlowDirectionTileError (FlowDirectionTile .raw) :=
  match h : FlowDir.fromEncoded tile.nodata encoding with
  | .ok (some _) => .error (.directionalNodata tile.nodata encoding)
  | .ok none => .ok ⟨tile, encoding, fun dir => by rw [h]; simp⟩
  | .error _ => .ok ⟨tile, encoding, fun dir => by rw [h]; simp⟩

def dims (tile : FlowDirectionTile state) : GridDims := tile.inner.dims

def geo (tile : FlowDirectionTile state) : GeoTransform := tile.inner.geo

/-- Seed-cell semantics; a GRASS terminal is valid, a nodata or unknown byte is not. -/
def decodedCell (tile : FlowDirectionTile state) (cell : GridCoord) : Option DecodedFlowCell :=
  if tile.inner.get cell = tile.inner.nodata then none
  else match FlowDir.fromEncoded (tile.inner.get cell) tile.encoding with
    | .ok (some dir) => some (.direction dir)
    | .ok none => if tile.encoding = .grass then some .terminal else none
    | .error _ => none

/-- `get_checked`. Nothing outside the tile and where no direction is stored. -/
def getChecked (tile : FlowDirectionTile state) (row col : ℤ) : Option FlowDir :=
  (tile.inner.getChecked row col).bind fun raw => decodeFlowDir raw tile.encoding

/-- `apply_mask`: cells outside the mask become 255. -/
def applyMask (tile : FlowDirectionTile .raw) (mask : CatchmentMask) :
    Except RasterTileError (FlowDirectionTile .masked) :=
  if hdims : mask.dims = tile.dims then
    .ok ⟨tile.inner.overwrite flowDirNodata mask hdims, tile.encoding, tile.nodata_ne⟩
  else .error (tile.inner.maskMismatch mask)

end FlowDirectionTile

theorem decodeFlowDir_nodata (encoding : FlowDirEncoding) :
    decodeFlowDir flowDirNodata encoding = none := if_pos rfl

/-- The byte 255 is a direction in no convention. -/
theorem decodeFlowDir_eq_some_iff {raw : UInt8} {encoding : FlowDirEncoding} {dir : FlowDir} :
    decodeFlowDir raw encoding = some dir ↔ FlowDir.fromEncoded raw encoding = .ok (some dir) := by
  unfold decodeFlowDir
  split_ifs with h
  · subst h
    cases encoding <;> simp [flowDirNodata, FlowDir.fromEncoded, FlowDir.fromEsri,
      FlowDir.fromTaudem, FlowDir.fromGrass]
  · cases FlowDir.fromEncoded raw encoding <;> simp

namespace FlowDirectionTile

variable {state : TileState}

/-- The trace and the seed test read the same directions. -/
theorem decodedCell_eq_direction_iff (tile : FlowDirectionTile state) (cell : GridCoord)
    (dir : FlowDir) : tile.decodedCell cell = some (.direction dir) ↔
      decodeFlowDir (tile.inner.get cell) tile.encoding = some dir := by
  rw [decodeFlowDir_eq_some_iff]
  unfold decodedCell
  by_cases h : tile.inner.get cell = tile.inner.nodata
  · simp [h, tile.nodata_ne dir]
  · rw [if_neg h]
    cases hdec : FlowDir.fromEncoded (tile.inner.get cell) tile.encoding with
    | error e => simp
    | ok dir' =>
      cases dir' with
      | none => by_cases hg : tile.encoding = .grass <;> simp
      | some dir' => simp

theorem exists_cell_of_getChecked {tile : FlowDirectionTile state} {row col : ℤ} {dir : FlowDir}
    (h : tile.getChecked row col = some dir) :
    ∃ cell : GridCoord, tile.dims.Mem cell ∧ row = cell.row ∧ col = cell.col := by
  obtain ⟨raw, hraw, -⟩ := Option.bind_eq_some_iff.1 h
  exact RasterTile.exists_cell_of_getChecked hraw

theorem getChecked_eq_some_iff (tile : FlowDirectionTile state) (cell : GridCoord) (dir : FlowDir) :
    tile.getChecked cell.row cell.col = some dir ↔
      tile.dims.Mem cell ∧ tile.decodedCell cell = some (.direction dir) := by
  rw [getChecked, RasterTile.getChecked_natCast, decodedCell_eq_direction_iff]
  by_cases h : tile.inner.dims.Mem cell
  · simp [h, dims]
  · simp [h, dims]

/-- **Masked directions** are the directions of the cells of the mask. -/
theorem getChecked_applyMask {tile : FlowDirectionTile .raw} {mask : CatchmentMask}
    (hdims : mask.dims = tile.dims) :
    ∃ masked, tile.applyMask mask = .ok masked ∧ masked.dims = tile.dims ∧
      ∀ (cell : GridCoord) (dir : FlowDir), masked.getChecked cell.row cell.col = some dir ↔
        tile.dims.Mem cell ∧ mask.contains cell = true ∧
          tile.decodedCell cell = some (.direction dir) := by
  rw [applyMask, dif_pos hdims]
  refine ⟨_, rfl, rfl, fun cell dir => ?_⟩
  rw [getChecked_eq_some_iff, decodedCell_eq_direction_iff, decodedCell_eq_direction_iff]
  refine and_congr_right fun hcell => ?_
  rw [RasterTile.get_overwrite hdims hcell]
  by_cases hin : mask.contains cell = true
  · simp [hin]
  · simp [hin, decodeFlowDir_nodata]

end FlowDirectionTile

end Pourpoint
