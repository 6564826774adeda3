import Pourpoint.F64
import Pourpoint.Geometry
import Pourpoint.Machine
import Mathlib.Algebra.Order.Floor.Ring
import Mathlib.Data.List.ProdSigma

/-!
# Cloud-optimized GeoTIFF layouts and windows

The metadata of a tiled raster, the layouts that are accepted, the pixel window of a bounding box and
the tiles that a window needs.

`from_bbox` computes pixel bounds in floating point and converts them to `i64`. Its model takes that
arithmetic as an argument: `PixelArith.exact` has unbounded integers and exact quotients, and
`PixelArith.f64` is that of the code.
-/

namespace Pourpoint

/-! ## Rectangles -/

/-- `geo::Rect<f64>`, whose constructor sorts the corners. -/
structure Rect where
  min : Coord
  max : Coord
  x_le : min.x ≤ max.x
  y_le : min.y ≤ max.y
  deriving DecidableEq

/-! ## Metadata -/

/-- Raster artifact selector. -/
inductive RasterKind where
  | flowDir
  | flowAcc
  deriving DecidableEq, Repr

/-- Supported one-band sample layouts. -/
inductive CogSampleType where
  | u8
  | i8
  | f32
  | i32
  deriving DecidableEq, Repr

/-- Where the values of a tile index are. -/
inductive IndexStorage where
  | inlineScalar (value : ℕ)
  | outOfLine (offset : ℕ)
  deriving DecidableEq, Repr

/-- Where a tile index array of the file is stored. -/
structure IndexDescriptor where
  fieldType : ℕ
  elementWidth : ℕ
  count : ℕ
  storage : IndexStorage
  deriving DecidableEq, Repr

/-- The index arrays of a remote raster. -/
structure CogIndex where
  tileOffsets : IndexDescriptor
  tileByteCounts : IndexDescriptor
  deriving DecidableEq, Repr

/-- Metadata needed to plan and materialize a window. -/
structure CogMetadata where
  width : ℕ
  height : ℕ
  tileWidth : ℕ
  tileHeight : ℕ
  originX : F64
  originY : F64
  pixelWidth : F64
  pixelHeight : F64
  nodata : String
  sampleType : CogSampleType
  compression : ℕ
  predictor : ℕ
  index : CogIndex
  width_lt : width < 2 ^ 32
  height_lt : height < 2 ^ 32
  deriving DecidableEq

/-- Errors of window reads. -/
inductive CacheError where
  | objectStore (path : String) (source : String)
  | unsupportedCog (path : String) (reason : String)
  | remoteTiffAsciiTooLong (path : String) (tag length limit : ℕ)
  deriving DecidableEq, Repr

/-- `remote_layout_error`. -/
def remoteLayoutError (path : String) (reason : String) : CacheError := .unsupportedCog path reason

/-- `Result<_, String>` with the reason in an error of the remote path. -/
def unsupported {α : Type} (remotePath : String) (x : Fallible String α) : Fallible CacheError α :=
  ExceptT.mk (x.run.map fun result => result.mapError (.unsupportedCog remotePath))

namespace CogMetadata

/-- The number of tile columns, for a nonzero tile width. -/
def tilesAcross (metadata : CogMetadata) : ℕ := divCeil metadata.width metadata.tileWidth

/-- The number of tile rows, for a nonzero tile height. -/
def tilesDown (metadata : CogMetadata) : ℕ := divCeil metadata.height metadata.tileHeight

end CogMetadata

/-! ## Accepted layouts -/

/-- The sample types of an artifact. -/
def RasterKind.validSample : RasterKind → CogSampleType → Bool
  | .flowDir, .u8 | .flowDir, .i8 | .flowAcc, .f32 | .flowAcc, .i32 => true
  | _, _ => false

/-- The predictors of a sample type. -/
def CogSampleType.supportedPredictor : CogSampleType → ℕ → Bool
  | .f32, predictor => predictor == 1 || predictor == 3
  | _, predictor => predictor == 1 || predictor == 2

/-- The reason for the refusal of a predictor. -/
def CogSampleType.predictorReason : CogSampleType → String
  | .u8 => "U8 supports TIFF predictors 1 or 2"
  | .i8 => "I8 supports TIFF predictors 1 or 2"
  | .i32 => "I32 supports TIFF predictors 1 or 2"
  | .f32 => "F32 supports TIFF predictors 1 or 3"

/-- The `Debug` text. -/
def RasterKind.debug : RasterKind → String
  | .flowDir => "FlowDir"
  | .flowAcc => "FlowAcc"

/-- The `Debug` text. -/
def CogSampleType.debug : CogSampleType → String
  | .u8 => "U8"
  | .i8 => "I8"
  | .f32 => "F32"
  | .i32 => "I32"

/-- Every tile division of this function comes after the check of the tile size. -/
def validateMeritLayout (metadata : CogMetadata) (kind : RasterKind) (remotePath : String) :
    Fallible CacheError Unit := do
  Fallible.failIf (metadata.tileWidth ≠ 512 ∨ metadata.tileHeight ≠ 512)
    (.unsupportedCog remotePath
      s!"expected 512x512 tiled COG, got {metadata.tileWidth}x{metadata.tileHeight}")
  let expectedTiles ← Fallible.orElse (remoteLayoutError remotePath "TIFF tile count overflow")
    (checkedMul 64 metadata.tilesAcross metadata.tilesDown)
  Fallible.failIf (metadata.index.tileOffsets.count ≠ expectedTiles ∨
      metadata.index.tileByteCounts.count ≠ expectedTiles)
    (.unsupportedCog remotePath "tile offset/count arrays do not match raster dimensions")
  Fallible.failIf (kind.validSample metadata.sampleType = false)
    (.unsupportedCog remotePath
      s!"{kind.debug} has unsupported samples {metadata.sampleType.debug}")
  Fallible.failIf (metadata.compression ≠ 8 ∧ metadata.compression ≠ 32946)
    (.unsupportedCog remotePath s!"expected DEFLATE compression, got {metadata.compression}")
  Fallible.failIf (metadata.sampleType.supportedPredictor metadata.predictor = false)
    (.unsupportedCog remotePath
      s!"{metadata.sampleType.predictorReason}, got {metadata.predictor}")

/-- What window reads use of an accepted layout. -/
structure CogMetadata.Merit (metadata : CogMetadata) : Prop where
  tileWidth : metadata.tileWidth = 512
  tileHeight : metadata.tileHeight = 512
  predictor : metadata.sampleType.supportedPredictor metadata.predictor = true

theorem merit_of_validateMeritLayout {metadata : CogMetadata} {kind : RasterKind} {path : String}
    (h : (validateMeritLayout metadata kind path).run = .ok (.ok ())) : metadata.Merit := by
  unfold validateMeritLayout at h
  obtain ⟨_, htile, h⟩ := Fallible.bind_run_eq_ok h
  obtain ⟨_, -, h⟩ := Fallible.bind_run_eq_ok h
  obtain ⟨_, -, h⟩ := Fallible.bind_run_eq_ok h
  obtain ⟨_, -, h⟩ := Fallible.bind_run_eq_ok h
  obtain ⟨_, -, h⟩ := Fallible.bind_run_eq_ok h
  have htile := Fallible.failIf_run_eq_ok htile
  have hpred := Fallible.failIf_run_eq_ok h
  push Not at htile
  exact ⟨htile.1, htile.2, Bool.eq_true_of_not_eq_false hpred⟩

/-! ## Tiles of the raster -/

namespace CogMetadata

/-- The tile column and row lie on the raster. -/
structure TileOn (metadata : CogMetadata) (tileCol tileRow : ℕ) : Prop where
  col_lt : tileCol * metadata.tileWidth < metadata.width
  row_lt : tileRow * metadata.tileHeight < metadata.height

/-- The flat index of a tile. -/
def tileIndex (metadata : CogMetadata) (tileCol tileRow : ℕ) : ℕ :=
  tileRow * metadata.tilesAcross + tileCol

/-- The live columns of the tiles in a tile column. -/
def liveWidth (metadata : CogMetadata) (tileCol : ℕ) : ℕ :=
  min metadata.tileWidth (metadata.width - tileCol * metadata.tileWidth)

/-- The live rows of the tiles in a tile row. -/
def liveHeight (metadata : CogMetadata) (tileRow : ℕ) : ℕ :=
  min metadata.tileHeight (metadata.height - tileRow * metadata.tileHeight)

variable {metadata : CogMetadata} {tileCol tileRow : ℕ}

theorem Merit.tileWidth_pos (h : metadata.Merit) : 0 < metadata.tileWidth := by
  rw [h.tileWidth]
  decide

theorem Merit.tileHeight_pos (h : metadata.Merit) : 0 < metadata.tileHeight := by
  rw [h.tileHeight]
  decide

theorem TileOn.col_lt_tilesAcross (hon : metadata.TileOn tileCol tileRow) (h : metadata.Merit) :
    tileCol < metadata.tilesAcross :=
  (lt_divCeil h.tileWidth_pos).2 hon.col_lt

end CogMetadata

/-! ## Pixel windows -/

/-- Pixel-space window, half-open in both dimensions. -/
structure RasterPixelWindow where
  colOff : ℕ
  rowOff : ℕ
  width : ℕ
  height : ℕ
  deriving DecidableEq, Repr

/-- How pixel bounds are computed: `((coord - origin) / pixel).floor() as i64`, the same with
`ceil`, and the padding by one pixel. -/
structure PixelArith where
  floorPixel (coord : ℚ) (origin pixel : F64) : ℤ
  ceilPixel (coord : ℚ) (origin pixel : F64) : ℤ
  pred (n : ℤ) : Exec ℤ
  succ (n : ℤ) : Exec ℤ

/-- Exact quotients and unbounded integers. -/
def PixelArith.exact : PixelArith where
  floorPixel coord origin pixel := ⌊(coord - origin.toRat) / pixel.toRat⌋
  ceilPixel coord origin pixel := ⌈(coord - origin.toRat) / pixel.toRat⌉
  pred n := .ok (n - 1)
  succ n := .ok (n + 1)

/-- `n - 1` in `i64`. -/
def predI64 (n : ℤ) : Exec ℤ := if F64.i64Min ≤ n - 1 then .ok (n - 1) else .error .overflow

/-- `n + 1` in `i64`. -/
def succI64 (n : ℤ) : Exec ℤ := if n + 1 ≤ F64.i64Max then .ok (n + 1) else .error .overflow

/-- A coordinate in pixels from the origin. -/
def pixelQuotient (coord : ℚ) (origin pixel : F64) : F64 := ((F64.finite coord).sub origin).div pixel

/-- The pixel arithmetic of `f64` and `i64`. -/
def PixelArith.f64 : PixelArith where
  floorPixel coord origin pixel := (pixelQuotient coord origin pixel).floorI64
  ceilPixel coord origin pixel := (pixelQuotient coord origin pixel).ceilI64
  pred := predI64
  succ := succI64

/-- `value.clamp(0, bound) as u32`. -/
def clampTo (bound : ℕ) (value : ℤ) : ℕ := (max 0 (min value bound)).toNat

theorem clampTo_le (bound : ℕ) (value : ℤ) : clampTo bound value ≤ bound := by
  unfold clampTo
  omega

namespace RasterPixelWindow

/-- The padded bounds clamped to the raster. -/
def ofBounds (metadata : CogMetadata) (minCol maxCol minRow maxRow : ℤ) :
    Fallible String RasterPixelWindow := do
  let colOff := clampTo metadata.width minCol
  let rowOff := clampTo metadata.height minRow
  let colEnd := clampTo metadata.width maxCol
  let rowEnd := clampTo metadata.height maxRow
  -- Natural-number subtraction is `saturating_sub`.
  let width := colEnd - colOff
  let height := rowEnd - rowOff
  Fallible.failIf (width = 0 ∨ height = 0) "requested bbox does not intersect raster extent"
  pure ⟨colOff, rowOff, width, height⟩

/-- `RasterPixelWindow::from_bbox`. One pixel of padding on each side, clipped to the raster. -/
def fromBbox (arith : PixelArith) (metadata : CogMetadata) (bbox : Rect) :
    Fallible String RasterPixelWindow := do
  Fallible.failIf (metadata.pixelWidth.isNonpos ∨ metadata.pixelHeight.isNonneg)
    "only north-up rasters with positive x and negative y pixels are supported"
  let minCol ← arith.pred (arith.floorPixel bbox.min.x metadata.originX metadata.pixelWidth)
  let maxCol ← arith.succ (arith.ceilPixel bbox.max.x metadata.originX metadata.pixelWidth)
  let minRow ← arith.pred (arith.floorPixel bbox.max.y metadata.originY metadata.pixelHeight)
  let maxRow ← arith.succ (arith.ceilPixel bbox.min.y metadata.originY metadata.pixelHeight)
  ofBounds metadata minCol maxCol minRow maxRow

/-- The window is not empty and lies on the raster. -/
structure On (window : RasterPixelWindow) (metadata : CogMetadata) : Prop where
  width_pos : 0 < window.width
  height_pos : 0 < window.height
  colEnd_le : window.colOff + window.width ≤ metadata.width
  rowEnd_le : window.rowOff + window.height ≤ metadata.height

/-- The clamped bounds leave a window unless they leave nothing on one axis. -/
theorem ofBounds_run_eq_ok {metadata : CogMetadata} {minCol maxCol minRow maxRow : ℤ}
    {window : RasterPixelWindow} :
    (ofBounds metadata minCol maxCol minRow maxRow).run = .ok (.ok window) ↔
      (clampTo metadata.width minCol < clampTo metadata.width maxCol ∧
        clampTo metadata.height minRow < clampTo metadata.height maxRow) ∧
      window = ⟨clampTo metadata.width minCol, clampTo metadata.height minRow,
        clampTo metadata.width maxCol - clampTo metadata.width minCol,
        clampTo metadata.height maxRow - clampTo metadata.height minRow⟩ := by
  unfold ofBounds
  constructor
  · intro h
    obtain ⟨_, hempty, h⟩ := Fallible.bind_run_eq_ok h
    have hpos := Fallible.failIf_run_eq_ok hempty
    cases h
    exact ⟨⟨by omega, by omega⟩, rfl⟩
  · rintro ⟨hlt, rfl⟩
    dsimp only
    rw [Fallible.failIf, if_neg (by omega)]
    rfl

theorem on_of_ofBounds {metadata : CogMetadata} {minCol maxCol minRow maxRow : ℤ}
    {window : RasterPixelWindow}
    (h : (ofBounds metadata minCol maxCol minRow maxRow).run = .ok (.ok window)) :
    window.On metadata := by
  obtain ⟨hlt, rfl⟩ := ofBounds_run_eq_ok.1 h
  have hcol := clampTo_le metadata.width maxCol
  have hrow := clampTo_le metadata.height maxRow
  constructor <;> dsimp only <;> omega

/-- Whatever the arithmetic, the window of a bounding box lies on the raster. -/
theorem on_of_fromBbox {arith : PixelArith} {metadata : CogMetadata} {bbox : Rect}
    {window : RasterPixelWindow} (h : (fromBbox arith metadata bbox).run = .ok (.ok window)) :
    window.On metadata := by
  unfold fromBbox at h
  obtain ⟨_, -, h⟩ := Fallible.bind_run_eq_ok h
  obtain ⟨minCol, -, h⟩ := Fallible.bind_run_eq_ok h
  obtain ⟨maxCol, -, h⟩ := Fallible.bind_run_eq_ok h
  obtain ⟨minRow, -, h⟩ := Fallible.bind_run_eq_ok h
  obtain ⟨maxRow, -, h⟩ := Fallible.bind_run_eq_ok h
  exact on_of_ofBounds h

end RasterPixelWindow

/-! ## Tile plans -/

/-- The tiles that meet a window. -/
structure TilePlan where
  indices : List ℕ
  deriving DecidableEq, Repr

/-- The ceiling on the number of tiles of one window. -/
def maxPlannedTileCount : ℕ := 65536

/-- The positions from `first` to `last`, row by row. -/
def tileGrid (firstRow lastRow firstCol lastCol : ℕ) : List (ℕ × ℕ) :=
  List.range' firstRow (lastRow + 1 - firstRow) ×ˢ List.range' firstCol (lastCol + 1 - firstCol)

theorem mem_tileGrid {firstRow lastRow firstCol lastCol : ℕ} {tile : ℕ × ℕ} :
    tile ∈ tileGrid firstRow lastRow firstCol lastCol ↔
      (firstRow ≤ tile.1 ∧ tile.1 ≤ lastRow) ∧ firstCol ≤ tile.2 ∧ tile.2 ≤ lastCol := by
  rw [tileGrid, List.mem_product, List.mem_range'_1, List.mem_range'_1]
  omega

theorem nodup_tileGrid (firstRow lastRow firstCol lastCol : ℕ) :
    (tileGrid firstRow lastRow firstCol lastCol).Nodup :=
  (List.nodup_range' ).product (List.nodup_range' )

/-- The last pixel of a window along one axis, `None` when it does not fit in `u32`. -/
def lastPixel (offset size : ℕ) : Option ℕ := (checkedAdd 32 offset size).bind (checkedSub · 1)

/-- `TilePlan::for_window`, row by row. -/
def TilePlan.forWindow (metadata : CogMetadata) (window : RasterPixelWindow) (remotePath : String) :
    Fallible CacheError TilePlan := do
  let firstTileCol ← divUnsigned window.colOff metadata.tileWidth
  let lastCol ← Fallible.orElse (remoteLayoutError remotePath "TIFF window column overflow")
    (lastPixel window.colOff window.width)
  let lastTileCol ← divUnsigned lastCol metadata.tileWidth
  let firstTileRow ← divUnsigned window.rowOff metadata.tileHeight
  let lastRow ← Fallible.orElse (remoteLayoutError remotePath "TIFF window row overflow")
    (lastPixel window.rowOff window.height)
  let lastTileRow ← divUnsigned lastRow metadata.tileHeight
  let tileCols ← addU32 (← subUnsigned lastTileCol firstTileCol) 1
  let tileRows ← addU32 (← subUnsigned lastTileRow firstTileRow) 1
  let count ← Fallible.orElse (remoteLayoutError remotePath "TIFF planned tile count overflow")
    (checkedMul 64 tileCols tileRows)
  Fallible.failIf (maxPlannedTileCount < count)
    (remoteLayoutError remotePath
      s!"TIFF planned tile count {count} exceeds window ceiling {maxPlannedTileCount}")
  let indices ← (tileGrid firstTileRow lastTileRow firstTileCol lastTileCol).mapM fun tile =>
    Fallible.orElse (remoteLayoutError remotePath "TIFF tile index overflow")
      ((checkedMul 32 tile.1 metadata.tilesAcross).bind (checkedAdd 32 · tile.2))
  pure ⟨indices⟩

/-- The tile has a pixel of the window. -/
structure RasterPixelWindow.Meets (window : RasterPixelWindow) (metadata : CogMetadata)
    (tileCol tileRow : ℕ) : Prop where
  col_lt : tileCol * metadata.tileWidth < window.colOff + window.width
  lt_col : window.colOff < (tileCol + 1) * metadata.tileWidth
  row_lt : tileRow * metadata.tileHeight < window.rowOff + window.height
  lt_row : window.rowOff < (tileRow + 1) * metadata.tileHeight

namespace TilePlan

variable {metadata : CogMetadata} {window : RasterPixelWindow} {path : String} {plan : TilePlan}

theorem lastPixel_eq_some {offset size last : ℕ} (h : lastPixel offset size = some last) :
    last + 1 = offset + size := by
  obtain ⟨sum, hsum, hlast⟩ := Option.bind_eq_some_iff.1 h
  have hsum := (checkedAdd_eq_some hsum).1
  obtain ⟨hlast, hpos⟩ := checkedSub_eq_some hlast
  omega

/-- A plan lists the tiles between the first and the last pixel of the window, row by row. -/
theorem indices_of_forWindow (h : (forWindow metadata window path).run = .ok (.ok plan)) :
    ∃ lastRow lastCol, lastRow + 1 = window.rowOff + window.height ∧
      lastCol + 1 = window.colOff + window.width ∧
      plan.indices = (tileGrid (window.rowOff / metadata.tileHeight) (lastRow / metadata.tileHeight)
        (window.colOff / metadata.tileWidth) (lastCol / metadata.tileWidth)).map
          fun tile => metadata.tileIndex tile.2 tile.1 := by
  unfold forWindow at h
  obtain ⟨firstTileCol, hfirstCol, h⟩ := Fallible.bind_run_eq_ok h
  obtain ⟨lastCol, hlastCol, h⟩ := Fallible.bind_run_eq_ok h
  obtain ⟨lastTileCol, hlastTileCol, h⟩ := Fallible.bind_run_eq_ok h
  obtain ⟨firstTileRow, hfirstRow, h⟩ := Fallible.bind_run_eq_ok h
  obtain ⟨lastRow, hlastRow, h⟩ := Fallible.bind_run_eq_ok h
  obtain ⟨lastTileRow, hlastTileRow, h⟩ := Fallible.bind_run_eq_ok h
  obtain ⟨_, -, h⟩ := Fallible.bind_run_eq_ok h
  obtain ⟨_, -, h⟩ := Fallible.bind_run_eq_ok h
  obtain ⟨_, -, h⟩ := Fallible.bind_run_eq_ok h
  obtain ⟨_, -, h⟩ := Fallible.bind_run_eq_ok h
  obtain ⟨_, -, h⟩ := Fallible.bind_run_eq_ok h
  obtain ⟨_, -, h⟩ := Fallible.bind_run_eq_ok h
  obtain ⟨indices, hindices, h⟩ := Fallible.bind_run_eq_ok h
  cases h
  refine ⟨lastRow, lastCol, lastPixel_eq_some (Fallible.orElse_run_eq_ok hlastRow),
    lastPixel_eq_some (Fallible.orElse_run_eq_ok hlastCol), ?_⟩
  rw [divUnsigned_of_ok (Fallible.lift_run_eq_ok hfirstCol),
    divUnsigned_of_ok (Fallible.lift_run_eq_ok hlastTileCol),
    divUnsigned_of_ok (Fallible.lift_run_eq_ok hfirstRow),
    divUnsigned_of_ok (Fallible.lift_run_eq_ok hlastTileRow)] at hindices
  apply Fallible.mapM_run_eq_ok _ hindices
  intro tile index hindex
  obtain ⟨start, hstart, hsum⟩ := Option.bind_eq_some_iff.1 (Fallible.orElse_run_eq_ok hindex)
  rw [(checkedAdd_eq_some hsum).1, (checkedMul_eq_some hstart).1, CogMetadata.tileIndex]

theorem mem_tileGrid_iff_meets (hmerit : metadata.Merit) {lastRow lastCol : ℕ}
    (hrow : lastRow + 1 = window.rowOff + window.height)
    (hcol : lastCol + 1 = window.colOff + window.width) {tile : ℕ × ℕ} :
    tile ∈ tileGrid (window.rowOff / metadata.tileHeight) (lastRow / metadata.tileHeight)
        (window.colOff / metadata.tileWidth) (lastCol / metadata.tileWidth) ↔
      window.Meets metadata tile.2 tile.1 := by
  have hw := hmerit.tileWidth_pos
  have hh := hmerit.tileHeight_pos
  have hdiv : ∀ {a b size : ℕ}, 0 < size → (a / size ≤ b ↔ a < (b + 1) * size) := by
    intro a b size hsize
    rw [← Nat.lt_succ_iff, Nat.div_lt_iff_lt_mul hsize]
  rw [mem_tileGrid, Nat.le_div_iff_mul_le hh, Nat.le_div_iff_mul_le hw, hdiv hh, hdiv hw]
  constructor
  · intro h
    exact ⟨by omega, h.2.1, by omega, h.1.1⟩
  · intro h
    have := h.col_lt
    have := h.row_lt
    exact ⟨⟨h.lt_row, by omega⟩, h.lt_col, by omega⟩

/-- A plan has exactly the tiles that meet the window. -/
theorem mem_indices_iff (hmerit : metadata.Merit)
    (h : (forWindow metadata window path).run = .ok (.ok plan)) {index : ℕ} :
    index ∈ plan.indices ↔
      ∃ tileCol tileRow, window.Meets metadata tileCol tileRow ∧
        index = metadata.tileIndex tileCol tileRow := by
  obtain ⟨lastRow, lastCol, hrow, hcol, hindices⟩ := indices_of_forWindow h
  rw [hindices, List.mem_map]
  constructor
  · rintro ⟨tile, hmem, rfl⟩
    exact ⟨tile.2, tile.1, (mem_tileGrid_iff_meets hmerit hrow hcol).1 hmem, rfl⟩
  · rintro ⟨tileCol, tileRow, hmeets, rfl⟩
    exact ⟨(tileRow, tileCol), (mem_tileGrid_iff_meets hmerit hrow hcol).2 hmeets, rfl⟩

end TilePlan

section

variable {metadata : CogMetadata} {window : RasterPixelWindow}

theorem RasterPixelWindow.Meets.tileOn {tileCol tileRow : ℕ}
    (h : window.Meets metadata tileCol tileRow) (hon : window.On metadata) :
    metadata.TileOn tileCol tileRow :=
  ⟨h.col_lt.trans_le hon.colEnd_le, h.row_lt.trans_le hon.rowEnd_le⟩

/-- Tiles on the raster have different indices. -/
theorem CogMetadata.tileIndex_injective (hmerit : metadata.Merit) {tileCol tileRow otherCol otherRow : ℕ}
    (hon : metadata.TileOn tileCol tileRow) (hother : metadata.TileOn otherCol otherRow)
    (h : metadata.tileIndex tileCol tileRow = metadata.tileIndex otherCol otherRow) :
    tileCol = otherCol ∧ tileRow = otherRow := by
  have hcol := hon.col_lt_tilesAcross hmerit
  have hcol' := hother.col_lt_tilesAcross hmerit
  have hpos : 0 < metadata.tilesAcross := by omega
  have hmod := congrArg (· % metadata.tilesAcross) h
  have hdiv := congrArg (· / metadata.tilesAcross) h
  simp only [CogMetadata.tileIndex, Nat.mul_add_mod_self_right, Nat.mod_eq_of_lt hcol,
    Nat.mod_eq_of_lt hcol'] at hmod
  simp only [CogMetadata.tileIndex, Nat.mul_comm _ metadata.tilesAcross, Nat.mul_add_div hpos,
    Nat.div_eq_of_lt hcol, Nat.div_eq_of_lt hcol', Nat.add_zero] at hdiv
  exact ⟨hmod, hdiv⟩

theorem TilePlan.nodup_indices {path : String} {plan : TilePlan} (hmerit : metadata.Merit)
    (hon : window.On metadata) (h : (forWindow metadata window path).run = .ok (.ok plan)) :
    plan.indices.Nodup := by
  obtain ⟨lastRow, lastCol, hrow, hcol, hindices⟩ := indices_of_forWindow h
  rw [hindices]
  apply List.Nodup.map_on _ (nodup_tileGrid _ _ _ _)
  intro tile htile other hother heq
  have hmeets := (mem_tileGrid_iff_meets hmerit hrow hcol).1 htile
  have hmeets' := (mem_tileGrid_iff_meets hmerit hrow hcol).1 hother
  obtain ⟨h2, h1⟩ := CogMetadata.tileIndex_injective hmerit (hmeets.tileOn hon)
    (hmeets'.tileOn hon) heq
  exact Prod.ext h1 h2

end

end Pourpoint
