import Pourpoint.Cog.Predictor
import Pourpoint.Cog.Robust
import Pourpoint.RasterCache

/-!
# Fetching a window

`prepare_window` reads the header of an object and resolves the tiles that meet the window of a bounding
box. `fetch_window_to_path` requests the bytes of these tiles, decodes them, and writes the window.

**Theorem (`fetchRemoteWindow_spec`).** Let an object hold the compressed tiles of a raster where its
tile index says. A prepared window is fetched exactly when its tiles are within the limits, the window
is not too large and a byte raster has a valid nodata text. Then each cell is the sample of the raster
at the offset of the window, and the bytes that were requested are those of the tiles of the window.

The ranges that are requested are those that the index gives (`resolveTiles_run_eq_ok`), so each
answer is a compressed tile. A compressed tile is decoded to its live part
(`decodeOwnedChunk_encoded`), and the live parts are assembled to the window (`decodeWindow_exact`).
-/

namespace Pourpoint

open Library

/-! ## Rasters of samples -/

/-- The samples of a raster by row and column, as their bits. The padding of the last tiles lies beyond
the width and the height. -/
inductive RasterSamples where
  | bytes (value : ℕ → ℕ → UInt8)
  | words (value : ℕ → ℕ → UInt32)

/-- The samples have the width of the type. -/
def RasterSamples.Fits : RasterSamples → CogSampleType → Prop
  | .bytes _, sampleType => sampleType.isByte = true
  | .words _, sampleType => sampleType.isByte = false

/-- The padded tile of a grid. -/
def PaddedRows.ofGrid {α : Type} (value : ℕ → ℕ → α) (tileCol tileRow : ℕ) : PaddedRows α where
  rows := (List.range 512).map fun row => (List.range 512).map fun col =>
    value (tileRow * 512 + row) (tileCol * 512 + col)
  length_rows := by rw [List.length_map, List.length_range]
  length_row := by
    intro row hrow
    obtain ⟨i, -, rfl⟩ := List.mem_map.1 hrow
    rw [List.length_map, List.length_range]

/-- The padded tile of a raster. -/
def RasterSamples.tile (samples : RasterSamples) (tileCol tileRow : ℕ) : TileSamples :=
  match samples with
  | .bytes value => .bytes (.ofGrid value tileCol tileRow)
  | .words value => .words (.ofGrid value tileCol tileRow)

/-- A word of a raster, with the nodata mapping of `i32` samples. -/
def CogMetadata.wordSample (metadata : CogMetadata) (word : UInt32) : F32 :=
  match metadata.sampleType with
  | .f32 => F32.ofBits word
  | _ =>
    if some (i32OfWord word) = parseI32 metadata.nodata then F32.nan else F32.ofInt (i32OfWord word)

/-- The sample of a raster at a pixel. -/
def RasterSamples.sample (samples : RasterSamples) (metadata : CogMetadata) (row col : ℕ) : Sample :=
  match samples with
  | .bytes value => .u8 (value row col)
  | .words value => .f32 (metadata.wordSample (value row col))

theorem RasterSamples.fits_tile {samples : RasterSamples} {sampleType : CogSampleType}
    (h : samples.Fits sampleType) (tileCol tileRow : ℕ) :
    (samples.tile tileCol tileRow).Fits sampleType := by
  cases samples <;> exact h

section Live

variable {α : Type}

theorem getElem?_flatten_mul {rows : List (List α)} {size i j : ℕ}
    (h : ∀ row ∈ rows, row.length = size) (hi : i < rows.length) (hj : j < size) :
    rows.flatten[i * size + j]? = rows[i][j]? := by
  rw [← drop_take_flatten h hi, List.getElem?_take_of_lt hj, List.getElem?_drop]

theorem PaddedRows.live_ofGrid (value : ℕ → ℕ → α) (tileCol tileRow : ℕ)
    {liveWidth liveHeight row col : ℕ} (hwidth : liveWidth ≤ 512) (hheight : liveHeight ≤ 512)
    (hrow : row < liveHeight) (hcol : col < liveWidth) :
    ((PaddedRows.ofGrid value tileCol tileRow).live liveWidth liveHeight)[row * liveWidth + col]? =
      some (value (tileRow * 512 + row) (tileCol * 512 + col)) := by
  have hlength : ∀ clipped ∈ ((PaddedRows.ofGrid value tileCol tileRow).rows.take liveHeight).map
      fun row => row.take liveWidth, clipped.length = liveWidth := by
    intro clipped hclipped
    obtain ⟨padded, hpadded, rfl⟩ := List.mem_map.1 hclipped
    rw [List.length_take, PaddedRows.length_row _ padded (List.mem_of_mem_take hpadded)]
    omega
  have hrows : row < (((PaddedRows.ofGrid value tileCol tileRow).rows.take liveHeight).map
      fun row => row.take liveWidth).length := by
    rw [List.length_map, List.length_take, PaddedRows.length_rows]
    omega
  have hrow512 : row < 512 := by omega
  have hcol512 : col < 512 := by omega
  rw [PaddedRows.live, getElem?_flatten_mul hlength hrows hcol]
  simp [PaddedRows.ofGrid, hcol, hcol512]

/-- The live part of a tile has the samples of the raster. -/
theorem get?_liveTile {metadata : CogMetadata} {samples : RasterSamples}
    (hfits : samples.Fits metadata.sampleType) (tileCol tileRow : ℕ)
    {liveWidth liveHeight row col : ℕ} (hwidth : liveWidth ≤ 512) (hheight : liveHeight ≤ 512)
    (hrow : row < liveHeight) (hcol : col < liveWidth) :
    (liveTile metadata liveWidth liveHeight (samples.tile tileCol tileRow)).get?
        (row * liveWidth + col) =
      some (samples.sample metadata (tileRow * 512 + row) (tileCol * 512 + col)) := by
  cases samples with
  | bytes value =>
    have hlive := PaddedRows.live_ofGrid value tileCol tileRow hwidth hheight hrow hcol
    rw [RasterSamples.tile, liveTile, OwnedTileData.get?, hlive]
    rfl
  | words value =>
    have hlive := PaddedRows.live_ofGrid value tileCol tileRow hwidth hheight hrow hcol
    rw [RasterSamples.tile, RasterSamples.sample, CogMetadata.wordSample, liveTile]
    cases hsample : metadata.sampleType with
    | u8 => simp [RasterSamples.Fits, hsample, CogSampleType.isByte] at hfits
    | i8 => simp [RasterSamples.Fits, hsample, CogSampleType.isByte] at hfits
    | f32 => simp only [OwnedTileData.get?, List.getElem?_map, hlive, Option.map_some]
    | i32 =>
      simp only [OwnedTileData.get?, normalizeI32Accumulation, List.getElem?_map, hlive,
        Option.map_some]

theorem mod_lt_live {tile size pixel : ℕ} (htile : 0 < tile) (hpixel : pixel < size) :
    pixel % tile < min tile (size - pixel / tile * tile) := by
  have hdiv := Nat.div_add_mod' pixel tile
  exact lt_min (Nat.mod_lt _ htile) (by omega)

/-- The sample of a pixel in the live part of its tile. -/
theorem get?_liveTile_pixel {metadata : CogMetadata} {samples : RasterSamples}
    (hmerit : metadata.Merit) (hfits : samples.Fits metadata.sampleType) {row col : ℕ}
    (hrow : row < metadata.height) (hcol : col < metadata.width) :
    (liveTile metadata (metadata.liveWidth (col / metadata.tileWidth))
        (metadata.liveHeight (row / metadata.tileHeight))
        (samples.tile (col / metadata.tileWidth) (row / metadata.tileHeight))).get?
        (metadata.pixelPosition row col) = some (samples.sample metadata row col) := by
  have hlive := get?_liveTile hfits (col / metadata.tileWidth) (row / metadata.tileHeight)
    ((min_le_left _ _).trans hmerit.tileWidth.le) ((min_le_left _ _).trans hmerit.tileHeight.le)
    (mod_lt_live hmerit.tileHeight_pos hrow) (mod_lt_live hmerit.tileWidth_pos hcol)
  have hrowEq : row / metadata.tileHeight * 512 + row % metadata.tileHeight = row := by
    rw [hmerit.tileHeight]
    exact Nat.div_add_mod' row 512
  have hcolEq : col / metadata.tileWidth * 512 + col % metadata.tileWidth = col := by
    rw [hmerit.tileWidth]
    exact Nat.div_add_mod' col 512
  rw [hrowEq, hcolEq] at hlive
  exact hlive

end Live

/-! ## Fetching -/

/-- `PreparedCogWindow`, with the bytes that were read for it. -/
structure PreparedRemoteWindow extends PreparedCogWindow where
  headerBytes : ℕ
  deriving DecidableEq

/-- `prepare_window`, when the size of the object is known. -/
def prepareRemoteWindow (store : RangeStore) (path : String) (objectSize : ℕ) (kind : RasterKind)
    (bbox : Rect) : Remote PreparedRemoteWindow := do
  let header ← readHeader store path objectSize kind
  let window ← unsupported path (RasterPixelWindow.fromBbox .f64 header.metadata bbox)
  let geometry ← TilePlan.forWindow header.metadata window path
  let (plan, indexBytes) ← resolveTilePlan store path header.metadata.index geometry objectSize
  let headerBytes ← Fallible.orElse (remoteLayoutError path "TIFF header bytes overflow")
    (checkedAdd 64 header.bytesRead indexBytes)
  pure ⟨⟨header.metadata, window, plan⟩, headerBytes⟩

/-- The check of one answer. -/
def checkChunk (path : String) (chunk : ResolvedTile × List UInt8) : Fallible CacheError Unit := do
  let expected ← subUnsigned chunk.1.rangeEnd chunk.1.rangeStart
  Fallible.failIf (chunk.2.length ≠ expected) (remoteLayoutError path
    s!"TIFF compressed chunk {chunk.1.index} returned {chunk.2.length} bytes, expected {expected}")

/-- The check of the lengths of the answers. -/
def checkChunks (path : String) (chunks : List (ResolvedTile × List UInt8)) :
    Fallible CacheError Unit := chunks.forM (checkChunk path)

/-- The answers to the requests for the tiles of a plan. -/
def fetchChunks (store : RangeStore) (path : String) (plan : ResolvedTilePlan) :
    Remote (List (List UInt8)) := do
  let ranges ← validateCompressedRanges path plan
  let compressed ← getRanges store path ranges
  (Fallible.failIf (compressed.length ≠ plan.tiles.length) (remoteLayoutError path
    s!"TIFF compressed response count {compressed.length}, expected {plan.tiles.length}"))
  checkChunks path (plan.tiles.zip compressed)
  pure compressed

/-- The data and the nodata text that are written, and the numbers of `LocalizedRasterWindow`. -/
structure FetchedWindow where
  data : WindowData
  nodata : String
  headerBytes : ℕ
  tileBytes : ℕ
  tileCount : ℕ
  windowPixels : ℕ

/-- `fetch_window_to_path`, up to the file. -/
def fetchRemoteWindow (inflate : List UInt8 → ℕ → Except String (List UInt8)) (store : RangeStore)
    (path : String) (prepared : PreparedRemoteWindow) : Remote FetchedWindow := do
  let compressed ← fetchChunks store path prepared.plan
  let data ← decodeWindow inflate compressed prepared.metadata prepared.window prepared.plan path
  let windowPixels ← Fallible.orElse (remoteLayoutError path "TIFF window pixel count overflow")
    (checkedMul 64 prepared.window.width prepared.window.height)
  pure ⟨data, normalizedNodata prepared.metadata, prepared.headerBytes, prepared.plan.compressedBytes,
    prepared.plan.tiles.length, windowPixels⟩

/-! ## What a prepared window is -/

/-- The range of a tile that the index of a raster gives. -/
def CogMetadata.indexedTile (metadata : CogMetadata) (content : List UInt8) (index : ℕ) : ResolvedTile where
  index := index
  rangeStart := metadata.index.tileOffsets.usedValue content index
  rangeEnd := metadata.index.tileOffsets.usedValue content index +
    metadata.index.tileByteCounts.usedValue content index

/-- The bytes of a range that a tile has. -/
def ResolvedTile.range (tile : ResolvedTile) : ByteRange := ⟨tile.rangeStart, tile.rangeEnd⟩

/-- The number of bytes of a tile. -/
def ResolvedTile.byteCount (tile : ResolvedTile) : ℕ := tile.rangeEnd - tile.rangeStart

/-- A window on an accepted raster with the indexed ranges of its tiles. -/
structure PreparedCogWindow.Planned (prepared : PreparedCogWindow) (content : List UInt8)
    (path : String) : Prop where
  merit : prepared.metadata.Merit
  on : prepared.window.On prepared.metadata
  objectSize : prepared.plan.objectSize = content.length
  compressedBytes : prepared.plan.compressedBytes = (prepared.plan.tiles.map ResolvedTile.byteCount).sum
  tiles : ∃ geometry, (TilePlan.forWindow prepared.metadata prepared.window path).run =
      .ok (.ok geometry) ∧
    prepared.plan.tiles = geometry.indices.map (prepared.metadata.indexedTile content)

section Prepared

variable {path : String} {content : List UInt8}

/-- The byte counts are summed up. -/
theorem total_of_resolveTiles {tileOffsets tileByteCounts : IndexDescriptor} {indices : List ℕ}
    {responses : List (List UInt8)} {position compressedBytes total : ℕ} {tiles : List ResolvedTile}
    (h : (resolveTiles path tileOffsets tileByteCounts responses indices position
      compressedBytes).run = .ok (.ok (tiles, total))) :
    total = compressedBytes + (tiles.map ResolvedTile.byteCount).sum := by
  induction indices generalizing position compressedBytes tiles total with
  | nil =>
    cases h
    rfl
  | cons index indices ih =>
    unfold resolveTiles at h
    obtain ⟨offset, -, h⟩ := Fallible.bind_run_eq_ok h
    obtain ⟨byteCount, -, h⟩ := Fallible.bind_run_eq_ok h
    obtain ⟨stop, hstop, h⟩ := Fallible.bind_run_eq_ok h
    obtain ⟨sum, hsum, h⟩ := Fallible.bind_run_eq_ok h
    obtain ⟨⟨rest, total'⟩, hrest, h⟩ := Fallible.bind_run_eq_ok h
    cases h
    obtain ⟨rfl, -⟩ := checkedAdd_eq_some (Fallible.orElse_run_eq_ok hstop)
    obtain ⟨rfl, -⟩ := checkedAdd_eq_some (Fallible.orElse_run_eq_ok hsum)
    rw [ih hrest, List.map_cons, List.sum_cons, ResolvedTile.byteCount, Nat.add_sub_cancel_left,
      Nat.add_assoc]

theorem indexResponses_ofBytes {ranges : List ByteRange} {responses : List (List UInt8)}
    (h : (indexResponses (.ofBytes content) path ranges).outcome = .ok (.ok responses)) :
    responses = ranges.map (byteSlice content) := by
  unfold indexResponses at h
  split_ifs at h with hempty
  · cases h
    rw [List.isEmpty_iff.1 hempty]
    rfl
  · have hanswers := getRanges_outcome_eq_ok h
    cases hanswers
    rfl

/-- A resolved plan has the indexed ranges of its tiles. -/
theorem resolved_of_resolveTilePlan {metadata : CogMetadata} {geometry : TilePlan}
    {plan : ResolvedTilePlan} {indexBytes : ℕ}
    (h : (resolveTilePlan (.ofBytes content) path metadata.index geometry content.length).outcome =
      .ok (.ok (plan, indexBytes))) :
    plan.objectSize = content.length ∧
      plan.compressedBytes = (plan.tiles.map ResolvedTile.byteCount).sum ∧
      plan.tiles = geometry.indices.map (metadata.indexedTile content) := by
  unfold resolveTilePlan at h
  obtain ⟨ranges, hranges, h⟩ := Traced.bind_outcome_eq_ok h
  obtain ⟨responses, hresponses, h⟩ := Traced.bind_outcome_eq_ok h
  obtain ⟨_, -, h⟩ := Traced.bind_outcome_eq_ok h
  obtain ⟨⟨tiles, compressedBytes⟩, htiles, h⟩ := Traced.bind_outcome_eq_ok h
  obtain ⟨_, -, h⟩ := Traced.bind_outcome_eq_ok h
  cases h
  have hanswers := indexResponses_ofBytes hresponses
  exact ⟨rfl, (total_of_resolveTiles htiles).trans (Nat.zero_add _),
    (resolveTiles_run_eq_ok hranges (by rw [List.drop_zero, hanswers]) htiles).1⟩

/-- The steps of a preparation that returns. -/
theorem steps_of_prepareRemoteWindow {store : RangeStore} {objectSize : ℕ} {kind : RasterKind}
    {bbox : Rect} {prepared : PreparedRemoteWindow}
    (h : (prepareRemoteWindow store path objectSize kind bbox).outcome = .ok (.ok prepared)) :
    ∃ header geometry indexBytes,
      (readHeader store path objectSize kind).outcome = .ok (.ok header) ∧
      header.metadata = prepared.metadata ∧
      (unsupported path (RasterPixelWindow.fromBbox .f64 prepared.metadata bbox)).run =
        .ok (.ok prepared.window) ∧
      (TilePlan.forWindow prepared.metadata prepared.window path).run = .ok (.ok geometry) ∧
      (resolveTilePlan store path prepared.metadata.index geometry objectSize).outcome =
        .ok (.ok (prepared.plan, indexBytes)) := by
  unfold prepareRemoteWindow at h
  obtain ⟨header, hheader, h⟩ := Traced.bind_outcome_eq_ok h
  obtain ⟨window, hwindow, h⟩ := Traced.bind_outcome_eq_ok h
  obtain ⟨geometry, hgeometry, h⟩ := Traced.bind_outcome_eq_ok h
  obtain ⟨⟨plan, indexBytes⟩, hplan, h⟩ := Traced.bind_outcome_eq_ok h
  obtain ⟨headerBytes, -, h⟩ := Traced.bind_outcome_eq_ok h
  cases h
  exact ⟨header, geometry, indexBytes, hheader, rfl, hwindow, hgeometry, hplan⟩

theorem planned_of_prepareRemoteWindow {kind : RasterKind} {bbox : Rect}
    {prepared : PreparedRemoteWindow}
    (h : (prepareRemoteWindow (.ofBytes content) path content.length kind bbox).outcome =
      .ok (.ok prepared)) : prepared.Planned content path := by
  obtain ⟨header, geometry, indexBytes, hheader, hmetadata, hwindow, hgeometry, hplan⟩ :=
    steps_of_prepareRemoteWindow h
  unfold readHeader at hheader
  obtain ⟨layout, -, hheader⟩ := Traced.bind_outcome_eq_ok hheader
  obtain ⟨metadata, -, hheader⟩ := Traced.bind_outcome_eq_ok hheader
  obtain ⟨_, hvalid, hheader⟩ := Traced.bind_outcome_eq_ok hheader
  cases hheader
  obtain rfl : metadata = prepared.metadata := hmetadata
  obtain ⟨hsize, hbytes, htiles⟩ := resolved_of_resolveTilePlan hplan
  exact ⟨merit_of_validateMeritLayout hvalid,
    RasterPixelWindow.on_of_fromBbox (unsupported_run_eq_ok hwindow), hsize, hbytes, geometry, hgeometry,
    htiles⟩

end Prepared

/-! ## The compressed tiles -/

/-- The limits on the range of a tile. -/
structure ResolvedTile.WithinLimits (tile : ResolvedTile) (objectSize : ℕ) : Prop where
  start_lt : tile.rangeStart < tile.rangeEnd
  byteCount_le : tile.byteCount ≤ maxCompressedChunkBytes
  end_le : tile.rangeEnd ≤ objectSize

section Chunks

variable {path : String} {content : List UInt8}

theorem validateTiles_run_eq_ok_iff {objectSize aggregate : ℕ} {tiles : List ResolvedTile}
    {ranges : List ByteRange} (hle : aggregate ≤ maxCoveredChunkBytes) :
    (validateTiles path objectSize tiles aggregate).run = .ok (.ok ranges) ↔
      (∀ tile ∈ tiles, tile.WithinLimits objectSize) ∧
        aggregate + (tiles.map ResolvedTile.byteCount).sum ≤ maxCoveredChunkBytes ∧
        ranges = tiles.map ResolvedTile.range := by
  induction tiles generalizing aggregate ranges with
  | nil =>
    unfold validateTiles
    rw [Fallible.pure_run_eq_ok_iff]
    simp [hle, eq_comm]
  | cons tile tiles ih =>
    unfold validateTiles
    constructor
    · intro h
      obtain ⟨_, hstart, h⟩ := Fallible.bind_run_eq_ok h
      obtain ⟨bytes, hbytes, h⟩ := Fallible.bind_run_eq_ok h
      obtain ⟨_, hsize, h⟩ := Fallible.bind_run_eq_ok h
      obtain ⟨sum, hsum, h⟩ := Fallible.bind_run_eq_ok h
      obtain ⟨_, hcovered, h⟩ := Fallible.bind_run_eq_ok h
      obtain ⟨_, hend, h⟩ := Fallible.bind_run_eq_ok h
      obtain ⟨rest, hrest, h⟩ := Fallible.bind_run_eq_ok h
      cases h
      obtain ⟨rfl, -⟩ := checkedSub_eq_some (Fallible.orElse_run_eq_ok hbytes)
      obtain ⟨rfl, -⟩ := checkedAdd_eq_some (Fallible.orElse_run_eq_ok hsum)
      obtain ⟨htiles, htotal, rfl⟩ := (ih (not_lt.1 (Fallible.failIf_run_eq_ok hcovered))).1 hrest
      refine ⟨List.forall_mem_cons.2 ⟨⟨not_le.1 (Fallible.failIf_run_eq_ok hstart),
        not_lt.1 (Fallible.failIf_run_eq_ok hsize), not_lt.1 (Fallible.failIf_run_eq_ok hend)⟩, htiles⟩,
        ?_, rfl⟩
      rw [List.map_cons, List.sum_cons, ← Nat.add_assoc]
      exact htotal
    · rintro ⟨htiles, htotal, rfl⟩
      obtain ⟨htile, htiles⟩ := List.forall_mem_cons.1 htiles
      rw [List.map_cons, List.sum_cons, ← Nat.add_assoc] at htotal
      have hsum : aggregate + tile.byteCount ≤ maxCoveredChunkBytes := (Nat.le_add_right _ _).trans htotal
      have hrest := (ih hsum).2 ⟨htiles, htotal, rfl⟩
      have hfits : aggregate + tile.byteCount < 2 ^ 64 := hsum.trans_lt (by decide)
      refine Fallible.bind_run_eq_ok_iff.2 ⟨(), Fallible.failIf_run_eq_ok_iff.2 htile.start_lt.not_ge, ?_⟩
      refine Fallible.bind_run_eq_ok_iff.2
        ⟨_, Fallible.orElse_run_eq_ok_iff.2 (if_pos htile.start_lt.le), ?_⟩
      refine Fallible.bind_run_eq_ok_iff.2
        ⟨(), Fallible.failIf_run_eq_ok_iff.2 htile.byteCount_le.not_gt, ?_⟩
      refine Fallible.bind_run_eq_ok_iff.2 ⟨_, Fallible.orElse_run_eq_ok_iff.2 (if_pos hfits), ?_⟩
      refine Fallible.bind_run_eq_ok_iff.2 ⟨(), Fallible.failIf_run_eq_ok_iff.2 hsum.not_gt, ?_⟩
      refine Fallible.bind_run_eq_ok_iff.2 ⟨(), Fallible.failIf_run_eq_ok_iff.2 htile.end_le.not_gt, ?_⟩
      exact Fallible.bind_run_eq_ok_iff.2 ⟨_, hrest, rfl⟩

theorem length_byteSlice {tile : ResolvedTile} (h : tile.rangeEnd ≤ content.length) :
    (byteSlice content tile.range).length = tile.byteCount := by
  show ((content.drop tile.rangeStart).take (tile.rangeEnd - tile.rangeStart)).length = _
  rw [List.length_take, List.length_drop, ResolvedTile.byteCount]
  omega

theorem checkChunks_byteSlice {tiles : List ResolvedTile}
    (h : ∀ tile ∈ tiles, tile.WithinLimits content.length) :
    (checkChunks path (tiles.zip (tiles.map fun tile => byteSlice content tile.range))).run =
      .ok (.ok ()) := by
  have hzip : (tiles.map id).zip (tiles.map fun tile => byteSlice content tile.range) =
      tiles.map fun tile => (tile, byteSlice content tile.range) := List.zip_map'
  rw [List.map_id] at hzip
  refine Fallible.forM_run_eq_ok_iff.2 fun chunk hchunk => ?_
  rw [hzip] at hchunk
  obtain ⟨tile, htile, rfl⟩ := List.mem_map.1 hchunk
  refine Fallible.bind_run_eq_ok_iff.2
    ⟨_, Fallible.lift_run_eq_ok_iff.2 (subUnsigned_eq_ok (h tile htile).start_lt.le), ?_⟩
  exact Fallible.failIf_run_eq_ok_iff.2 (not_not.2 (length_byteSlice (h tile htile).end_le))

/-- **The tiles of a plan are fetched** exactly when they are within the limits. -/
theorem fetchChunks_outcome_eq_ok_iff {plan : ResolvedTilePlan} {compressed : List (List UInt8)}
    (hsize : plan.objectSize = content.length) :
    (fetchChunks (.ofBytes content) path plan).outcome = .ok (.ok compressed) ↔
      (∀ tile ∈ plan.tiles, tile.WithinLimits content.length) ∧
        (plan.tiles.map ResolvedTile.byteCount).sum ≤ maxCoveredChunkBytes ∧
        compressed = plan.tiles.map fun tile => byteSlice content tile.range := by
  have hvalidate : ∀ ranges, (validateCompressedRanges path plan).run = .ok (.ok ranges) ↔ _ :=
    fun ranges => validateTiles_run_eq_ok_iff (Nat.zero_le _)
  rw [hsize, Nat.zero_add] at hvalidate
  unfold fetchChunks
  constructor
  · intro h
    obtain ⟨ranges, hranges, h⟩ := Traced.bind_outcome_eq_ok h
    obtain ⟨answers, hanswers, h⟩ := Traced.bind_outcome_eq_ok h
    obtain ⟨_, -, h⟩ := Traced.bind_outcome_eq_ok h
    obtain ⟨_, -, h⟩ := Traced.bind_outcome_eq_ok h
    cases h
    obtain ⟨htiles, htotal, rfl⟩ := (hvalidate ranges).1 hranges
    have hanswers := getRanges_outcome_eq_ok hanswers
    cases hanswers
    exact ⟨htiles, htotal, List.map_map⟩
  · rintro ⟨htiles, htotal, rfl⟩
    refine Traced.bind_outcome_eq_ok_iff.2 ⟨_, (hvalidate _).2 ⟨htiles, htotal, rfl⟩, ?_⟩
    have hanswers : (getRanges (.ofBytes content) path (plan.tiles.map ResolvedTile.range)).outcome =
        .ok (.ok ((plan.tiles.map ResolvedTile.range).map (byteSlice content))) := rfl
    rw [List.map_map] at hanswers
    refine Traced.bind_outcome_eq_ok_iff.2 ⟨_, hanswers, ?_⟩
    refine Traced.bind_outcome_eq_ok_iff.2
      ⟨(), Fallible.failIf_run_eq_ok_iff.2 (not_not.2 (List.length_map _)), ?_⟩
    exact Traced.bind_outcome_eq_ok_iff.2 ⟨(), checkChunks_byteSlice htiles, rfl⟩

/-- The tiles that are fetched are requested once each. -/
theorem log_fetchChunks {store : RangeStore} {plan : ResolvedTilePlan}
    {compressed : List (List UInt8)}
    (h : (fetchChunks store path plan).outcome = .ok (.ok compressed)) :
    (fetchChunks store path plan).log = plan.tiles.map ResolvedTile.range := by
  unfold fetchChunks at h ⊢
  obtain ⟨ranges, hranges, h⟩ := Traced.bind_outcome_eq_ok h
  obtain ⟨answers, hanswers, h⟩ := Traced.bind_outcome_eq_ok h
  obtain ⟨_, hcount, h⟩ := Traced.bind_outcome_eq_ok h
  obtain ⟨_, hcheck, h⟩ := Traced.bind_outcome_eq_ok h
  obtain ⟨-, -, rfl⟩ := (validateTiles_run_eq_ok_iff (Nat.zero_le _)).1 hranges
  rw [Traced.bind_of_ok hranges, Traced.bind_of_ok hanswers, Traced.bind_of_ok hcount,
    Traced.bind_of_ok hcheck]
  show [] ++ (plan.tiles.map ResolvedTile.range ++ ([] ++ ([] ++ []))) = _
  simp

end Chunks

/-! ## The decoded window -/

/-- The object holds the compressed tiles of a raster where its tile index says. -/
structure EncodesRaster (inflate : List UInt8 → ℕ → Except String (List UInt8)) (content : List UInt8)
    (metadata : CogMetadata) (samples : RasterSamples) : Prop where
  fits : samples.Fits metadata.sampleType
  inflated : ∀ tileCol tileRow, metadata.TileOn tileCol tileRow →
    inflate (byteSlice content
        (metadata.indexedTile content (metadata.tileIndex tileCol tileRow)).range)
      (metadata.paddedBytes + 1) = .ok (encodeTile metadata (samples.tile tileCol tileRow))

/-- A raster of bytes has a valid nodata text. -/
def CogMetadata.NodataValid (metadata : CogMetadata) : Prop :=
  match metadata.sampleType with
  | .u8 => (parseU8 metadata.nodata).isSome
  | .i8 => (parseI8AsU8 metadata.nodata).isSome
  | .f32 | .i32 => True

section Decoded

variable {inflate : List UInt8 → ℕ → Except String (List UInt8)} {metadata : CogMetadata}
  {window : RasterPixelWindow} {path : String} {plan : TilePlan} {resolved : ResolvedTilePlan}
  {compressed : List (List UInt8)}

/-- An encoded tile is decoded to its live part. -/
theorem decodeOwnedChunk_encoded (h : metadata.Merit) {tileCol tileRow : ℕ}
    (hon : metadata.TileOn tileCol tileRow) {samples : TileSamples}
    (hfits : samples.Fits metadata.sampleType) {bytes : List UInt8}
    (hinflate : inflate bytes (metadata.paddedBytes + 1) = .ok (encodeTile metadata samples))
    (path : String) :
    (decodeOwnedChunk inflate bytes metadata (metadata.tileIndex tileCol tileRow) path).run =
      .ok (.ok (liveTile metadata (metadata.liveWidth tileCol) (metadata.liveHeight tileRow)
        samples)) := by
  have hlength := TileSamples.length_encodeTile hfits
  have hwidth : metadata.liveWidth tileCol ≤ 512 := (min_le_left _ _).trans h.tileWidth.le
  have hreturns : (decodeOwnedChunk inflate bytes metadata (metadata.tileIndex tileCol tileRow)
      path).Returns fun data => data = liveTile metadata (metadata.liveWidth tileCol)
        (metadata.liveHeight tileRow) samples := by
    cases samples with
    | bytes tile =>
      apply decodeOwnedChunk_returns_of h hon hinflate hlength (undoPredictor_bytes h hfits tile)
      rintro _ rfl
      exact clipTile_bytes h hfits tile hwidth _
    | words tile =>
      apply decodeOwnedChunk_returns_of h hon hinflate hlength (undoPredictor_words h hfits tile)
      rintro _ rfl
      exact clipTile_words h hfits tile hwidth _
  obtain ⟨data, hrun, rfl⟩ := hreturns
  exact hrun

/-- The cells of a decoded window are those of the source raster. -/
theorem decodeWindow_exact (hmerit : metadata.Merit) (hon : window.On metadata)
    (hplan : (TilePlan.forWindow metadata window path).run = .ok (.ok plan))
    (hresolved : resolved.tiles.map (·.index) = plan.indices)
    (hlen : compressed.length = resolved.tiles.length) :
    (decodeWindow inflate compressed metadata window resolved path).Safe
      (WindowExact inflate compressed metadata window plan resolved path) := by
  unfold decodeWindow
  cases htype : metadata.sampleType with
  | u8 =>
    refine Fallible.safe_bind (directionNodataByte_safe _ _ _) fun nodata _ => ?_
    exact decodeU8_exact hmerit hon hplan hresolved hlen (by rw [htype]; rfl) nodata
  | i8 =>
    refine Fallible.safe_bind (directionNodataByte_safe _ _ _) fun nodata _ => ?_
    exact decodeU8_exact hmerit hon hplan hresolved hlen (by rw [htype]; rfl) nodata
  | f32 => exact decodeF32_exact hmerit hon hplan hresolved hlen (by rw [htype]; rfl) _
  | i32 => exact decodeF32_exact hmerit hon hplan hresolved hlen (by rw [htype]; rfl) _

theorem le_of_windowAllocationLen {width height sampleWidth length : ℕ}
    (h : (windowAllocationLen path width height sampleWidth).run = .ok (.ok length)) :
    width * height * sampleWidth ≤ maxWindowAllocationBytes := by
  unfold windowAllocationLen at h
  obtain ⟨elements, helements, h⟩ := Fallible.bind_run_eq_ok h
  obtain ⟨bytes, hbytes, h⟩ := Fallible.bind_run_eq_ok h
  obtain ⟨_, hceiling, -⟩ := Fallible.bind_run_eq_ok h
  obtain ⟨rfl, -⟩ := checkedMul_eq_some (Fallible.orElse_run_eq_ok helements)
  obtain ⟨rfl, -⟩ := checkedMul_eq_some (Fallible.orElse_run_eq_ok hbytes)
  exact not_lt.1 (Fallible.failIf_run_eq_ok hceiling)

/-- What a decoded window has passed. -/
theorem valid_of_decodeWindow {data : WindowData}
    (h : (decodeWindow inflate compressed metadata window resolved path).run = .ok (.ok data)) :
    window.width * window.height * metadata.sampleType.sampleWidth ≤ maxWindowAllocationBytes ∧
      metadata.NodataValid := by
  unfold decodeWindow at h
  unfold CogMetadata.NodataValid
  cases htype : metadata.sampleType with
  | u8 =>
    rw [htype] at h
    obtain ⟨nodata, hnodata, h⟩ := Fallible.bind_run_eq_ok h
    obtain ⟨length, hlength, -⟩ := Fallible.bind_run_eq_ok h
    exact ⟨le_of_windowAllocationLen hlength,
      Option.isSome_of_eq_some (Fallible.orElse_run_eq_ok hnodata)⟩
  | i8 =>
    rw [htype] at h
    obtain ⟨nodata, hnodata, h⟩ := Fallible.bind_run_eq_ok h
    obtain ⟨length, hlength, -⟩ := Fallible.bind_run_eq_ok h
    exact ⟨le_of_windowAllocationLen hlength,
      Option.isSome_of_eq_some (Fallible.orElse_run_eq_ok hnodata)⟩
  | f32 =>
    rw [htype] at h
    obtain ⟨length, hlength, -⟩ := Fallible.bind_run_eq_ok h
    exact ⟨le_of_windowAllocationLen hlength, trivial⟩
  | i32 =>
    rw [htype] at h
    obtain ⟨length, hlength, -⟩ := Fallible.bind_run_eq_ok h
    exact ⟨le_of_windowAllocationLen hlength, trivial⟩

theorem directionNodataByte_returns (h : metadata.NodataValid)
    (htype : metadata.sampleType.isByte = true) :
    (directionNodataByte metadata.sampleType metadata.nodata path).Returns fun _ => True := by
  unfold CogMetadata.NodataValid at h
  unfold directionNodataByte
  cases hsample : metadata.sampleType with
  | u8 =>
    rw [hsample] at h
    obtain ⟨value, hvalue⟩ := Option.isSome_iff_exists.1 h
    exact ⟨value, Fallible.orElse_run_eq_ok_iff.2 hvalue, trivial⟩
  | i8 =>
    rw [hsample] at h
    obtain ⟨value, hvalue⟩ := Option.isSome_iff_exists.1 h
    exact ⟨value, Fallible.orElse_run_eq_ok_iff.2 hvalue, trivial⟩
  | f32 => simp [hsample, CogSampleType.isByte] at htype
  | i32 => simp [hsample, CogSampleType.isByte] at htype

end Decoded

/-! ## The window of a raster -/

namespace PreparedCogWindow

/-- What a prepared window needs to be fetched. -/
structure Fetchable (prepared : PreparedCogWindow) (content : List UInt8) : Prop where
  tiles : ∀ tile ∈ prepared.plan.tiles, tile.WithinLimits content.length
  covered : (prepared.plan.tiles.map ResolvedTile.byteCount).sum ≤ maxCoveredChunkBytes
  allocation : prepared.window.width * prepared.window.height *
    prepared.metadata.sampleType.sampleWidth ≤ maxWindowAllocationBytes
  nodata : prepared.metadata.NodataValid

/-- The tiles are within the limits and their bytes are decoded to the data. -/
structure DecodesTo (prepared : PreparedCogWindow) (inflate : List UInt8 → ℕ → Except String (List UInt8))
    (content : List UInt8) (path : String) (data : WindowData) : Prop where
  tiles : ∀ tile ∈ prepared.plan.tiles, tile.WithinLimits content.length
  covered : (prepared.plan.tiles.map ResolvedTile.byteCount).sum ≤ maxCoveredChunkBytes
  decoded : (decodeWindow inflate (prepared.plan.tiles.map fun tile => byteSlice content tile.range)
    prepared.metadata prepared.window prepared.plan path).run = .ok (.ok data)

/-- Each cell of the window is the sample of the raster at the offset of the window. -/
structure Shows (prepared : PreparedCogWindow) (samples : RasterSamples) (data : WindowData) : Prop where
  length_eq : data.length = prepared.window.height * prepared.window.width
  cells : ∀ row col, row < prepared.window.height → col < prepared.window.width →
    data.get? (row * prepared.window.width + col) =
      some (samples.sample prepared.metadata (prepared.window.rowOff + row)
        (prepared.window.colOff + col))

section

variable {inflate : List UInt8 → ℕ → Except String (List UInt8)} {content : List UInt8} {path : String}
  {samples : RasterSamples} {prepared : PreparedCogWindow}

theorem Planned.indices_eq (h : prepared.Planned content path) :
    ∃ geometry, (TilePlan.forWindow prepared.metadata prepared.window path).run = .ok (.ok geometry) ∧
      prepared.plan.tiles = geometry.indices.map (prepared.metadata.indexedTile content) ∧
      prepared.plan.tiles.map (·.index) = geometry.indices := by
  obtain ⟨geometry, hgeometry, htiles⟩ := h.tiles
  refine ⟨geometry, hgeometry, htiles, ?_⟩
  rw [htiles, List.map_map]
  exact List.map_id _

/-- **The cells.** The window that is decoded from the bytes of its tiles has the samples of the
raster. -/
theorem DecodesTo.shows {data : WindowData} (h : prepared.DecodesTo inflate content path data)
    (hplanned : prepared.Planned content path)
    (hencodes : EncodesRaster inflate content prepared.metadata samples) :
    prepared.Shows samples data := by
  obtain ⟨geometry, hgeometry, htiles, hindices⟩ := hplanned.indices_eq
  obtain ⟨result, hresult, hexact⟩ := decodeWindow_exact hplanned.merit hplanned.on hgeometry hindices
    (List.length_map _)
  have hexact := hexact data (Except.ok.inj (hresult.symm.trans h.decoded))
  refine ⟨hexact.length_eq, fun row col hrow hcol => ?_⟩
  obtain ⟨decoded, hdecoded, hcells⟩ := hexact.samples
  obtain ⟨sample, hsource, hsample⟩ := hcells row col hrow hcol
  have hmeets := meets_pixelTile hplanned.merit hrow hcol
  have hon := hmeets.tileOn hplanned.on
  have hpixelRow : prepared.window.rowOff + row < prepared.metadata.height :=
    (Nat.add_lt_add_left hrow _).trans_le hplanned.on.rowEnd_le
  have hpixelCol : prepared.window.colOff + col < prepared.metadata.width :=
    (Nat.add_lt_add_left hcol _).trans_le hplanned.on.colEnd_le
  -- The tile of the pixel is planned, and its bytes are those of the raster.
  have hmem := (TilePlan.mem_indices_iff hplanned.merit hgeometry).2 ⟨_, _, hmeets, rfl⟩
  have hzip : ∀ index ∈ geometry.indices, (prepared.metadata.indexedTile content index,
      byteSlice content (prepared.metadata.indexedTile content index).range) ∈
      prepared.plan.tiles.zip (prepared.plan.tiles.map fun tile => byteSlice content tile.range) := by
    intro index hindex
    rw [htiles, List.map_map, List.zip_map']
    exact List.mem_map.2 ⟨index, hindex, rfl⟩
  have hchunk := decodeOwnedChunk_encoded hplanned.merit hon (RasterSamples.fits_tile hencodes.fits _ _)
    (hencodes.inflated _ _ hon) path
  have htile := Except.ok.inj (Except.ok.inj ((hdecoded _ (hzip _ hmem)).symm.trans hchunk))
  rw [hsample, ← hsource, ← get?_liveTile_pixel hplanned.merit hencodes.fits hpixelRow hpixelCol,
    sourceSample]
  exact congrArg (fun tile : OwnedTileData => tile.get? _) htile

/-- The window of an encoded raster is decoded within the limits. -/
theorem exists_decodesTo_iff (hplanned : prepared.Planned content path)
    (hencodes : EncodesRaster inflate content prepared.metadata samples) :
    (∃ data, prepared.DecodesTo inflate content path data) ↔ prepared.Fetchable content := by
  constructor
  · rintro ⟨data, h⟩
    obtain ⟨hallocation, hnodata⟩ := valid_of_decodeWindow h.decoded
    exact ⟨h.tiles, h.covered, hallocation, hnodata⟩
  · intro h
    obtain ⟨geometry, hgeometry, htiles, hindices⟩ := hplanned.indices_eq
    have hinflated : ∀ bytes ∈ prepared.plan.tiles.map fun tile => byteSlice content tile.range,
        ∃ inflated, inflate bytes (prepared.metadata.paddedBytes + 1) = .ok inflated ∧
          inflated.length = prepared.metadata.paddedBytes := by
      intro bytes hbytes
      rw [htiles, List.map_map] at hbytes
      obtain ⟨index, hindex, rfl⟩ := List.mem_map.1 hbytes
      obtain ⟨tileCol, tileRow, hmeets, rfl⟩ :=
        (TilePlan.mem_indices_iff hplanned.merit hgeometry).1 hindex
      exact ⟨_, hencodes.inflated tileCol tileRow (hmeets.tileOn hplanned.on),
        TileSamples.length_encodeTile (RasterSamples.fits_tile hencodes.fits _ _)⟩
    obtain ⟨data, hdata, -⟩ := decodeWindow_returns hplanned.merit hplanned.on hgeometry hindices
      (List.length_map _) h.allocation (directionNodataByte_returns h.nodata) hinflated
    exact ⟨data, h.tiles, h.covered, hdata⟩

/-- The ranges of a plan are those of the tiles that meet the window. -/
theorem Planned.mem_ranges_iff (h : prepared.Planned content path) {request : ByteRange} :
    request ∈ prepared.plan.tiles.map ResolvedTile.range ↔ ∃ tileCol tileRow,
      prepared.window.Meets prepared.metadata tileCol tileRow ∧
        request = (prepared.metadata.indexedTile content
          (prepared.metadata.tileIndex tileCol tileRow)).range := by
  obtain ⟨geometry, hgeometry, htiles⟩ := h.tiles
  rw [htiles, List.map_map, List.mem_map]
  constructor
  · rintro ⟨index, hindex, rfl⟩
    obtain ⟨tileCol, tileRow, hmeets, rfl⟩ := (TilePlan.mem_indices_iff h.merit hgeometry).1 hindex
    exact ⟨tileCol, tileRow, hmeets, rfl⟩
  · rintro ⟨tileCol, tileRow, hmeets, rfl⟩
    exact ⟨_, (TilePlan.mem_indices_iff h.merit hgeometry).2 ⟨_, _, hmeets, rfl⟩, rfl⟩

end

end PreparedCogWindow

section Window

variable {inflate : List UInt8 → ℕ → Except String (List UInt8)} {content : List UInt8} {path : String}
  {prepared : PreparedRemoteWindow}

theorem checkedMul_windowPixels {width height sampleWidth : ℕ} (hsample : 0 < sampleWidth)
    (h : width * height * sampleWidth ≤ maxWindowAllocationBytes) :
    checkedMul 64 width height = some (width * height) := by
  have hle : width * height ≤ width * height * sampleWidth := Nat.le_mul_of_pos_right _ hsample
  exact checkedMul_of_lt ((hle.trans h).trans_lt (by decide))

/-- The window that is returned for decoded data. -/
def PreparedRemoteWindow.fetched (prepared : PreparedRemoteWindow) (data : WindowData) :
    FetchedWindow where
  data := data
  nodata := normalizedNodata prepared.metadata
  headerBytes := prepared.headerBytes
  tileBytes := prepared.plan.compressedBytes
  tileCount := prepared.plan.tiles.length
  windowPixels := prepared.window.width * prepared.window.height

/-- What is fetched is what the bytes of the tiles are decoded to. -/
theorem fetchRemoteWindow_outcome_eq_ok_iff (hplanned : prepared.Planned content path)
    {fetched : FetchedWindow} :
    (fetchRemoteWindow inflate (.ofBytes content) path prepared).outcome = .ok (.ok fetched) ↔
      ∃ data, prepared.DecodesTo inflate content path data ∧ fetched = prepared.fetched data := by
  have hchunks : ∀ compressed, _ ↔ _ := fun compressed =>
    @fetchChunks_outcome_eq_ok_iff path content prepared.plan compressed hplanned.objectSize
  unfold fetchRemoteWindow
  constructor
  · intro h
    obtain ⟨compressed, hcompressed, h⟩ := Traced.bind_outcome_eq_ok h
    obtain ⟨data, hdata, h⟩ := Traced.bind_outcome_eq_ok h
    obtain ⟨pixels, hpixels, h⟩ := Traced.bind_outcome_eq_ok h
    cases h
    obtain ⟨hlimits, hcovered, rfl⟩ := (hchunks compressed).1 hcompressed
    obtain ⟨rfl, -⟩ := checkedMul_eq_some (Fallible.orElse_run_eq_ok hpixels)
    exact ⟨data, ⟨hlimits, hcovered, hdata⟩, rfl⟩
  · rintro ⟨data, ⟨hlimits, hcovered, hdata⟩, rfl⟩
    have hpixels := checkedMul_windowPixels (by cases prepared.metadata.sampleType <;> decide)
      (valid_of_decodeWindow hdata).1
    refine Traced.bind_outcome_eq_ok_iff.2 ⟨_, (hchunks _).2 ⟨hlimits, hcovered, rfl⟩, ?_⟩
    refine Traced.bind_outcome_eq_ok_iff.2 ⟨data, hdata, ?_⟩
    exact Traced.bind_outcome_eq_ok_iff.2 ⟨_, Fallible.orElse_run_eq_ok_iff.2 hpixels, rfl⟩

theorem log_fetchRemoteWindow {store : RangeStore} {fetched : FetchedWindow}
    (h : (fetchRemoteWindow inflate store path prepared).outcome = .ok (.ok fetched)) :
    (fetchRemoteWindow inflate store path prepared).log =
      prepared.plan.tiles.map ResolvedTile.range := by
  unfold fetchRemoteWindow at h ⊢
  obtain ⟨compressed, hcompressed, h⟩ := Traced.bind_outcome_eq_ok h
  obtain ⟨data, hdata, h⟩ := Traced.bind_outcome_eq_ok h
  obtain ⟨pixels, hpixels, -⟩ := Traced.bind_outcome_eq_ok h
  rw [Traced.bind_of_ok hcompressed, Traced.bind_of_ok hdata, Traced.bind_of_ok hpixels]
  show (fetchChunks store path prepared.plan).log ++ ([] ++ ([] ++ [])) = _
  rw [log_fetchChunks hcompressed, List.nil_append, List.nil_append, List.append_nil]

end Window

/-- A fetch that made these requests: they are for the tiles that meet the window and no others, and the
numbers count them. -/
structure FetchedWindow.Counts (fetched : FetchedWindow) (content : List UInt8)
    (prepared : PreparedCogWindow) (requests : List ByteRange) : Prop where
  mem_requests : ∀ request, request ∈ requests ↔ ∃ tileCol tileRow,
    prepared.window.Meets prepared.metadata tileCol tileRow ∧
      request = (prepared.metadata.indexedTile content
        (prepared.metadata.tileIndex tileCol tileRow)).range
  tileCount_eq : fetched.tileCount = requests.length
  tileBytes_eq : fetched.tileBytes = (requests.map fun request => request.stop - request.start).sum
  windowPixels_eq : fetched.windowPixels = prepared.window.width * prepared.window.height

/-- **Fetching a window of a raster.** Let an object hold the compressed tiles of a raster where its
tile index says. A prepared window is fetched exactly when its tiles are within the limits, the window
is not too large and the nodata text of a byte raster is valid. Each cell is then the sample of the
raster at the offset of the window, the bytes of the tiles that meet the window are requested and no
others, and the numbers that are returned count them. -/
theorem fetchRemoteWindow_spec {inflate : List UInt8 → ℕ → Except String (List UInt8)}
    {content : List UInt8} {path : String} {kind : RasterKind} {bbox : Rect}
    {prepared : PreparedRemoteWindow} {samples : RasterSamples}
    (hprepared : (prepareRemoteWindow (.ofBytes content) path content.length kind bbox).outcome =
      .ok (.ok prepared))
    (hencodes : EncodesRaster inflate content prepared.metadata samples) :
    ((∃ fetched, (fetchRemoteWindow inflate (.ofBytes content) path prepared).outcome =
        .ok (.ok fetched)) ↔ prepared.Fetchable content) ∧
      ∀ fetched, (fetchRemoteWindow inflate (.ofBytes content) path prepared).outcome =
        .ok (.ok fetched) → prepared.Shows samples fetched.data ∧
          fetched.Counts content prepared.toPreparedCogWindow
            (fetchRemoteWindow inflate (.ofBytes content) path prepared).log := by
  have hplanned := planned_of_prepareRemoteWindow hprepared
  constructor
  · rw [← PreparedCogWindow.exists_decodesTo_iff hplanned hencodes]
    constructor
    · rintro ⟨fetched, h⟩
      obtain ⟨data, hdata, -⟩ := (fetchRemoteWindow_outcome_eq_ok_iff hplanned).1 h
      exact ⟨data, hdata⟩
    · rintro ⟨data, hdata⟩
      exact ⟨_, (fetchRemoteWindow_outcome_eq_ok_iff hplanned).2 ⟨data, hdata, rfl⟩⟩
  · intro fetched h
    rw [log_fetchRemoteWindow h]
    obtain ⟨data, hdata, rfl⟩ := (fetchRemoteWindow_outcome_eq_ok_iff hplanned).1 h
    refine ⟨hdata.shows hplanned hencodes, fun _ => hplanned.mem_ranges_iff,
      (List.length_map _).symm, ?_, rfl⟩
    rw [List.map_map]
    exact hplanned.compressedBytes

/-! ### A raster of four tiles -/

/-- Samples that grow along rows and columns, and wrap. -/
def rampRaster : RasterSamples := .bytes fun row col => UInt8.ofNat (row + col)

/-- A tile of the raster in a zlib stream. -/
def rampChunk (index : ℕ) : List UInt8 :=
  Zlib.store (encodeTile fourTileMetadata (rampRaster.tile (index % 2) (index / 2)))

theorem length_encodeTile_ramp (index : ℕ) :
    (encodeTile fourTileMetadata (rampRaster.tile (index % 2) (index / 2))).length = 262144 := by
  have hfits : rampRaster.Fits fourTileMetadata.sampleType := rfl
  exact TileSamples.length_encodeTile (RasterSamples.fits_tile hfits _ _)

theorem length_rampChunk (index : ℕ) : (rampChunk index).length = 262175 := by
  rw [rampChunk, Zlib.length_store, length_encodeTile_ramp]
  rfl

/-- The header, and the tile index at 1000 and 2000. -/
def fourTileHeader : List UInt8 :=
  [0x49, 0x49, 42, 0, 16, 0, 0, 0] ++ List.replicate 8 0 ++ [15, 0] ++
    classicEntry 256 3 1 700 ++ classicEntry 257 3 1 600 ++ classicEntry 258 3 1 8 ++
    classicEntry 259 3 1 8 ++ classicEntry 262 3 1 1 ++ classicEntry 277 3 1 1 ++
    classicEntry 284 3 1 1 ++ classicEntry 317 3 1 2 ++ classicEntry 322 3 1 512 ++
    classicEntry 323 3 1 512 ++ classicEntry 324 16 4 1000 ++ classicEntry 325 16 4 2000 ++
    classicEntry 339 3 1 1 ++ classicEntry 33550 12 3 198 ++ classicEntry 33922 12 6 222 ++
    leBytes 0x3FF0000000000000 ++ leBytes 0x3FF0000000000000 ++ List.replicate 786 0 ++
    leBytes 2032 ++ leBytes 264207 ++ leBytes 526382 ++ leBytes 788557 ++ List.replicate 968 0 ++
    leBytes 262175 ++ leBytes 262175 ++ leBytes 262175 ++ leBytes 262175

/-- The header and the tiles. -/
def fourTileTiff : List UInt8 := fourTileHeader ++ ((List.range 4).map rampChunk).flatten

theorem length_fourTileHeader : fourTileHeader.length = 2032 := by decide +kernel

theorem length_fourTileTiff : fourTileTiff.length = 1050732 := by
  rw [fourTileTiff, List.length_append, length_fourTileHeader, List.length_flatten]
  simp [List.range_succ, length_rampChunk]

def rampRange (index : ℕ) : ResolvedTile :=
  ⟨index, 2032 + 262175 * index, 2032 + 262175 * (index + 1)⟩

theorem byteSlice_rampRange {index : ℕ} (hindex : index < 4) :
    byteSlice fourTileTiff (rampRange index).range = rampChunk index := by
  have hsum : ∀ n ≤ 4, ((((List.range 4).map rampChunk).map List.length).take n).sum = 262175 * n := by
    intro n hn
    interval_cases n <;> simp [List.range_succ, length_rampChunk]
  have hlength : index < ((List.range 4).map rampChunk).length := by simpa using hindex
  have hpart := List.drop_take_succ_flatten_eq_getElem ((List.range 4).map rampChunk) index hlength
  rw [hsum _ hindex.le, hsum _ hindex, List.drop_take] at hpart
  rw [byteSlice, rampRange, ResolvedTile.range]
  dsimp only
  rw [fourTileTiff, ← length_fourTileHeader, List.drop_length_add_append, Nat.add_sub_add_left, hpart]
  simp

def preparedCorner : PreparedRemoteWindow :=
  ⟨⟨fourTileMetadata, ⟨499, 499, 22, 32⟩, ⟨1050732, [0, 1, 2, 3].map rampRange, 1048700⟩⟩, 334⟩

theorem encodesRaster_ramp : EncodesRaster Zlib.inflate fourTileTiff fourTileMetadata rampRaster where
  fits := rfl
  inflated := by
    intro tileCol tileRow hon
    have hcol : tileCol = 0 ∨ tileCol = 1 := by
      have hlt : tileCol * 512 < 700 := hon.col_lt
      omega
    have hrow : tileRow = 0 ∨ tileRow = 1 := by
      have hlt : tileRow * 512 < 600 := hon.row_lt
      omega
    have hrange : ∀ col ∈ [0, 1], ∀ row ∈ [0, 1], (fourTileMetadata.indexedTile fourTileTiff
        (fourTileMetadata.tileIndex col row)).range = (rampRange (row * 2 + col)).range := by
      decide +kernel
    have hindex : tileRow * 2 + tileCol < 4 := by omega
    rw [hrange tileCol (by simpa using hcol) tileRow (by simpa using hrow), byteSlice_rampRange hindex,
      rampChunk, Zlib.inflate_store, List.take_of_length_le]
    · rw [show (tileRow * 2 + tileCol) % 2 = tileCol by omega,
        show (tileRow * 2 + tileCol) / 2 = tileRow by omega]
    · rw [length_encodeTile_ramp]
      decide

theorem fetchable_corner : preparedCorner.Fetchable fourTileTiff where
  tiles := by
    intro tile htile
    have hlimits : ∀ tile ∈ preparedCorner.plan.tiles, tile.rangeStart < tile.rangeEnd ∧
        tile.byteCount ≤ maxCompressedChunkBytes ∧ tile.rangeEnd ≤ 1050732 := by
      decide +kernel
    obtain ⟨hstart, hsize, hend⟩ := hlimits tile htile
    exact ⟨hstart, hsize, length_fourTileTiff ▸ hend⟩
  covered := by decide +kernel
  allocation := by decide +kernel
  nodata := rfl

theorem prepareRemoteWindow_fourTileTiff :
    (prepareRemoteWindow (.ofBytes fourTileTiff) "d8.tif" fourTileTiff.length .flowDir
      cornerBbox).outcome = .ok (.ok preparedCorner) := by
  rw [length_fourTileTiff]
  decide +kernel

/-- The window where the four tiles meet. -/
theorem fetchRemoteWindow_spec_corner :
    (prepareRemoteWindow (.ofBytes fourTileTiff) "d8.tif" fourTileTiff.length .flowDir
      cornerBbox).outcome = .ok (.ok preparedCorner) ∧
    EncodesRaster Zlib.inflate fourTileTiff fourTileMetadata rampRaster ∧
    ∃ fetched, (fetchRemoteWindow Zlib.inflate (.ofBytes fourTileTiff) "d8.tif"
        preparedCorner).outcome = .ok (.ok fetched) ∧
      fetched.data.get? (21 * 22 + 13) = some (.u8 8) ∧ fetched.windowPixels = 704 := by
  obtain ⟨hreturns, hshows⟩ := fetchRemoteWindow_spec prepareRemoteWindow_fourTileTiff encodesRaster_ramp
  obtain ⟨fetched, hfetched⟩ := hreturns.2 fetchable_corner
  obtain ⟨hshown, hcounts⟩ := hshows fetched hfetched
  refine ⟨prepareRemoteWindow_fourTileTiff, encodesRaster_ramp, fetched, hfetched, ?_,
    hcounts.windowPixels_eq⟩
  exact hshown.cells 21 13 (by decide) (by decide)

end Pourpoint
