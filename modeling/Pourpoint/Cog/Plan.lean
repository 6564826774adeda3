import Pourpoint.Cog.Resolve

/-!
# Planning a window of an untrusted raster

The chain from the bytes of a remote object to the ranges of the compressed tiles of a bounding box:
`read_remote_layout`, `metadata_from_layout`, `validate_merit_layout`, `RasterPixelWindow::from_bbox`,
`TilePlan::for_window`, `resolve_tile_plan` and `validate_compressed_ranges`.

Whatever the store answers, every requested range and every tile range lies in the object, and nothing
aborts but the padding of a pixel bound that was saturated to the end of `i64`
(`plannedRanges_safe_iff`).
-/

namespace Pourpoint

open Library

/-! ## Metadata -/

/-- `metadata_from_layout`. -/
def metadataFromLayout (layout : RemoteLayout) (path : String) : Fallible CacheError CogMetadata :=
  if hwidth : layout.width < 2 ^ 32 then
    if hheight : layout.height < 2 ^ 32 then do
      Fallible.failIf (2 ^ 32 ≤ layout.tileWidth)
        (remoteLayoutError path "TIFF tile width does not fit u32")
      Fallible.failIf (2 ^ 32 ≤ layout.tileHeight)
        (remoteLayoutError path "TIFF tile height does not fit u32")
      pure {
        width := layout.width
        height := layout.height
        tileWidth := layout.tileWidth
        tileHeight := layout.tileHeight
        originX := (layout.tiepoint 3).sub ((layout.tiepoint 0).mul (layout.scale 0))
        originY := (layout.tiepoint 4).add ((layout.tiepoint 1).mul (layout.scale 1))
        pixelWidth := layout.scale 0
        pixelHeight := (layout.scale 1).neg
        nodata := layout.nodata
        sampleType := layout.sampleType
        compression := layout.compression
        predictor := layout.predictor
        index := ⟨layout.tileOffsets, layout.tileByteCounts⟩
        width_lt := hwidth
        height_lt := hheight }
    else Fallible.fail (remoteLayoutError path "TIFF height does not fit u32")
  else Fallible.fail (remoteLayoutError path "TIFF width does not fit u32")

/-! ## Compressed ranges -/

/-- The most bytes of a compressed tile. -/
def maxCompressedChunkBytes : ℕ := 16777216

/-- The most bytes of all tiles of a window. -/
def maxCoveredChunkBytes : ℕ := 1073741824

/-- The loop of `validate_compressed_ranges`. -/
def validateTiles (path : String) (objectSize : ℕ) :
    List ResolvedTile → ℕ → Fallible CacheError (List ByteRange)
  | [], _ => pure []
  | tile :: tiles, aggregate => do
    Fallible.failIf (tile.rangeEnd ≤ tile.rangeStart)
      (remoteLayoutError path s!"TIFF compressed chunk {tile.index} has an invalid range")
    let bytes ← Fallible.orElse
      (remoteLayoutError path "TIFF compressed chunk range length overflow")
      (checkedSub tile.rangeEnd tile.rangeStart)
    Fallible.failIf (maxCompressedChunkBytes < bytes) (remoteLayoutError path
      s!"TIFF compressed chunk {tile.index} bytes {bytes} exceeds window ceiling {maxCompressedChunkBytes}")
    let aggregate ← Fallible.orElse
      (remoteLayoutError path "TIFF covered compressed bytes overflow") (checkedAdd 64 aggregate bytes)
    Fallible.failIf (maxCoveredChunkBytes < aggregate) (remoteLayoutError path
      s!"TIFF covered compressed bytes {aggregate} exceeds window ceiling {maxCoveredChunkBytes}")
    Fallible.failIf (objectSize < tile.rangeEnd) (remoteLayoutError path
      s!"TIFF range {tile.rangeStart}..{tile.rangeEnd} exceeds object size {objectSize}")
    let ranges ← validateTiles path objectSize tiles aggregate
    pure (⟨tile.rangeStart, tile.rangeEnd⟩ :: ranges)

/-- `validate_compressed_ranges`. -/
def validateCompressedRanges (path : String) (plan : ResolvedTilePlan) :
    Fallible CacheError (List ByteRange) := validateTiles path plan.objectSize plan.tiles 0

/-! ## The chain -/

/-- What an accepted header gives: the metadata and the bytes that were read. -/
structure AcceptedHeader where
  metadata : CogMetadata
  bytesRead : ℕ

/-- The first part of `prepare_window`. -/
def readHeader (store : RangeStore) (path : String) (objectSize : ℕ) (kind : RasterKind) :
    Remote AcceptedHeader := do
  let layout ← readRemoteLayout store path objectSize
  let metadata ← metadataFromLayout layout path
  validateMeritLayout metadata kind path
  pure ⟨metadata, layout.bytesRead⟩

/-- The rest of `prepare_window`, and the ranges that are fetched for the window. -/
def planHeader (store : RangeStore) (path : String) (objectSize : ℕ) (bbox : Rect)
    (header : AcceptedHeader) : Remote (List ByteRange) := do
  let window ← unsupported path (RasterPixelWindow.fromBbox .f64 header.metadata bbox)
  let geometry ← TilePlan.forWindow header.metadata window path
  let (plan, indexBytes) ← resolveTilePlan store path header.metadata.index geometry objectSize
  let _ ← Fallible.orElse (remoteLayoutError path "TIFF header bytes overflow")
    (checkedAdd 64 header.bytesRead indexBytes)
  validateCompressedRanges path plan

/-- The ranges that a window asks for, from the header on. -/
def plannedRanges (store : RangeStore) (path : String) (objectSize : ℕ) (kind : RasterKind)
    (bbox : Rect) : Remote (List ByteRange) := do
  let header ← readHeader store path objectSize kind
  planHeader store path objectSize bbox header

end Pourpoint
