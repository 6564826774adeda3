import Pourpoint.Cog.Layout
import Pourpoint.Grid
import Pourpoint.ParseNumber

/-!
# Decoding one tile

`decode_owned_chunk` inflates the bytes of a tile, undoes the predictor along the padded rows and
keeps the live part: the columns and rows of the tile that lie on the raster. Inflation is an
argument, `inflate compressed limit`: at most `limit` bytes of the zlib stream, or its error text.

The decoder does not abort on a tile of the raster, and what it returns has one sample for each
live pixel (`decodeOwnedChunk_safe`).
-/

namespace Pourpoint

/-! ## Samples -/

/-- Decoded samples of a tile. -/
inductive OwnedTileData where
  | u8 (data : List UInt8)
  | f32 (data : List F32)
  deriving DecidableEq, Repr

/-- A sample of either type. -/
inductive Sample where
  | u8 (value : UInt8)
  | f32 (value : F32)
  deriving DecidableEq, Repr

namespace OwnedTileData

def length : OwnedTileData → ℕ
  | u8 data => data.length
  | f32 data => data.length

def get? : OwnedTileData → ℕ → Option Sample
  | u8 data, i => data[i]?.map Sample.u8
  | f32 data, i => data[i]?.map Sample.f32

end OwnedTileData

/-- The samples of the type are bytes after decoding. -/
def CogSampleType.isByte : CogSampleType → Bool
  | .u8 | .i8 => true
  | .f32 | .i32 => false

/-- The width of a sample in bytes. -/
def CogSampleType.sampleWidth : CogSampleType → ℕ
  | .u8 | .i8 => 1
  | .f32 | .i32 => 4

/-- The data has the type that samples decode to. -/
def OwnedTileData.HasType : OwnedTileData → CogSampleType → Prop
  | .u8 _, sampleType => sampleType.isByte = true
  | .f32 _, sampleType => sampleType.isByte = false

/-! ## Bytes -/

/-- `from_le_bytes`. -/
def wordOfLeBytes (b0 b1 b2 b3 : UInt8) : UInt32 :=
  b0.toUInt32 ||| b1.toUInt32 <<< 8 ||| b2.toUInt32 <<< 16 ||| b3.toUInt32 <<< 24

/-- `to_le_bytes`. -/
def leBytesOfWord (w : UInt32) : List UInt8 :=
  [w.toUInt8, (w >>> 8).toUInt8, (w >>> 16).toUInt8, (w >>> 24).toUInt8]

/-- `as_chunks::<4>().0`, each chunk read as a little-endian word. -/
def leWords : List UInt8 → List UInt32
  | b0 :: b1 :: b2 :: b3 :: rest => wordOfLeBytes b0 b1 b2 b3 :: leWords rest
  | _ => []

theorem length_leWords (bytes : List UInt8) : (leWords bytes).length = bytes.length / 4 := by
  fun_induction leWords bytes with
  | case1 b0 b1 b2 b3 rest ih =>
    simp only [List.length_cons, ih]
    omega
  | case2 bytes hshort =>
    match bytes, hshort with
    | [], _ => rfl
    | [_], _ => simp
    | [_, _], _ => simp
    | [_, _, _], _ => simp
    | b0 :: b1 :: b2 :: b3 :: rest, hshort => exact absurd rfl (hshort b0 b1 b2 b3 rest)

/-- `i32` from its bits. -/
def i32OfWord (w : UInt32) : ℤ := w.toBitVec.toInt

/-- `f32::from_bits`. -/
def F32.ofBits (w : UInt32) : F32 where
  negative := 2 ^ 31 ≤ w.toNat
  magnitude := ⟨w.toNat % 2 ^ 31, Nat.mod_lt _ (by decide)⟩

/-! ## Predictors -/

/-- `row[index] = row[index].wrapping_add(row[index - 1])` along the row. -/
def accumulateBytes (previous : UInt8) : List UInt8 → List UInt8
  | [] => []
  | b :: bs => (b + previous) :: accumulateBytes (b + previous) bs

/-- The running sum of the little-endian words of a row, written back. -/
def accumulateWords (previous : UInt32) : List UInt8 → List UInt8
  | b0 :: b1 :: b2 :: b3 :: rest =>
    let value := previous + wordOfLeBytes b0 b1 b2 b3
    leBytesOfWord value ++ accumulateWords value rest
  | rest => rest

@[simp] theorem length_accumulateBytes (previous : UInt8) (row : List UInt8) :
    (accumulateBytes previous row).length = row.length := by
  induction row generalizing previous with
  | nil => rfl
  | cons b bs ih => simp only [accumulateBytes, List.length_cons, ih]

theorem length_accumulateWords (previous : UInt32) (row : List UInt8) :
    (accumulateWords previous row).length = row.length := by
  fun_induction accumulateWords previous row with
  | case1 previous b0 b1 b2 b3 rest value ih =>
    simp only [leBytesOfWord, List.length_append, List.length_cons, List.length_nil, ih]
    omega
  | case2 => rfl

/-- The predictor is undone along each padded row. -/
def undoPredictor (metadata : CogMetadata) (inflated : List UInt8) (remotePath : String) :
    Fallible CacheError (List UInt8) :=
  let paddedWidth := metadata.tileWidth
  match metadata.sampleType, metadata.predictor with
  | _, 1 => pure inflated
  | .u8, 2 | .i8, 2 => liftM (mapChunksExact paddedWidth (accumulateBytes 0) inflated)
  | .i32, 2 => do
    let rowBytes ← Fallible.orElse (remoteLayoutError remotePath "TIFF predictor row overflow")
      (checkedMul 64 paddedWidth 4)
    liftM (mapChunksExact rowBytes (accumulateWords 0) inflated)
  | .f32, 3 => do
    let rowBytes ← Fallible.orElse (remoteLayoutError remotePath "TIFF predictor row overflow")
      (checkedMul 64 paddedWidth 4)
    liftM (mapChunksExact rowBytes (accumulateBytes 0) inflated)
  | sampleType, predictor =>
    Fallible.fail (remoteLayoutError remotePath
      s!"unsupported TIFF predictor {predictor} for {sampleType.debug}")

/-! ## The live part -/

/-- Tile column and row of a tile index. -/
def tileColRow (metadata : CogMetadata) (tileIndex : ℕ) : Exec (ℕ × ℕ) := do
  let col ← remUnsigned tileIndex metadata.tilesAcross
  let row ← divUnsigned tileIndex metadata.tilesAcross
  return (col, row)

/-- One `f32` of a row of four byte planes. -/
def planeSample (row : List UInt8) (planeWidth column : ℕ) : Exec F32 := do
  let b0 ← readIndex row column
  let b1 ← readIndex row (planeWidth + column)
  let b2 ← readIndex row (2 * planeWidth + column)
  let b3 ← readIndex row (3 * planeWidth + column)
  return F32.ofBits (wordOfLeBytes b3 b2 b1 b0)

/-- The live samples of an `f32` row. -/
def clipF32Row (predictor rowBytes liveWidth : ℕ) (row : List UInt8) : Exec (List F32) :=
  if predictor = 3 then (List.range liveWidth).mapM (planeSample row (rowBytes / 4))
  else .ok (((leWords row).take liveWidth).map F32.ofBits)

/-- `normalize_i32_accumulation`. -/
def normalizeI32Accumulation (data : List ℤ) (nodata : Option ℤ) : List F32 :=
  data.map fun value => if some value = nodata then F32.nan else F32.ofInt value

/-- The rows of the tile, each clipped. -/
def clipRows {α : Type} (rowLen liveHeight : ℕ) (clipRow : List UInt8 → Exec (List α))
    (bytes : List UInt8) : Exec (List α) := do
  let rows ← chunksExact rowLen bytes
  let clipped ← (rows.take liveHeight).mapM clipRow
  return clipped.flatten

/-- The live part of the decoded bytes. -/
def clipTile (metadata : CogMetadata) (bytes : List UInt8) (liveWidth liveHeight : ℕ)
    (remotePath : String) : Fallible CacheError OwnedTileData :=
  let paddedWidth := metadata.tileWidth
  match metadata.sampleType with
  | .u8 | .i8 => do
    let clipped ← clipRows paddedWidth liveHeight (fun row => readSlice row 0 liveWidth) bytes
    return .u8 clipped
  | .f32 => do
    let rowBytes ← Fallible.orElse (remoteLayoutError remotePath "TIFF F32 row size overflow")
      (checkedMul 64 paddedWidth 4)
    let clipped ← clipRows rowBytes liveHeight
      (clipF32Row metadata.predictor rowBytes liveWidth) bytes
    return .f32 clipped
  | .i32 => do
    let rowBytes ← Fallible.orElse (remoteLayoutError remotePath "TIFF I32 row size overflow")
      (checkedMul 64 paddedWidth 4)
    let values ← clipRows rowBytes liveHeight
      (fun row => .ok (((leWords row).take liveWidth).map i32OfWord)) bytes
    return .f32 (normalizeI32Accumulation values (parseI32 metadata.nodata))

/-- The ceiling on the decoded bytes of one tile. -/
def maxDecodedChunkBytes : ℕ := 8388608

/-- `decode_owned_chunk`. The tile is inflated, its length checked, and the predictor undone. -/
def decodeOwnedChunk (inflate : List UInt8 → ℕ → Except String (List UInt8))
    (compressed : List UInt8) (metadata : CogMetadata) (tileIndex : ℕ) (remotePath : String) :
    Fallible CacheError OwnedTileData := do
  let expected ← Fallible.orElse (remoteLayoutError remotePath "TIFF decoded chunk size overflow")
    ((checkedMul 64 metadata.tileWidth metadata.tileHeight).bind
      (checkedMul 64 · metadata.sampleType.sampleWidth))
  Fallible.failIf (maxDecodedChunkBytes < expected) (remoteLayoutError remotePath
    s!"TIFF decoded chunk bytes {expected} exceeds window ceiling {maxDecodedChunkBytes}")
  let readLimit ← Fallible.orElse (remoteLayoutError remotePath "TIFF decoded read limit overflow")
    (checkedAdd 64 expected 1)
  let inflated ← Fallible.mapError
    (fun source => remoteLayoutError remotePath
      s!"TIFF tile {tileIndex} DEFLATE decode failed: {source}") (inflate compressed readLimit)
  Fallible.failIf (inflated.length ≠ expected) (remoteLayoutError remotePath
    s!"TIFF tile {tileIndex} decoded {inflated.length} bytes, expected {expected}")
  let bytes ← undoPredictor metadata inflated remotePath
  let tile ← tileColRow metadata tileIndex
  let tileX ← Fallible.orElse (remoteLayoutError remotePath "TIFF tile x overflow")
    (checkedMul 32 tile.1 metadata.tileWidth)
  let tileY ← Fallible.orElse (remoteLayoutError remotePath "TIFF tile y overflow")
    (checkedMul 32 tile.2 metadata.tileHeight)
  let liveWidth := min metadata.tileWidth (← subUnsigned metadata.width tileX)
  let liveHeight := min metadata.tileHeight (← subUnsigned metadata.height tileY)
  Fallible.failIf (checkedMul 64 liveWidth liveHeight = none)
    (remoteLayoutError remotePath "TIFF live tile size overflow")
  clipTile metadata bytes liveWidth liveHeight remotePath

/-! ## Totality on the tiles of the raster -/

section

variable {metadata : CogMetadata} {tileCol tileRow : ℕ}

theorem tileColRow_tileIndex (h : metadata.Merit) (hon : metadata.TileOn tileCol tileRow) :
    tileColRow metadata (metadata.tileIndex tileCol tileRow) = .ok (tileCol, tileRow) := by
  have hcol := hon.col_lt_tilesAcross h
  have hcell : (⟨tileRow, tileCol⟩ : GridCoord).col < metadata.tilesAcross := hcol
  rw [tileColRow, remUnsigned_eq_ok (by omega), divUnsigned_eq_ok (by omega)]
  show Except.ok (GridCoord.index ⟨tileRow, tileCol⟩ _ % _, GridCoord.index ⟨tileRow, tileCol⟩ _ / _) =
    Except.ok (tileCol, tileRow)
  rw [GridCoord.index_mod hcell, GridCoord.index_div hcell]

/-- The bytes of a padded tile. -/
def CogMetadata.paddedBytes (metadata : CogMetadata) : ℕ :=
  512 * (512 * metadata.sampleType.sampleWidth)

theorem CogMetadata.Merit.expected_eq (h : metadata.Merit) {expected : ℕ}
    (hexpected : (checkedMul 64 metadata.tileWidth metadata.tileHeight).bind
      (checkedMul 64 · metadata.sampleType.sampleWidth) = some expected) :
    expected = metadata.paddedBytes := by
  obtain ⟨area, harea, hbytes⟩ := Option.bind_eq_some_iff.1 hexpected
  rw [(checkedMul_eq_some hbytes).1, (checkedMul_eq_some harea).1, h.tileWidth, h.tileHeight,
    CogMetadata.paddedBytes, Nat.mul_assoc]

/-- A supported predictor is undone. -/
theorem undoPredictor_returns (h : metadata.Merit) {inflated : List UInt8} {path : String}
    (hlen : inflated.length = metadata.paddedBytes) :
    (undoPredictor metadata inflated path).Returns
      fun bytes => bytes.length = metadata.paddedBytes := by
  have hpredictor := h.predictor
  unfold CogMetadata.paddedBytes at *
  unfold undoPredictor
  rw [h.tileWidth]
  split
  · exact Fallible.returns_pure hlen
  · next htype _ =>
    rw [htype] at hlen ⊢
    obtain ⟨mapped, hmapped, hlength⟩ := mapChunksExact_eq_ok (by decide) hlen
      (f := accumulateBytes 0) (by simp [CogSampleType.sampleWidth])
    exact Fallible.returns_lift hmapped hlength
  · next htype _ =>
    rw [htype] at hlen ⊢
    obtain ⟨mapped, hmapped, hlength⟩ := mapChunksExact_eq_ok (by decide) hlen
      (f := accumulateBytes 0) (by simp [CogSampleType.sampleWidth])
    exact Fallible.returns_lift hmapped hlength
  · next htype _ =>
    rw [htype] at hlen ⊢
    apply Fallible.returns_orElse_bind (checkedMul_of_lt (by decide))
    obtain ⟨mapped, hmapped, hlength⟩ := mapChunksExact_eq_ok (by decide) hlen
      (f := accumulateWords 0) (by simp [length_accumulateWords])
    exact Fallible.returns_lift hmapped hlength
  · next htype _ =>
    rw [htype] at hlen ⊢
    apply Fallible.returns_orElse_bind (checkedMul_of_lt (by decide))
    obtain ⟨mapped, hmapped, hlength⟩ := mapChunksExact_eq_ok (by decide) hlen
      (f := accumulateBytes 0) (by simp)
    exact Fallible.returns_lift hmapped hlength
  · next h1 h2 h3 h4 h5 =>
    -- No other predictor is supported.
    exfalso
    revert hpredictor
    cases htype : metadata.sampleType <;>
      simp only [CogSampleType.supportedPredictor, Bool.or_eq_true, beq_iff_eq] <;>
      rintro (hp | hp) <;> simp_all

/-- Clipping keeps the first live rows, each with its live samples. -/
theorem clipRows_eq_ok {α : Type} {clipRow : List UInt8 → Exec (List α)} {bytes : List UInt8}
    {rowLen count liveWidth liveHeight : ℕ} (hrow : 0 < rowLen) (hlen : bytes.length = count * rowLen)
    (hlive : liveHeight ≤ count)
    (hclip : ∀ row, row.length = rowLen → ∃ live, clipRow row = .ok live ∧ live.length = liveWidth) :
    ∃ live, clipRows rowLen liveHeight clipRow bytes = .ok live ∧
      live.length = liveHeight * liveWidth := by
  obtain ⟨rows, hrows, hcount, hall⟩ := chunksExact_eq_ok hrow hlen
  obtain ⟨clipped, hclipped, hlens⟩ := exists_mapM_eq_ok (f := clipRow)
    (P := fun _ live => live.length = liveWidth) (rows.take liveHeight)
    (fun row hmem => hclip row (hall row (List.mem_of_mem_take hmem)))
  refine ⟨clipped.flatten, ?_, ?_⟩
  · rw [clipRows, hrows, ok_bind, hclipped]
    rfl
  · have hlength : clipped.length = liveHeight := by
      rw [← hlens.length_eq, List.length_take, hcount]
      omega
    have hwidth : ∀ live ∈ clipped, live.length = liveWidth := by
      intro live hmem
      obtain ⟨i, hi, rfl⟩ := List.getElem_of_mem hmem
      exact hlens.get (by rw [hlens.length_eq]; exact hi) hi
    rw [length_flatten_eq_mul hwidth, hlength]

theorem planeSample_eq_ok (row : List UInt8) {planeWidth column : ℕ} (hcol : column < planeWidth)
    (hrow : row.length = 4 * planeWidth) : ∃ value, planeSample row planeWidth column = .ok value := by
  obtain ⟨b0, h0⟩ := readIndex_eq_ok row column (by omega)
  obtain ⟨b1, h1⟩ := readIndex_eq_ok row (planeWidth + column) (by omega)
  obtain ⟨b2, h2⟩ := readIndex_eq_ok row (2 * planeWidth + column) (by omega)
  obtain ⟨b3, h3⟩ := readIndex_eq_ok row (3 * planeWidth + column) (by omega)
  refine ⟨F32.ofBits (wordOfLeBytes b3 b2 b1 b0), ?_⟩
  rw [planeSample, h0, ok_bind, h1, ok_bind, h2, ok_bind, h3, ok_bind]
  rfl

theorem clipF32Row_eq_ok (predictor : ℕ) {liveWidth : ℕ} {row : List UInt8} (hrow : row.length = 2048)
    (hlive : liveWidth ≤ 512) :
    ∃ live, clipF32Row predictor 2048 liveWidth row = .ok live ∧ live.length = liveWidth := by
  unfold clipF32Row
  split_ifs
  · obtain ⟨live, hlive, hall⟩ := exists_mapM_eq_ok (f := planeSample row (2048 / 4))
      (P := fun _ _ => True) (List.range liveWidth) (by
        intro column hmem
        rw [List.mem_range] at hmem
        have hcol : column < 2048 / 4 := by omega
        obtain ⟨value, hvalue⟩ := planeSample_eq_ok row hcol (by omega)
        exact ⟨value, hvalue, trivial⟩)
    exact ⟨live, hlive, by rw [← hall.length_eq, List.length_range]⟩
  · refine ⟨_, rfl, ?_⟩
    rw [List.length_map, List.length_take, length_leWords, hrow]
    omega

theorem clipTile_returns (h : metadata.Merit) {bytes : List UInt8} {liveWidth liveHeight : ℕ}
    {path : String} (hlen : bytes.length = metadata.paddedBytes) (hw : liveWidth ≤ 512)
    (hh : liveHeight ≤ 512) :
    (clipTile metadata bytes liveWidth liveHeight path).Returns fun data =>
      data.HasType metadata.sampleType ∧ data.length = liveHeight * liveWidth := by
  unfold CogMetadata.paddedBytes at hlen
  unfold clipTile
  rw [h.tileWidth]
  have hbyte : ∀ row : List UInt8, row.length = 512 →
      ∃ live, readSlice row 0 liveWidth = .ok live ∧ live.length = liveWidth := by
    intro row hrow
    refine ⟨_, readSlice_eq_ok (by omega), ?_⟩
    rw [List.length_take, List.length_drop]
    omega
  have hword : ∀ row : List UInt8, row.length = 2048 →
      ∃ live, (Except.ok (((leWords row).take liveWidth).map i32OfWord) : Exec (List ℤ)) = .ok live ∧
        live.length = liveWidth := by
    intro row hrow
    refine ⟨_, rfl, ?_⟩
    rw [List.length_map, List.length_take, length_leWords, hrow]
    omega
  split
  · next htype =>
    rw [htype] at hlen
    obtain ⟨live, hlive, hlength⟩ := clipRows_eq_ok (by decide) hlen hh hbyte
    apply Fallible.returns_lift_bind hlive
    exact Fallible.returns_pure ⟨by rw [htype]; rfl, hlength⟩
  · next htype =>
    rw [htype] at hlen
    obtain ⟨live, hlive, hlength⟩ := clipRows_eq_ok (by decide) hlen hh hbyte
    apply Fallible.returns_lift_bind hlive
    exact Fallible.returns_pure ⟨by rw [htype]; rfl, hlength⟩
  · next htype =>
    rw [htype] at hlen
    apply Fallible.returns_orElse_bind (checkedMul_of_lt (by decide))
    obtain ⟨live, hlive, hlength⟩ := clipRows_eq_ok (by decide) hlen hh
      (fun row hrow => clipF32Row_eq_ok metadata.predictor hrow hw)
    apply Fallible.returns_lift_bind hlive
    exact Fallible.returns_pure ⟨by rw [htype]; rfl, hlength⟩
  · next htype =>
    rw [htype] at hlen
    apply Fallible.returns_orElse_bind (checkedMul_of_lt (by decide))
    obtain ⟨live, hlive, hlength⟩ := clipRows_eq_ok (by decide) hlen hh hword
    apply Fallible.returns_lift_bind hlive
    refine Fallible.returns_pure ⟨by rw [htype]; rfl, ?_⟩
    rw [OwnedTileData.length, normalizeI32Accumulation, List.length_map, hlength]

/-- **Decoding a tile of the raster** does not abort, and gives one sample of the right type for each
live pixel. -/
theorem decodeOwnedChunk_safe (h : metadata.Merit) (hon : metadata.TileOn tileCol tileRow)
    {inflate : List UInt8 → ℕ → Except String (List UInt8)} {compressed : List UInt8} {path : String} :
    (decodeOwnedChunk inflate compressed metadata (metadata.tileIndex tileCol tileRow) path).Safe
      fun data => data.HasType metadata.sampleType ∧
        data.length = metadata.liveHeight tileRow * metadata.liveWidth tileCol := by
  unfold decodeOwnedChunk
  apply Fallible.safe_orElse_bind
  intro expected hexpected
  obtain rfl := h.expected_eq hexpected
  apply Fallible.safe_failIf_bind
  intro _
  apply Fallible.safe_orElse_bind
  intro readLimit _
  apply Fallible.safe_mapError_bind
  intro inflated _
  apply Fallible.safe_failIf_bind
  intro hlen
  push Not at hlen
  apply Fallible.safe_bind (undoPredictor_returns h hlen).safe
  intro bytes hbytes
  apply Fallible.safe_lift_bind (tileColRow_tileIndex h hon)
  apply Fallible.safe_orElse_bind
  intro tileX htileX
  obtain rfl := (checkedMul_eq_some htileX).1
  apply Fallible.safe_orElse_bind
  intro tileY htileY
  obtain rfl := (checkedMul_eq_some htileY).1
  apply Fallible.safe_lift_bind (subUnsigned_eq_ok hon.col_lt.le)
  apply Fallible.safe_lift_bind (subUnsigned_eq_ok hon.row_lt.le)
  apply Fallible.safe_failIf_bind
  intro _
  have hw : metadata.liveWidth tileCol ≤ 512 := (min_le_left _ _).trans h.tileWidth.le
  have hh : metadata.liveHeight tileRow ≤ 512 := (min_le_left _ _).trans h.tileHeight.le
  exact (clipTile_returns h hbytes hw hh).safe

/-- A tile whose bytes inflate to a padded tile is decoded to the live part of what the predictor
stood for. -/
theorem decodeOwnedChunk_returns_of (h : metadata.Merit) (hon : metadata.TileOn tileCol tileRow)
    {inflate : List UInt8 → ℕ → Except String (List UInt8)} {compressed inflated : List UInt8}
    {path : String} (hinflate : inflate compressed (metadata.paddedBytes + 1) = .ok inflated)
    (hlen : inflated.length = metadata.paddedBytes) {P : List UInt8 → Prop} {Q : OwnedTileData → Prop}
    (hundo : (undoPredictor metadata inflated path).Returns P)
    (hclip : ∀ bytes, P bytes → (clipTile metadata bytes (metadata.liveWidth tileCol)
      (metadata.liveHeight tileRow) path).Returns Q) :
    (decodeOwnedChunk inflate compressed metadata (metadata.tileIndex tileCol tileRow) path).Returns
      Q := by
  have hbytes : metadata.paddedBytes ≤ 512 * (512 * 4) := by
    unfold CogMetadata.paddedBytes
    cases metadata.sampleType <;> decide
  have hexpected : (checkedMul 64 metadata.tileWidth metadata.tileHeight).bind
      (checkedMul 64 · metadata.sampleType.sampleWidth) = some metadata.paddedBytes := by
    rw [h.tileWidth, h.tileHeight]
    unfold CogMetadata.paddedBytes
    cases metadata.sampleType <;> rfl
  have hw : metadata.liveWidth tileCol ≤ 512 := (min_le_left _ _).trans h.tileWidth.le
  have hh : metadata.liveHeight tileRow ≤ 512 := (min_le_left _ _).trans h.tileHeight.le
  have hlive : metadata.liveWidth tileCol * metadata.liveHeight tileRow ≤ 512 * 512 :=
    Nat.mul_le_mul hw hh
  have hX := hon.col_lt.trans metadata.width_lt
  have hY := hon.row_lt.trans metadata.height_lt
  unfold decodeOwnedChunk
  apply Fallible.returns_orElse_bind hexpected
  apply Fallible.returns_failIf_bind (by unfold maxDecodedChunkBytes; omega)
  apply Fallible.returns_orElse_bind (if_pos (by omega))
  apply Fallible.returns_mapError_bind hinflate
  apply Fallible.returns_failIf_bind (not_not.2 hlen)
  apply Fallible.returns_bind hundo
  intro bytes hbytes
  apply Fallible.returns_lift_bind (tileColRow_tileIndex h hon)
  apply Fallible.returns_orElse_bind (checkedMul_of_lt hX)
  apply Fallible.returns_orElse_bind (checkedMul_of_lt hY)
  apply Fallible.returns_lift_bind (subUnsigned_eq_ok hon.col_lt.le)
  apply Fallible.returns_lift_bind (subUnsigned_eq_ok hon.row_lt.le)
  apply Fallible.returns_failIf_bind
  · have hfits : checkedMul 64 (metadata.liveWidth tileCol) (metadata.liveHeight tileRow) = some _ :=
      checkedMul_of_lt (by omega)
    show ¬checkedMul 64 (metadata.liveWidth tileCol) (metadata.liveHeight tileRow) = none
    rw [hfits]
    exact Option.some_ne_none _
  · exact hclip bytes hbytes

theorem decodeOwnedChunk_returns (h : metadata.Merit) (hon : metadata.TileOn tileCol tileRow)
    {inflate : List UInt8 → ℕ → Except String (List UInt8)} {compressed inflated : List UInt8}
    {path : String} (hinflate : inflate compressed (metadata.paddedBytes + 1) = .ok inflated)
    (hlen : inflated.length = metadata.paddedBytes) :
    (decodeOwnedChunk inflate compressed metadata (metadata.tileIndex tileCol tileRow) path).Returns
      fun data => data.HasType metadata.sampleType ∧
        data.length = metadata.liveHeight tileRow * metadata.liveWidth tileCol := by
  have hw : metadata.liveWidth tileCol ≤ 512 := (min_le_left _ _).trans h.tileWidth.le
  have hh : metadata.liveHeight tileRow ≤ 512 := (min_le_left _ _).trans h.tileHeight.le
  apply decodeOwnedChunk_returns_of h hon hinflate hlen (undoPredictor_returns h hlen)
  intro bytes hbytes
  exact clipTile_returns h hbytes hw hh

/-- A tile whose bytes inflate to any other length is an error. -/
theorem decodeOwnedChunk_error (h : metadata.Merit) (tileIndex : ℕ)
    {inflate : List UInt8 → ℕ → Except String (List UInt8)} {compressed : List UInt8} {path : String}
    (hinflate : ∀ inflated, inflate compressed (metadata.paddedBytes + 1) = .ok inflated →
      inflated.length ≠ metadata.paddedBytes) :
    ∃ error, (decodeOwnedChunk inflate compressed metadata tileIndex path).run =
      .ok (.error error) := by
  have hsafe : (decodeOwnedChunk inflate compressed metadata tileIndex path).Safe
      fun _ => False := by
    unfold decodeOwnedChunk
    apply Fallible.safe_orElse_bind
    intro expected hexpected
    obtain rfl := h.expected_eq hexpected
    apply Fallible.safe_failIf_bind
    intro _
    apply Fallible.safe_orElse_bind
    intro readLimit hlimit
    obtain rfl := (checkedAdd_eq_some hlimit).1
    apply Fallible.safe_mapError_bind
    intro inflated hinflated
    apply Fallible.safe_failIf_bind
    intro hlen
    exact absurd (not_not.1 hlen) (hinflate inflated hinflated)
  obtain ⟨result, hrun, hfalse⟩ := hsafe
  cases result with
  | error error => exact ⟨error, hrun⟩
  | ok data => exact (hfalse data rfl).elim

end

end Pourpoint
