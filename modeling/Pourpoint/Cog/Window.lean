import Pourpoint.Cog.Chunk
import Pourpoint.Library.DebugText
import Pourpoint.Zlib

/-!
# Assembling a window

`decode_window` decodes the planned tiles one after another and copies the rows that each shares with
the window. The copy of one tile does not abort and writes exactly the cells whose pixel lies in the
tile (`copyTile_spec`), so every cell of the window is written by one tile of the plan, and the
assembled window is the raster read at the window's offset (`decodeWindow_spec`).
-/

namespace Pourpoint

open Library

/-! ## The copy of one tile -/

/-- The part of a tile that is copied into the window, in raster coordinates. -/
structure CopySpan where
  srcWidth : ℕ
  srcHeight : ℕ
  dstCol : ℕ
  dstRow : ℕ
  copyWidth : ℕ
  copyHeight : ℕ
  deriving DecidableEq, Repr

/-- `tile_copy_span`. The rows and columns of a tile that the window takes. -/
def tileCopySpan (metadata : CogMetadata) (window : RasterPixelWindow) (tileCol tileRow : ℕ) :
    Exec CopySpan := do
  let tileX ← mulU32 tileCol metadata.tileWidth
  let tileY ← mulU32 tileRow metadata.tileHeight
  let srcWidth := min metadata.tileWidth (← subUnsigned metadata.width tileX)
  let srcHeight := min metadata.tileHeight (← subUnsigned metadata.height tileY)
  let dstCol := max window.colOff tileX
  let dstRow := max window.rowOff tileY
  let copyEndCol := min (← addU32 window.colOff window.width) (← addU32 tileX srcWidth)
  let copyEndRow := min (← addU32 window.rowOff window.height) (← addU32 tileY srcHeight)
  let copyWidth ← subUnsigned copyEndCol dstCol
  let copyHeight ← subUnsigned copyEndRow dstRow
  return ⟨srcWidth, srcHeight, dstCol, dstRow, copyWidth, copyHeight⟩

/-- Where a row of the copy starts in the tile and in the window. -/
def rowStarts (metadata : CogMetadata) (window : RasterPixelWindow) (tileCol tileRow : ℕ)
    (span : CopySpan) (row : ℕ) : Exec (ℕ × ℕ) := do
  let rasterRow ← addU32 span.dstRow row
  let srcRow ← subUnsigned rasterRow (← mulU32 tileRow metadata.tileHeight)
  let srcCol ← subUnsigned span.dstCol (← mulU32 tileCol metadata.tileWidth)
  let srcStart ← addU32 (← mulU32 srcRow span.srcWidth) srcCol
  let dstRow ← subUnsigned rasterRow window.rowOff
  let dstCol ← subUnsigned span.dstCol window.colOff
  let dstStart ← addU32 (← mulU32 dstRow window.width) dstCol
  return (srcStart, dstStart)

/-- One turn of the copy loop. -/
def copyRow {α : Type} (tileData : List α) (metadata : CogMetadata) (window : RasterPixelWindow)
    (tileCol tileRow : ℕ) (span : CopySpan) (out : List α) (row : ℕ) : Exec (List α) := do
  let starts ← rowStarts metadata window tileCol tileRow span row
  let values ← readSlice tileData starts.1 span.copyWidth
  writeSlice out starts.2 values

/-- The body that `copy_tile_u8` and `copy_tile_f32` share. -/
def copyTile {α : Type} (tileData out : List α) (metadata : CogMetadata) (window : RasterPixelWindow)
    (tileIndex : ℕ) : Exec (List α) := do
  let tile ← tileColRow metadata tileIndex
  let span ← tileCopySpan metadata window tile.1 tile.2
  (List.range span.copyHeight).foldlM (copyRow tileData metadata window tile.1 tile.2 span) out

/-- `copy_tile_u8`. -/
def copyTileU8 (tileData out : List UInt8) (metadata : CogMetadata) (window : RasterPixelWindow)
    (tileIndex : ℕ) : Exec (List UInt8) :=
  copyTile tileData out metadata window tileIndex

/-- `copy_tile_f32`. -/
def copyTileF32 (tileData out : List F32) (metadata : CogMetadata) (window : RasterPixelWindow)
    (tileIndex : ℕ) : Exec (List F32) :=
  copyTile tileData out metadata window tileIndex

/-- The copy loop of the tile writes the cell at position `k` of the window. -/
def TileWrites (metadata : CogMetadata) (window : RasterPixelWindow) (tileIndex k : ℕ) : Prop :=
  ∃ tile span, tileColRow metadata tileIndex = .ok tile ∧
    tileCopySpan metadata window tile.1 tile.2 = .ok span ∧
    ∃ row < span.copyHeight, ∃ starts,
      rowStarts metadata window tile.1 tile.2 span row = .ok starts ∧
      starts.2 ≤ k ∧ k < starts.2 + span.copyWidth

/-! ### One axis

A tile cuts `[first, last)` from the range `[off, off + size)` of the window along one axis of the
raster, which has `limit` pixels. -/

/-- The pixels of the tile that lie on the raster. -/
def axisLive (limit tile i : ℕ) : ℕ := min tile (limit - i * tile)

/-- The first index of the window in tile `i`. -/
def axisFirst (off tile i : ℕ) : ℕ := max off (i * tile)

/-- The index behind the last one of the window in tile `i`. -/
def axisLast (off size limit tile i : ℕ) : ℕ := min (off + size) (i * tile + axisLive limit tile i)

section Axis

variable {off size limit tile i p : ℕ}

theorem axis_mem (htile : 0 < tile) (hend : off + size ≤ limit) :
    axisFirst off tile i ≤ p ∧ p < axisLast off size limit tile i ↔
      (off ≤ p ∧ p < off + size) ∧ p / tile = i := by
  have hdiv : p / tile = i ↔ i * tile ≤ p ∧ p < i * tile + tile := by
    rw [Nat.div_eq_iff htile]
    constructor <;> intro h <;> omega
  rw [hdiv, axisFirst, axisLast, axisLive]
  omega

theorem axis_lt (hsize : 0 < size) (hend : off + size ≤ limit) (hlt : i * tile < off + size)
    (hgt : off < (i + 1) * tile) : axisFirst off tile i < axisLast off size limit tile i := by
  have htile : 0 < tile := Nat.pos_of_mul_pos_left (Nat.zero_lt_of_lt hgt)
  rw [Nat.succ_mul] at hgt
  rw [axisFirst, axisLast, axisLive]
  generalize i * tile = start at *
  omega

theorem le_axisFirst : off ≤ axisFirst off tile i ∧ i * tile ≤ axisFirst off tile i :=
  ⟨le_max_left _ _, le_max_right _ _⟩

theorem axisLast_le : axisLast off size limit tile i ≤ off + size ∧
    axisLast off size limit tile i ≤ i * tile + axisLive limit tile i :=
  ⟨min_le_left _ _, min_le_right _ _⟩

end Axis

/-! ### Rows of row-major data -/

theorem row_end_le {row rows col len cols : ℕ} (hrow : row < rows) (hcol : col + len ≤ cols) :
    row * cols + col + len ≤ rows * cols := by
  calc row * cols + col + len ≤ row * cols + cols := by omega
    _ = (row + 1) * cols := by ring
    _ ≤ rows * cols := Nat.mul_le_mul_right _ hrow

theorem cell_lt {row rows col cols : ℕ} (hrow : row < rows) (hcol : col < cols) :
    row * cols + col < rows * cols := by
  have hend := row_end_le hrow (show col + 1 ≤ cols from hcol)
  omega

/-- Membership of a cell in a run of cells within one row. -/
theorem mem_row_run {row col len cols r c : ℕ} (hc : c < cols) (hrun : col + len ≤ cols) :
    row * cols + col ≤ r * cols + c ∧ r * cols + c < row * cols + col + len ↔
      r = row ∧ col ≤ c ∧ c < col + len := by
  constructor
  · intro h
    have hr : r = row := by
      rcases Nat.lt_trichotomy r row with hlt | heq | hgt
      · have := Nat.mul_le_mul_right cols hlt
        rw [Nat.succ_mul] at this
        omega
      · exact heq
      · have := Nat.mul_le_mul_right cols hgt
        rw [Nat.succ_mul] at this
        omega
    subst hr
    omega
  · rintro ⟨rfl, h⟩
    omega

/-! ### The span of a tile -/

section Span

variable (metadata : CogMetadata) (window : RasterPixelWindow) (tileCol tileRow : ℕ)

/-- The first column that is copied. -/
def firstCol : ℕ := axisFirst window.colOff metadata.tileWidth tileCol

/-- The first row that is copied. -/
def firstRow : ℕ := axisFirst window.rowOff metadata.tileHeight tileRow

/-- The column behind the last one that is copied. -/
def lastCol : ℕ :=
  axisLast window.colOff window.width metadata.width metadata.tileWidth tileCol

/-- The row behind the last one that is copied. -/
def lastRow : ℕ :=
  axisLast window.rowOff window.height metadata.height metadata.tileHeight tileRow

/-- The span of a tile that meets the window. -/
def copySpan : CopySpan where
  srcWidth := metadata.liveWidth tileCol
  srcHeight := metadata.liveHeight tileRow
  dstCol := firstCol metadata window tileCol
  dstRow := firstRow metadata window tileRow
  copyWidth := lastCol metadata window tileCol - firstCol metadata window tileCol
  copyHeight := lastRow metadata window tileRow - firstRow metadata window tileRow

end Span

section

variable {metadata : CogMetadata} {window : RasterPixelWindow} {tileCol tileRow : ℕ}

theorem firstCol_lt_lastCol (hon : window.On metadata)
    (hmeets : window.Meets metadata tileCol tileRow) :
    firstCol metadata window tileCol < lastCol metadata window tileCol :=
  axis_lt hon.width_pos hon.colEnd_le hmeets.col_lt hmeets.lt_col

theorem firstRow_lt_lastRow (hon : window.On metadata)
    (hmeets : window.Meets metadata tileCol tileRow) :
    firstRow metadata window tileRow < lastRow metadata window tileRow :=
  axis_lt hon.height_pos hon.rowEnd_le hmeets.row_lt hmeets.lt_row

theorem tileCopySpan_eq_ok (hon : window.On metadata)
    (hmeets : window.Meets metadata tileCol tileRow) :
    tileCopySpan metadata window tileCol tileRow =
      .ok (copySpan metadata window tileCol tileRow) := by
  have htile := hmeets.tileOn hon
  have h1 := htile.col_lt
  have h2 := htile.row_lt
  have h3 := hon.colEnd_le
  have h4 := hon.rowEnd_le
  have h5 := metadata.width_lt
  have h6 := metadata.height_lt
  unfold tileCopySpan
  rw [mulU32_eq_ok (by omega), ok_bind, mulU32_eq_ok (by omega), ok_bind,
    subUnsigned_eq_ok (by omega), ok_bind, subUnsigned_eq_ok (by omega), ok_bind,
    addU32_eq_ok (by omega), ok_bind, addU32_eq_ok (by omega), ok_bind,
    addU32_eq_ok (by omega), ok_bind, addU32_eq_ok (by omega), ok_bind]
  show ((subUnsigned (lastCol metadata window tileCol) (firstCol metadata window tileCol)) >>=
    fun copyWidth => (subUnsigned (lastRow metadata window tileRow)
      (firstRow metadata window tileRow)) >>= fun copyHeight => pure (CopySpan.mk
        (metadata.liveWidth tileCol) (metadata.liveHeight tileRow) (firstCol metadata window tileCol)
        (firstRow metadata window tileRow) copyWidth copyHeight)) = _
  rw [subUnsigned_eq_ok (firstCol_lt_lastCol hon hmeets).le, ok_bind,
    subUnsigned_eq_ok (firstRow_lt_lastRow hon hmeets).le, ok_bind]
  rfl

/-- Where the `row`-th row of the copy starts in the tile. -/
def srcStart (metadata : CogMetadata) (window : RasterPixelWindow) (tileCol tileRow row : ℕ) : ℕ :=
  (firstRow metadata window tileRow + row - tileRow * metadata.tileHeight) *
      metadata.liveWidth tileCol +
    (firstCol metadata window tileCol - tileCol * metadata.tileWidth)

/-- Where the `row`-th row of the copy starts in the window. -/
def dstStart (metadata : CogMetadata) (window : RasterPixelWindow) (tileCol tileRow row : ℕ) : ℕ :=
  (firstRow metadata window tileRow + row - window.rowOff) * window.width +
    (firstCol metadata window tileCol - window.colOff)

theorem srcStart_add_le (hon : window.On metadata) (hmeets : window.Meets metadata tileCol tileRow)
    {row : ℕ} (hrow : row < (copySpan metadata window tileCol tileRow).copyHeight) :
    srcStart metadata window tileCol tileRow row +
        (copySpan metadata window tileCol tileRow).copyWidth ≤
      metadata.liveHeight tileRow * metadata.liveWidth tileCol := by
  have hcol := firstCol_lt_lastCol hon hmeets
  have hfirst : tileCol * metadata.tileWidth ≤ firstCol metadata window tileCol := le_axisFirst.2
  have hlast : lastCol metadata window tileCol ≤
      tileCol * metadata.tileWidth + metadata.liveWidth tileCol := axisLast_le.2
  have hfirstRow : tileRow * metadata.tileHeight ≤ firstRow metadata window tileRow := le_axisFirst.2
  have hlastRow : lastRow metadata window tileRow ≤
      tileRow * metadata.tileHeight + metadata.liveHeight tileRow := axisLast_le.2
  simp only [copySpan] at hrow ⊢
  exact row_end_le (by omega) (by omega)

theorem dstStart_add_le (hon : window.On metadata) (hmeets : window.Meets metadata tileCol tileRow)
    {row : ℕ} (hrow : row < (copySpan metadata window tileCol tileRow).copyHeight) :
    dstStart metadata window tileCol tileRow row +
        (copySpan metadata window tileCol tileRow).copyWidth ≤ window.height * window.width := by
  have hcol := firstCol_lt_lastCol hon hmeets
  have hfirst : window.colOff ≤ firstCol metadata window tileCol := le_axisFirst.1
  have hlast : lastCol metadata window tileCol ≤ window.colOff + window.width := axisLast_le.1
  have hfirstRow : window.rowOff ≤ firstRow metadata window tileRow := le_axisFirst.1
  have hlastRow : lastRow metadata window tileRow ≤ window.rowOff + window.height := axisLast_le.1
  simp only [copySpan] at hrow ⊢
  exact row_end_le (by omega) (by omega)

theorem rowStarts_eq_ok (hmerit : metadata.Merit) (hon : window.On metadata)
    (hmeets : window.Meets metadata tileCol tileRow) (halloc : window.height * window.width < 2 ^ 32)
    {row : ℕ} (hrow : row < (copySpan metadata window tileCol tileRow).copyHeight) :
    rowStarts metadata window tileCol tileRow (copySpan metadata window tileCol tileRow) row =
      .ok (srcStart metadata window tileCol tileRow row,
        dstStart metadata window tileCol tileRow row) := by
  have hsrc := srcStart_add_le hon hmeets hrow
  have hdst := dstStart_add_le hon hmeets hrow
  have hlive : metadata.liveHeight tileRow * metadata.liveWidth tileCol ≤ 512 * 512 :=
    Nat.mul_le_mul ((min_le_left _ _).trans hmerit.tileHeight.le)
      ((min_le_left _ _).trans hmerit.tileWidth.le)
  have hlastRow : lastRow metadata window tileRow ≤ window.rowOff + window.height := axisLast_le.1
  have htile := hmeets.tileOn hon
  have h1 := htile.col_lt
  have h2 := htile.row_lt
  have h3 := hon.rowEnd_le
  have h4 := metadata.width_lt
  have h5 := metadata.height_lt
  have h6 : tileRow * metadata.tileHeight ≤ firstRow metadata window tileRow := le_axisFirst.2
  have h7 : tileCol * metadata.tileWidth ≤ firstCol metadata window tileCol := le_axisFirst.2
  have h8 : window.rowOff ≤ firstRow metadata window tileRow := le_axisFirst.1
  have h9 : window.colOff ≤ firstCol metadata window tileCol := le_axisFirst.1
  unfold srcStart at hsrc ⊢
  unfold dstStart at hdst ⊢
  unfold rowStarts
  simp only [copySpan] at hrow ⊢
  rw [addU32_eq_ok (by omega), ok_bind, mulU32_eq_ok (by omega), ok_bind,
    subUnsigned_eq_ok (by omega), ok_bind, mulU32_eq_ok (by omega), ok_bind,
    subUnsigned_eq_ok (by omega), ok_bind, mulU32_eq_ok (by omega), ok_bind,
    addU32_eq_ok (by omega), ok_bind, subUnsigned_eq_ok (by omega), ok_bind,
    subUnsigned_eq_ok (by omega), ok_bind, mulU32_eq_ok (by omega), ok_bind,
    addU32_eq_ok (by omega), ok_bind]
  rfl

/-! ### The copy loop -/

variable {α : Type} {tileData out : List α}

/-- The sample of the tile at a raster position. -/
def tileSample (metadata : CogMetadata) (tileCol tileRow : ℕ) (tileData : List α) (row col : ℕ) :
    Option α :=
  tileData[(row - tileRow * metadata.tileHeight) * metadata.liveWidth tileCol +
    (col - tileCol * metadata.tileWidth)]?

/-- The cells that a turn of the loop overwrites. -/
theorem mem_copiedRow_iff (hon : window.On metadata) (hmeets : window.Meets metadata tileCol tileRow)
    {r c : ℕ} (hc : c < window.width) (row : ℕ) :
    dstStart metadata window tileCol tileRow row ≤ r * window.width + c ∧
        r * window.width + c < dstStart metadata window tileCol tileRow row +
          (copySpan metadata window tileCol tileRow).copyWidth ↔
      window.rowOff + r = firstRow metadata window tileRow + row ∧
        firstCol metadata window tileCol ≤ window.colOff + c ∧
        window.colOff + c < lastCol metadata window tileCol := by
  have hlt := firstCol_lt_lastCol hon hmeets
  have hrow : window.rowOff ≤ firstRow metadata window tileRow := le_axisFirst.1
  have hcol : window.colOff ≤ firstCol metadata window tileCol := le_axisFirst.1
  have hlast : lastCol metadata window tileCol ≤ window.colOff + window.width := axisLast_le.1
  have hfit : firstCol metadata window tileCol - window.colOff +
      (copySpan metadata window tileCol tileRow).copyWidth ≤ window.width := by
    simp only [copySpan]
    omega
  rw [dstStart, mem_row_run hc hfit]
  simp only [copySpan]
  omega

/-- A turn of the loop overwrites one row of the span with samples of the tile. -/
theorem copyRow_spec (hmerit : metadata.Merit) (hon : window.On metadata)
    (hmeets : window.Meets metadata tileCol tileRow) (halloc : window.height * window.width < 2 ^ 32)
    (hdata : tileData.length = metadata.liveHeight tileRow * metadata.liveWidth tileCol)
    (hout : out.length = window.height * window.width) {row : ℕ}
    (hrow : row < (copySpan metadata window tileCol tileRow).copyHeight) :
    ∃ copied, copyRow tileData metadata window tileCol tileRow
        (copySpan metadata window tileCol tileRow) out row = .ok copied ∧
      copied.length = window.height * window.width ∧
      ∀ r c, c < window.width → copied[r * window.width + c]? =
        if window.rowOff + r = firstRow metadata window tileRow + row ∧
            firstCol metadata window tileCol ≤ window.colOff + c ∧
            window.colOff + c < lastCol metadata window tileCol then
          tileSample metadata tileCol tileRow tileData (window.rowOff + r) (window.colOff + c)
        else out[r * window.width + c]? := by
  have hsrc := srcStart_add_le hon hmeets hrow
  have hdst := dstStart_add_le hon hmeets hrow
  have hlt := firstCol_lt_lastCol hon hmeets
  have h1 : window.rowOff ≤ firstRow metadata window tileRow := le_axisFirst.1
  have h2 : window.colOff ≤ firstCol metadata window tileCol := le_axisFirst.1
  have h3 : tileCol * metadata.tileWidth ≤ firstCol metadata window tileCol := le_axisFirst.2
  have h4 : lastCol metadata window tileCol ≤ window.colOff + window.width := axisLast_le.1
  have hwidth : (copySpan metadata window tileCol tileRow).copyWidth =
      lastCol metadata window tileCol - firstCol metadata window tileCol := rfl
  have hvalues : ((tileData.drop (srcStart metadata window tileCol tileRow row)).take
      (copySpan metadata window tileCol tileRow).copyWidth).length =
        (copySpan metadata window tileCol tileRow).copyWidth := by
    rw [List.length_take, List.length_drop]
    omega
  refine ⟨splice out (dstStart metadata window tileCol tileRow row)
    ((tileData.drop (srcStart metadata window tileCol tileRow row)).take
      (copySpan metadata window tileCol tileRow).copyWidth), ?_, ?_, ?_⟩
  · rw [copyRow, rowStarts_eq_ok hmerit hon hmeets halloc hrow, ok_bind,
      readSlice_eq_ok (by omega), ok_bind]
    dsimp only
    exact writeSlice_eq_ok (by omega)
  · rw [length_splice (by omega), hout]
  · intro r c hc
    have hrun := mem_copiedRow_iff hon hmeets (r := r) hc row
    rw [getElem?_splice (by omega), hvalues]
    by_cases hin : window.rowOff + r = firstRow metadata window tileRow + row ∧
      firstCol metadata window tileCol ≤ window.colOff + c ∧
      window.colOff + c < lastCol metadata window tileCol
    · have hr : r = firstRow metadata window tileRow + row - window.rowOff := by omega
      have hmem := hrun.2 hin
      rw [if_pos hin, if_pos hmem, List.getElem?_take_of_lt (by omega), List.getElem?_drop,
        tileSample]
      congr 1
      unfold srcStart dstStart
      rw [hin.1, hr]
      omega
    · rw [if_neg hin, if_neg (mt hrun.1 hin)]

/-- After `n` turns the first `n` rows of the span are copied. -/
theorem copyRows_spec (hmerit : metadata.Merit) (hon : window.On metadata)
    (hmeets : window.Meets metadata tileCol tileRow) (halloc : window.height * window.width < 2 ^ 32)
    (hdata : tileData.length = metadata.liveHeight tileRow * metadata.liveWidth tileCol)
    (hout : out.length = window.height * window.width) {n : ℕ}
    (hn : n ≤ (copySpan metadata window tileCol tileRow).copyHeight) :
    ∃ copied, (List.range n).foldlM (copyRow tileData metadata window tileCol tileRow
        (copySpan metadata window tileCol tileRow)) out = .ok copied ∧
      copied.length = window.height * window.width ∧
      ∀ r c, c < window.width → copied[r * window.width + c]? =
        if (firstRow metadata window tileRow ≤ window.rowOff + r ∧
              window.rowOff + r < firstRow metadata window tileRow + n) ∧
            firstCol metadata window tileCol ≤ window.colOff + c ∧
            window.colOff + c < lastCol metadata window tileCol then
          tileSample metadata tileCol tileRow tileData (window.rowOff + r) (window.colOff + c)
        else out[r * window.width + c]? := by
  induction n with
  | zero =>
    refine ⟨out, rfl, hout, ?_⟩
    intro r c _
    rw [if_neg (by omega)]
  | succ n ih =>
    obtain ⟨before, hbefore, hlen, hcells⟩ := ih (by omega)
    have hrow : n < (copySpan metadata window tileCol tileRow).copyHeight := by omega
    obtain ⟨copied, hcopied, hlen', hcells'⟩ :=
      copyRow_spec hmerit hon hmeets halloc hdata hlen hrow
    refine ⟨copied, ?_, hlen', ?_⟩
    · rw [List.range_succ, List.foldlM_append, hbefore]
      show copyRow _ _ _ _ _ _ before n >>= pure = _
      rw [hcopied]
      rfl
    · intro r c hc
      rw [hcells' r c hc, hcells r c hc]
      split_ifs <;> first | rfl | omega

theorem mem_span_iff (hmerit : metadata.Merit) (hon : window.On metadata) {r c : ℕ}
    (hr : r < window.height) (hc : c < window.width) :
    (firstRow metadata window tileRow ≤ window.rowOff + r ∧
          window.rowOff + r < lastRow metadata window tileRow) ∧
        firstCol metadata window tileCol ≤ window.colOff + c ∧
        window.colOff + c < lastCol metadata window tileCol ↔
      (window.rowOff + r) / metadata.tileHeight = tileRow ∧
        (window.colOff + c) / metadata.tileWidth = tileCol := by
  rw [firstRow, lastRow, axis_mem hmerit.tileHeight_pos hon.rowEnd_le, firstCol, lastCol,
    axis_mem hmerit.tileWidth_pos hon.colEnd_le]
  constructor
  · intro h
    exact ⟨h.1.2, h.2.2⟩
  · intro h
    exact ⟨⟨⟨by omega, by omega⟩, h.1⟩, ⟨by omega, by omega⟩, h.2⟩

/-- **The copy of a tile** does not abort and writes the samples of the tile at the pixels of the
window that lie in the tile. -/
theorem copyTile_spec (hmerit : metadata.Merit) (hon : window.On metadata)
    (hmeets : window.Meets metadata tileCol tileRow) (halloc : window.height * window.width < 2 ^ 32)
    (hdata : tileData.length = metadata.liveHeight tileRow * metadata.liveWidth tileCol)
    (hout : out.length = window.height * window.width) :
    ∃ copied, copyTile tileData out metadata window (metadata.tileIndex tileCol tileRow) =
        .ok copied ∧
      copied.length = window.height * window.width ∧
      ∀ r c, r < window.height → c < window.width → copied[r * window.width + c]? =
        if (window.rowOff + r) / metadata.tileHeight = tileRow ∧
            (window.colOff + c) / metadata.tileWidth = tileCol then
          tileSample metadata tileCol tileRow tileData (window.rowOff + r) (window.colOff + c)
        else out[r * window.width + c]? := by
  obtain ⟨copied, hcopied, hlen, hcells⟩ :=
    copyRows_spec hmerit hon hmeets halloc hdata hout le_rfl
  refine ⟨copied, ?_, hlen, ?_⟩
  · rw [copyTile, tileColRow_tileIndex hmerit (hmeets.tileOn hon), ok_bind,
      tileCopySpan_eq_ok hon hmeets, ok_bind, hcopied]
  · intro r c hr hc
    rw [hcells r c hc]
    simp only [copySpan, Nat.add_sub_cancel' (firstRow_lt_lastRow hon hmeets).le,
      mem_span_iff hmerit hon hr hc]

/-- A tile writes exactly the cells whose pixel lies in it. -/
theorem tileWrites_iff (hmerit : metadata.Merit) (hon : window.On metadata)
    (hmeets : window.Meets metadata tileCol tileRow) (halloc : window.height * window.width < 2 ^ 32)
    {r c : ℕ} (hr : r < window.height) (hc : c < window.width) :
    TileWrites metadata window (metadata.tileIndex tileCol tileRow) (r * window.width + c) ↔
      (window.rowOff + r) / metadata.tileHeight = tileRow ∧
        (window.colOff + c) / metadata.tileWidth = tileCol := by
  rw [← mem_span_iff hmerit hon hr hc]
  have hcolRow := tileColRow_tileIndex hmerit (hmeets.tileOn hon)
  have hcopySpan := tileCopySpan_eq_ok hon hmeets
  have hrun := mem_copiedRow_iff hon hmeets (r := r) hc
  constructor
  · rintro ⟨tile, span, htile, hspan, row, hrow, starts, hstarts, hle, hlt⟩
    rw [hcolRow] at htile
    cases htile
    rw [hcopySpan] at hspan
    cases hspan
    rw [rowStarts_eq_ok hmerit hon hmeets halloc hrow] at hstarts
    cases hstarts
    have hcell := (hrun row).1 ⟨hle, hlt⟩
    simp only [copySpan] at hrow
    exact ⟨⟨by omega, by omega⟩, hcell.2⟩
  · rintro ⟨hrows, hcols⟩
    have hrow : window.rowOff + r - firstRow metadata window tileRow <
        (copySpan metadata window tileCol tileRow).copyHeight := by
      simp only [copySpan]
      omega
    exact ⟨(tileCol, tileRow), copySpan metadata window tileCol tileRow, hcolRow, hcopySpan, _, hrow,
      _, rowStarts_eq_ok hmerit hon hmeets halloc hrow, (hrun _).2 ⟨by omega, hcols⟩⟩

end

/-! ## The window -/

/-- A tile and its bytes in the object. -/
structure ResolvedTile where
  index : ℕ
  rangeStart : ℕ
  rangeEnd : ℕ
  deriving DecidableEq, Repr

/-- The tiles of a window with their bytes. -/
structure ResolvedTilePlan where
  objectSize : ℕ
  tiles : List ResolvedTile
  compressedBytes : ℕ
  deriving DecidableEq, Repr

/-- The cells of a window. -/
inductive WindowData where
  | u8 (data : List UInt8)
  | f32 (data : List F32)
  deriving DecidableEq, Repr

namespace WindowData

def length : WindowData → ℕ
  | u8 data => data.length
  | f32 data => data.length

def get? : WindowData → ℕ → Option Sample
  | u8 data, i => data[i]?.map Sample.u8
  | f32 data, i => data[i]?.map Sample.f32

end WindowData

/-- The ceiling on the bytes of one window. -/
def maxWindowAllocationBytes : ℕ := 1073741824

/-- `window_allocation_len`. The size in bytes is checked as well. -/
def windowAllocationLen (path : String) (width height sampleWidth : ℕ) : Fallible CacheError ℕ := do
  let elements ← Fallible.orElse (remoteLayoutError path "TIFF window element count overflow")
    (checkedMul 64 width height)
  let bytes ← Fallible.orElse (remoteLayoutError path "TIFF window allocation bytes overflow")
    (checkedMul 64 elements sampleWidth)
  Fallible.failIf (maxWindowAllocationBytes < bytes) (remoteLayoutError path
    s!"TIFF window allocation bytes {bytes} exceeds window ceiling {maxWindowAllocationBytes}")
  pure elements

/-- `direction_nodata_byte`. -/
def directionNodataByte (sampleType : CogSampleType) (declared : String) (remotePath : String) :
    Fallible CacheError UInt8 :=
  match sampleType with
  | .u8 => Fallible.orElse
      (remoteLayoutError remotePath s!"declared U8 nodata {debugStr declared} is not representable as u8")
      (parseU8 declared)
  | .i8 => Fallible.orElse
      (remoteLayoutError remotePath s!"declared I8 nodata {debugStr declared} is not representable as i8")
      (parseI8AsU8 declared)
  | .f32 | .i32 => Fallible.fail
      (remoteLayoutError remotePath s!"sample type {sampleType.debug} does not use byte nodata")

/-- The samples of a byte tile. -/
def expectU8 (remotePath : String) : OwnedTileData → Fallible CacheError (List UInt8)
  | .u8 data => pure data
  | .f32 _ => Fallible.fail (remoteLayoutError remotePath "decoded tile type mismatch")

/-- The samples of an `f32` tile. -/
def expectF32 (remotePath : String) : OwnedTileData → Fallible CacheError (List F32)
  | .f32 data => pure data
  | .u8 _ => Fallible.fail (remoteLayoutError remotePath "decoded tile type mismatch")

/-- The loop of `decode_window` over the tiles and their bytes. -/
def assembleTiles {α : Type} (decode : ℕ → List UInt8 → Fallible CacheError (List α))
    (copy : List α → List α → CogMetadata → RasterPixelWindow → ℕ → Exec (List α))
    (metadata : CogMetadata) (window : RasterPixelWindow) :
    List (ResolvedTile × List UInt8) → List α → Fallible CacheError (List α)
  | [], out => pure out
  | (tile, bytes) :: rest, out => do
    let data ← decode tile.index bytes
    let out ← copy data out metadata window tile.index
    assembleTiles decode copy metadata window rest out

/-- `decode_window`. Each tile is decoded and copied into the window. -/
def decodeWindow (inflate : List UInt8 → ℕ → Except String (List UInt8))
    (compressed : List (List UInt8)) (metadata : CogMetadata) (window : RasterPixelWindow)
    (plan : ResolvedTilePlan) (remotePath : String) : Fallible CacheError WindowData :=
  match metadata.sampleType with
  | .u8 | .i8 => do
    let nodata ← directionNodataByte metadata.sampleType metadata.nodata remotePath
    let length ← windowAllocationLen remotePath window.width window.height 1
    let out ← assembleTiles
      (fun index bytes => decodeOwnedChunk inflate bytes metadata index remotePath >>=
        expectU8 remotePath)
      copyTileU8 metadata window (plan.tiles.zip compressed) (List.replicate length nodata)
    return .u8 out
  | .f32 | .i32 => do
    let length ← windowAllocationLen remotePath window.width window.height 4
    let nodata := (parseF32 metadata.nodata).getD F32.nan
    let out ← assembleTiles
      (fun index bytes => decodeOwnedChunk inflate bytes metadata index remotePath >>=
        expectF32 remotePath)
      copyTileF32 metadata window (plan.tiles.zip compressed) (List.replicate length nodata)
    return .f32 out

/-! ## Exactness -/

/-- The index of the tile that a raster pixel lies in. -/
def CogMetadata.pixelTile (metadata : CogMetadata) (row col : ℕ) : ℕ :=
  metadata.tileIndex (col / metadata.tileWidth) (row / metadata.tileHeight)

/-- The position of a raster pixel in the live data of its tile. -/
def CogMetadata.pixelPosition (metadata : CogMetadata) (row col : ℕ) : ℕ :=
  row % metadata.tileHeight * metadata.liveWidth (col / metadata.tileWidth) +
    col % metadata.tileWidth

/-- The sample of the source raster, where `decoded` holds the live data of each tile. -/
def sourceSample (metadata : CogMetadata) (decoded : ℕ → OwnedTileData) (row col : ℕ) :
    Option Sample :=
  (decoded (metadata.pixelTile row col)).get? (metadata.pixelPosition row col)

section

variable {metadata : CogMetadata} {window : RasterPixelWindow} {α : Type}

theorem tileSample_pixelTile (tileData : List α) (row col : ℕ) :
    tileSample metadata (col / metadata.tileWidth) (row / metadata.tileHeight) tileData row col =
      tileData[metadata.pixelPosition row col]? := by
  have hrow := Nat.div_add_mod' row metadata.tileHeight
  have hcol := Nat.div_add_mod' col metadata.tileWidth
  rw [tileSample, CogMetadata.pixelPosition,
    show row - row / metadata.tileHeight * metadata.tileHeight = row % metadata.tileHeight by omega,
    show col - col / metadata.tileWidth * metadata.tileWidth = col % metadata.tileWidth by omega]

theorem meets_pixelTile (hmerit : metadata.Merit) {r c : ℕ} (hr : r < window.height)
    (hc : c < window.width) :
    window.Meets metadata ((window.colOff + c) / metadata.tileWidth)
      ((window.rowOff + r) / metadata.tileHeight) := by
  have h1 := Nat.div_mul_le_self (window.colOff + c) metadata.tileWidth
  have h2 := Nat.div_mul_le_self (window.rowOff + r) metadata.tileHeight
  have h3 := (Nat.div_lt_iff_lt_mul hmerit.tileWidth_pos).1
    (Nat.lt_succ_self ((window.colOff + c) / metadata.tileWidth))
  have h4 := (Nat.div_lt_iff_lt_mul hmerit.tileHeight_pos).1
    (Nat.lt_succ_self ((window.rowOff + r) / metadata.tileHeight))
  exact ⟨by omega, (Nat.le_add_right _ _).trans_lt h3, by omega, (Nat.le_add_right _ _).trans_lt h4⟩

/-- The loop over the tiles: the cells of the tiles seen so far hold their samples. -/
theorem assembleTiles_safe (hmerit : metadata.Merit) (hon : window.On metadata)
    (halloc : window.height * window.width < 2 ^ 32)
    {decode : ℕ → List UInt8 → Fallible CacheError (List α)}
    (tiles : List (ResolvedTile × List UInt8))
    (hmeets : ∀ tile ∈ tiles, ∃ tileCol tileRow, window.Meets metadata tileCol tileRow ∧
      tile.1.index = metadata.tileIndex tileCol tileRow)
    (hnodup : (tiles.map (·.1.index)).Nodup)
    (hdecode : ∀ tileCol tileRow bytes, metadata.TileOn tileCol tileRow →
      (decode (metadata.tileIndex tileCol tileRow) bytes).Safe fun data =>
        data.length = metadata.liveHeight tileRow * metadata.liveWidth tileCol)
    (out : List α) (hout : out.length = window.height * window.width) :
    (assembleTiles decode copyTile metadata window tiles out).Safe fun result =>
      result.length = window.height * window.width ∧ ∃ decoded : ℕ → List α,
        (∀ tile ∈ tiles, (decode tile.1.index tile.2).run = .ok (.ok (decoded tile.1.index))) ∧
        ∀ r c, r < window.height → c < window.width → result[r * window.width + c]? =
          if metadata.pixelTile (window.rowOff + r) (window.colOff + c) ∈ tiles.map (·.1.index) then
            (decoded (metadata.pixelTile (window.rowOff + r) (window.colOff + c)))[
              metadata.pixelPosition (window.rowOff + r) (window.colOff + c)]?
          else out[r * window.width + c]? := by
  induction tiles generalizing out with
  | nil =>
    apply Fallible.safe_pure
    refine ⟨hout, fun _ => [], by simp, ?_⟩
    intro r c _ _
    rw [if_neg (by simp)]
  | cons head rest ih =>
    obtain ⟨tileCol, tileRow, hhead, hindex⟩ := hmeets head (by simp)
    rw [List.map_cons, List.nodup_cons] at hnodup
    have hon' := hhead.tileOn hon
    rw [assembleTiles]
    apply Fallible.safe_bind (Fallible.safe_run (hindex ▸ hdecode tileCol tileRow head.2 hon'))
    rintro data ⟨hrun, hdata⟩
    obtain ⟨copied, hcopied, hlen, hcells⟩ := copyTile_spec hmerit hon hhead halloc hdata hout
    rw [← hindex] at hcopied
    apply Fallible.safe_lift_bind hcopied
    refine Fallible.safe_mono (ih (fun tile htile => hmeets tile (by simp [htile])) hnodup.2 copied hlen)
      ?_
    rintro result ⟨hresult, decoded, hdecoded, hvalues⟩
    refine ⟨hresult, Function.update decoded head.1.index data, ?_, ?_⟩
    · intro tile htile
      rcases List.mem_cons.1 htile with rfl | htile
      · rw [Function.update_self, hrun]
      · have hne : tile.1.index ≠ head.1.index := by
          intro heq
          exact hnodup.1 (heq ▸ List.mem_map_of_mem htile)
        rw [Function.update_of_ne hne, hdecoded tile htile]
    · intro r c hr hc
      have hpixel := (meets_pixelTile hmerit hr hc).tileOn hon
      have hiff : (window.rowOff + r) / metadata.tileHeight = tileRow ∧
          (window.colOff + c) / metadata.tileWidth = tileCol ↔
          metadata.pixelTile (window.rowOff + r) (window.colOff + c) = head.1.index := by
        constructor
        · rintro ⟨rfl, rfl⟩
          exact hindex.symm
        · intro heq
          rw [hindex] at heq
          exact (CogMetadata.tileIndex_injective hmerit hpixel hon' heq).symm
      rw [hvalues r c hr hc, hcells r c hr hc, List.map_cons]
      by_cases hin : metadata.pixelTile (window.rowOff + r) (window.colOff + c) = head.1.index
      · have hrest : metadata.pixelTile (window.rowOff + r) (window.colOff + c) ∉
            rest.map (·.1.index) := by
          rw [hin]
          exact hnodup.1
        obtain ⟨hrow, hcol⟩ := hiff.2 hin
        rw [if_neg hrest, if_pos (hiff.2 hin), if_pos (by simp [hin]), hin, Function.update_self,
          ← hrow, ← hcol, tileSample_pixelTile]
      · rw [if_neg (mt hiff.1 hin), Function.update_of_ne hin]
        simp only [List.mem_cons, hin, false_or]

/-- The loop returns when every chunk is decoded. -/
theorem assembleTiles_returns (hmerit : metadata.Merit) (hon : window.On metadata)
    (halloc : window.height * window.width < 2 ^ 32)
    {decode : ℕ → List UInt8 → Fallible CacheError (List α)}
    (tiles : List (ResolvedTile × List UInt8))
    (htiles : ∀ tile ∈ tiles, ∃ tileCol tileRow, window.Meets metadata tileCol tileRow ∧
      tile.1.index = metadata.tileIndex tileCol tileRow ∧
      (decode tile.1.index tile.2).Returns fun data =>
        data.length = metadata.liveHeight tileRow * metadata.liveWidth tileCol)
    (out : List α) (hout : out.length = window.height * window.width) :
    (assembleTiles decode copyTile metadata window tiles out).Returns fun _ => True := by
  induction tiles generalizing out with
  | nil => exact Fallible.returns_pure trivial
  | cons head rest ih =>
    obtain ⟨tileCol, tileRow, hhead, hindex, hdecode⟩ := htiles head (by simp)
    rw [assembleTiles]
    apply Fallible.returns_bind hdecode
    intro data hdata
    obtain ⟨copied, hcopied, hlen, -⟩ := copyTile_spec hmerit hon hhead halloc hdata hout
    rw [← hindex] at hcopied
    apply Fallible.returns_lift_bind hcopied
    exact ih (fun tile htile => htiles tile (by simp [htile])) copied hlen

theorem zip_index {resolved : ResolvedTilePlan} {plan : TilePlan} {compressed : List (List UInt8)}
    (hresolved : resolved.tiles.map (·.index) = plan.indices)
    (hlen : compressed.length = resolved.tiles.length) :
    (resolved.tiles.zip compressed).map (·.1.index) = plan.indices := by
  calc (resolved.tiles.zip compressed).map (·.1.index)
      = ((resolved.tiles.zip compressed).map Prod.fst).map (·.index) := by
        rw [List.map_map]
        rfl
    _ = plan.indices := by rw [List.map_fst_zip hlen.ge, hresolved]

theorem windowAllocationLen_safe {path : String} {width height sampleWidth : ℕ}
    (hsample : 0 < sampleWidth) :
    (windowAllocationLen path width height sampleWidth).Safe fun length =>
      length = height * width ∧ height * width < 2 ^ 32 := by
  unfold windowAllocationLen
  apply Fallible.safe_orElse_bind
  intro elements helements
  apply Fallible.safe_orElse_bind
  intro bytes hbytes
  apply Fallible.safe_failIf_bind
  intro hceiling
  obtain rfl := (checkedMul_eq_some helements).1
  obtain rfl := (checkedMul_eq_some hbytes).1
  have hle : width * height ≤ width * height * sampleWidth := Nat.le_mul_of_pos_right _ hsample
  unfold maxWindowAllocationBytes at hceiling
  rw [Nat.mul_comm height width]
  exact Fallible.safe_pure ⟨rfl, by omega⟩

theorem windowAllocationLen_returns {path : String} {width height sampleWidth : ℕ}
    (hsample : 0 < sampleWidth) (hsize : width * height * sampleWidth ≤ maxWindowAllocationBytes) :
    (windowAllocationLen path width height sampleWidth).Returns fun length =>
      length = height * width ∧ height * width < 2 ^ 32 := by
  have hle : width * height ≤ width * height * sampleWidth := Nat.le_mul_of_pos_right _ hsample
  unfold maxWindowAllocationBytes at hsize
  unfold windowAllocationLen
  apply Fallible.returns_orElse_bind (checkedMul_of_lt (by omega))
  apply Fallible.returns_orElse_bind (checkedMul_of_lt (by omega))
  apply Fallible.returns_failIf_bind (by unfold maxWindowAllocationBytes; omega)
  rw [Nat.mul_comm height width]
  exact Fallible.returns_pure ⟨rfl, by omega⟩

theorem directionNodataByte_safe (sampleType : CogSampleType) (declared path : String) :
    (directionNodataByte sampleType declared path).Safe fun _ => True := by
  unfold directionNodataByte
  split
  · exact Fallible.safe_orElse fun _ _ => trivial
  · exact Fallible.safe_orElse fun _ _ => trivial
  · exact Fallible.safe_fail _
  · exact Fallible.safe_fail _

/-- What an assembled window is, for the tiles that were decoded. -/
structure WindowExact (inflate : List UInt8 → ℕ → Except String (List UInt8))
    (compressed : List (List UInt8)) (metadata : CogMetadata) (window : RasterPixelWindow)
    (plan : TilePlan) (resolved : ResolvedTilePlan) (path : String) (data : WindowData) : Prop where
  length_eq : data.length = window.height * window.width
  /-- No tile is planned twice. -/
  nodup : plan.indices.Nodup
  /-- Every planned tile writes a cell. -/
  writes_some : ∀ index ∈ plan.indices, ∃ k < window.height * window.width,
    TileWrites metadata window index k
  /-- Every cell is written by one planned tile. -/
  written_once : ∀ k < window.height * window.width,
    ∃! index, index ∈ plan.indices ∧ TileWrites metadata window index k
  /-- The cells are the samples of the source raster at the offset of the window. -/
  samples : ∃ decoded : ℕ → OwnedTileData,
    (∀ tile ∈ resolved.tiles.zip compressed,
      (decodeOwnedChunk inflate tile.2 metadata tile.1.index path).run =
        .ok (.ok (decoded tile.1.index))) ∧
    ∀ r c, r < window.height → c < window.width → ∃ sample,
      sourceSample metadata decoded (window.rowOff + r) (window.colOff + c) = some sample ∧
      data.get? (r * window.width + c) = some sample

theorem writes_some_of_plan (hmerit : metadata.Merit) (hon : window.On metadata)
    (halloc : window.height * window.width < 2 ^ 32) {tileCol tileRow : ℕ}
    (hmeets : window.Meets metadata tileCol tileRow) :
    ∃ k < window.height * window.width,
      TileWrites metadata window (metadata.tileIndex tileCol tileRow) k := by
  have hcol := firstCol_lt_lastCol hon hmeets
  have hrow := firstRow_lt_lastRow hon hmeets
  have h1 : window.rowOff ≤ firstRow metadata window tileRow := le_axisFirst.1
  have h2 : window.colOff ≤ firstCol metadata window tileCol := le_axisFirst.1
  have h3 : lastRow metadata window tileRow ≤ window.rowOff + window.height := axisLast_le.1
  have h4 : lastCol metadata window tileCol ≤ window.colOff + window.width := axisLast_le.1
  have hr : firstRow metadata window tileRow - window.rowOff < window.height := by omega
  have hc : firstCol metadata window tileCol - window.colOff < window.width := by omega
  refine ⟨(firstRow metadata window tileRow - window.rowOff) * window.width +
    (firstCol metadata window tileCol - window.colOff), ?_, ?_⟩
  · exact cell_lt hr hc
  · rw [tileWrites_iff hmerit hon hmeets halloc hr hc, ← mem_span_iff hmerit hon hr hc]
    exact ⟨⟨by omega, by omega⟩, by omega, by omega⟩

/-- A cell of the window is written by the tile of its pixel and by no other planned tile. -/
theorem written_once_of_plan (hmerit : metadata.Merit) (hon : window.On metadata)
    (halloc : window.height * window.width < 2 ^ 32) {path : String} {plan : TilePlan}
    (hplan : (TilePlan.forWindow metadata window path).run = .ok (.ok plan)) {k : ℕ}
    (hk : k < window.height * window.width) :
    ∃! index, index ∈ plan.indices ∧ TileWrites metadata window index k := by
  have hmem : ∀ index, index ∈ plan.indices ↔ _ := fun index => TilePlan.mem_indices_iff hmerit hplan
  obtain ⟨r, c, hr, hc, rfl⟩ : ∃ r c, r < window.height ∧ c < window.width ∧
      k = r * window.width + c :=
    ⟨k / window.width, k % window.width, Nat.div_lt_of_lt_mul (by rwa [Nat.mul_comm]),
      Nat.mod_lt _ hon.width_pos, (Nat.div_add_mod' k window.width).symm⟩
  have hmeets := meets_pixelTile hmerit hr hc
  refine ⟨metadata.pixelTile (window.rowOff + r) (window.colOff + c), ⟨?_, ?_⟩, ?_⟩
  · exact (hmem _).2 ⟨_, _, hmeets, rfl⟩
  · exact (tileWrites_iff hmerit hon hmeets halloc hr hc).2 ⟨rfl, rfl⟩
  · rintro index ⟨hindex, hwrites⟩
    obtain ⟨tileCol, tileRow, hother, rfl⟩ := (hmem index).1 hindex
    obtain ⟨rfl, rfl⟩ := (tileWrites_iff hmerit hon hother halloc hr hc).1 hwrites
    rfl

section Assembled

variable {inflate : List UInt8 → ℕ → Except String (List UInt8)} {compressed : List (List UInt8)}
  {path : String} {plan : TilePlan} {resolved : ResolvedTilePlan}

/-- The assembly loop with a decoder of one sample type gives an exact window. -/
theorem assembleTiles_exact (hmerit : metadata.Merit) (hon : window.On metadata)
    (halloc : window.height * window.width < 2 ^ 32)
    (hplan : (TilePlan.forWindow metadata window path).run = .ok (.ok plan))
    (hresolved : resolved.tiles.map (·.index) = plan.indices)
    (hlen : compressed.length = resolved.tiles.length)
    {decode : ℕ → List UInt8 → Fallible CacheError (List α)}
    (wrap : List α → WindowData) (own : List α → OwnedTileData) (toSample : α → Sample)
    (hwrap : ∀ l i, (wrap l).get? i = l[i]?.map toSample)
    (hwrapLen : ∀ l, (wrap l).length = l.length)
    (hown : ∀ l i, (own l).get? i = l[i]?.map toSample)
    (hsafe : ∀ tileCol tileRow bytes, metadata.TileOn tileCol tileRow →
      (decode (metadata.tileIndex tileCol tileRow) bytes).Safe fun data =>
        data.length = metadata.liveHeight tileRow * metadata.liveWidth tileCol)
    (hdecode : ∀ index bytes data, (decode index bytes).run = .ok (.ok data) →
      (decodeOwnedChunk inflate bytes metadata index path).run = .ok (.ok (own data)))
    (fill : α) :
    (assembleTiles decode copyTile metadata window (resolved.tiles.zip compressed)
        (List.replicate (window.height * window.width) fill)).Safe fun result =>
      WindowExact inflate compressed metadata window plan resolved path (wrap result) := by
  have hindices := zip_index hresolved hlen
  have hmem : ∀ index, index ∈ plan.indices ↔ _ := fun index => TilePlan.mem_indices_iff hmerit hplan
  have hnodup := TilePlan.nodup_indices hmerit hon hplan
  refine Fallible.safe_mono (assembleTiles_safe hmerit hon halloc (resolved.tiles.zip compressed) ?_
    (hindices ▸ hnodup) hsafe _ List.length_replicate) ?_
  · intro tile htile
    exact (hmem tile.1.index).1 (hindices ▸ List.mem_map_of_mem htile)
  · rintro result ⟨hlength, decoded, hdecoded, hcells⟩
    refine ⟨(hwrapLen result).trans hlength, hnodup, ?_, ?_, fun index => own (decoded index), ?_, ?_⟩
    · intro index hindex
      obtain ⟨tileCol, tileRow, hmeets, rfl⟩ := (hmem index).1 hindex
      exact writes_some_of_plan hmerit hon halloc hmeets
    · intro k hk
      exact written_once_of_plan hmerit hon halloc hplan hk
    · intro tile htile
      exact hdecode _ _ _ (hdecoded tile htile)
    · intro r c hr hc
      have hpixel : metadata.pixelTile (window.rowOff + r) (window.colOff + c) ∈
          (resolved.tiles.zip compressed).map (·.1.index) := by
        rw [hindices, hmem]
        exact ⟨_, _, meets_pixelTile hmerit hr hc, rfl⟩
      have hcell := hcells r c hr hc
      rw [if_pos hpixel] at hcell
      have hk : r * window.width + c < result.length := by
        rw [hlength]
        exact cell_lt hr hc
      refine ⟨toSample result[r * window.width + c], ?_, ?_⟩
      · rw [sourceSample, hown, ← hcell, List.getElem?_eq_getElem hk, Option.map_some]
      · rw [hwrap, List.getElem?_eq_getElem hk, Option.map_some]

theorem expectU8_safe (hmerit : metadata.Merit) (htype : metadata.sampleType.isByte = true)
    {tileCol tileRow : ℕ} (bytes : List UInt8) (hon : metadata.TileOn tileCol tileRow) :
    (decodeOwnedChunk inflate bytes metadata (metadata.tileIndex tileCol tileRow) path >>=
        expectU8 path).Safe fun data =>
      data.length = metadata.liveHeight tileRow * metadata.liveWidth tileCol := by
  apply Fallible.safe_bind (decodeOwnedChunk_safe hmerit hon)
  rintro (data | data) ⟨hdata, hlength⟩
  · exact Fallible.safe_pure hlength
  · rw [OwnedTileData.HasType, htype] at hdata
    cases hdata

theorem expectF32_safe (hmerit : metadata.Merit) (htype : metadata.sampleType.isByte = false)
    {tileCol tileRow : ℕ} (bytes : List UInt8) (hon : metadata.TileOn tileCol tileRow) :
    (decodeOwnedChunk inflate bytes metadata (metadata.tileIndex tileCol tileRow) path >>=
        expectF32 path).Safe fun data =>
      data.length = metadata.liveHeight tileRow * metadata.liveWidth tileCol := by
  apply Fallible.safe_bind (decodeOwnedChunk_safe hmerit hon)
  rintro (data | data) ⟨hdata, hlength⟩
  · rw [OwnedTileData.HasType, htype] at hdata
    cases hdata
  · exact Fallible.safe_pure hlength

theorem expectU8_returns (hmerit : metadata.Merit) (htype : metadata.sampleType.isByte = true)
    {tileCol tileRow : ℕ} {bytes inflated : List UInt8} (hon : metadata.TileOn tileCol tileRow)
    (hinflate : inflate bytes (metadata.paddedBytes + 1) = .ok inflated)
    (hlen : inflated.length = metadata.paddedBytes) :
    (decodeOwnedChunk inflate bytes metadata (metadata.tileIndex tileCol tileRow) path >>=
        expectU8 path).Returns fun data =>
      data.length = metadata.liveHeight tileRow * metadata.liveWidth tileCol := by
  apply Fallible.returns_bind (decodeOwnedChunk_returns hmerit hon hinflate hlen)
  rintro (data | data) ⟨hdata, hlength⟩
  · exact Fallible.returns_pure hlength
  · rw [OwnedTileData.HasType, htype] at hdata
    cases hdata

theorem expectF32_returns (hmerit : metadata.Merit) (htype : metadata.sampleType.isByte = false)
    {tileCol tileRow : ℕ} {bytes inflated : List UInt8} (hon : metadata.TileOn tileCol tileRow)
    (hinflate : inflate bytes (metadata.paddedBytes + 1) = .ok inflated)
    (hlen : inflated.length = metadata.paddedBytes) :
    (decodeOwnedChunk inflate bytes metadata (metadata.tileIndex tileCol tileRow) path >>=
        expectF32 path).Returns fun data =>
      data.length = metadata.liveHeight tileRow * metadata.liveWidth tileCol := by
  apply Fallible.returns_bind (decodeOwnedChunk_returns hmerit hon hinflate hlen)
  rintro (data | data) ⟨hdata, hlength⟩
  · rw [OwnedTileData.HasType, htype] at hdata
    cases hdata
  · exact Fallible.returns_pure hlength

theorem decode_of_expectU8 {index : ℕ} {bytes data : List UInt8}
    (h : (decodeOwnedChunk inflate bytes metadata index path >>= expectU8 path).run =
      .ok (.ok data)) :
    (decodeOwnedChunk inflate bytes metadata index path).run = .ok (.ok (.u8 data)) := by
  obtain ⟨owned, howned, hdata⟩ := Fallible.bind_run_eq_ok h
  cases owned with
  | u8 values =>
    cases hdata
    exact howned
  | f32 values => cases hdata

theorem decode_of_expectF32 {index : ℕ} {bytes : List UInt8} {data : List F32}
    (h : (decodeOwnedChunk inflate bytes metadata index path >>= expectF32 path).run =
      .ok (.ok data)) :
    (decodeOwnedChunk inflate bytes metadata index path).run = .ok (.ok (.f32 data)) := by
  obtain ⟨owned, howned, hdata⟩ := Fallible.bind_run_eq_ok h
  cases owned with
  | u8 values => cases hdata
  | f32 values =>
    cases hdata
    exact howned

/-- The byte branch of `decode_window`, after the nodata value is parsed. -/
theorem decodeU8_exact (hmerit : metadata.Merit) (hon : window.On metadata)
    (hplan : (TilePlan.forWindow metadata window path).run = .ok (.ok plan))
    (hresolved : resolved.tiles.map (·.index) = plan.indices)
    (hlen : compressed.length = resolved.tiles.length)
    (htype : metadata.sampleType.isByte = true) (nodata : UInt8) :
    Fallible.Safe (do
      let length ← windowAllocationLen path window.width window.height 1
      let out ← assembleTiles
        (fun index bytes => decodeOwnedChunk inflate bytes metadata index path >>= expectU8 path)
        copyTileU8 metadata window (resolved.tiles.zip compressed) (List.replicate length nodata)
      return WindowData.u8 out)
      (WindowExact inflate compressed metadata window plan resolved path) := by
  apply Fallible.safe_bind (windowAllocationLen_safe (by decide))
  rintro _ ⟨rfl, halloc⟩
  apply Fallible.safe_bind (assembleTiles_exact hmerit hon halloc hplan hresolved hlen WindowData.u8
    OwnedTileData.u8 Sample.u8 (fun _ _ => rfl) (fun _ => rfl) (fun _ _ => rfl)
    (fun _ _ bytes hon => expectU8_safe hmerit htype bytes hon)
    (fun _ _ _ h => decode_of_expectU8 h) nodata)
  intro out hout
  exact Fallible.safe_pure hout

/-- The `f32` branch of `decode_window`. -/
theorem decodeF32_exact (hmerit : metadata.Merit) (hon : window.On metadata)
    (hplan : (TilePlan.forWindow metadata window path).run = .ok (.ok plan))
    (hresolved : resolved.tiles.map (·.index) = plan.indices)
    (hlen : compressed.length = resolved.tiles.length)
    (htype : metadata.sampleType.isByte = false) (nodata : F32) :
    Fallible.Safe (do
      let length ← windowAllocationLen path window.width window.height 4
      let out ← assembleTiles
        (fun index bytes => decodeOwnedChunk inflate bytes metadata index path >>= expectF32 path)
        copyTileF32 metadata window (resolved.tiles.zip compressed) (List.replicate length nodata)
      return WindowData.f32 out)
      (WindowExact inflate compressed metadata window plan resolved path) := by
  apply Fallible.safe_bind (windowAllocationLen_safe (by decide))
  rintro _ ⟨rfl, halloc⟩
  apply Fallible.safe_bind (assembleTiles_exact hmerit hon halloc hplan hresolved hlen WindowData.f32
    OwnedTileData.f32 Sample.f32 (fun _ _ => rfl) (fun _ => rfl) (fun _ _ => rfl)
    (fun _ _ bytes hon => expectF32_safe hmerit htype bytes hon)
    (fun _ _ _ h => decode_of_expectF32 h) nodata)
  intro out hout
  exact Fallible.safe_pure hout

/-- The window is returned when the nodata value is valid, the window is not too large and every chunk
inflates to a padded tile. -/
theorem decodeWindow_returns (hmerit : metadata.Merit) (hon : window.On metadata)
    (hplan : (TilePlan.forWindow metadata window path).run = .ok (.ok plan))
    (hresolved : resolved.tiles.map (·.index) = plan.indices)
    (hlen : compressed.length = resolved.tiles.length)
    (hsize : window.width * window.height * metadata.sampleType.sampleWidth ≤
      maxWindowAllocationBytes)
    (hnodata : metadata.sampleType.isByte = true →
      (directionNodataByte metadata.sampleType metadata.nodata path).Returns fun _ => True)
    (hinflate : ∀ bytes ∈ compressed, ∃ inflated,
      inflate bytes (metadata.paddedBytes + 1) = .ok inflated ∧
        inflated.length = metadata.paddedBytes) :
    (decodeWindow inflate compressed metadata window resolved path).Returns fun _ => True := by
  have hindices := zip_index hresolved hlen
  have htiles : ∀ tile ∈ resolved.tiles.zip compressed, ∃ tileCol tileRow,
      window.Meets metadata tileCol tileRow ∧ tile.1.index = metadata.tileIndex tileCol tileRow ∧
        ∃ inflated, inflate tile.2 (metadata.paddedBytes + 1) = .ok inflated ∧
          inflated.length = metadata.paddedBytes := by
    intro tile htile
    obtain ⟨tileCol, tileRow, hmeets, hindex⟩ :=
      (TilePlan.mem_indices_iff hmerit hplan).1 (hindices ▸ List.mem_map_of_mem htile)
    exact ⟨tileCol, tileRow, hmeets, hindex, hinflate tile.2 (List.of_mem_zip htile).2⟩
  have hbyte : metadata.sampleType.isByte = true → ∀ nodata,
      window.height * window.width < 2 ^ 32 → (assembleTiles
        (fun index bytes => decodeOwnedChunk inflate bytes metadata index path >>= expectU8 path)
        copyTileU8 metadata window (resolved.tiles.zip compressed)
        (List.replicate (window.height * window.width) nodata)).Returns fun _ => True := by
    intro htype nodata halloc
    apply assembleTiles_returns hmerit hon halloc _ _ _ List.length_replicate
    intro tile htile
    obtain ⟨tileCol, tileRow, hmeets, hindex, inflated, hok, hlength⟩ := htiles tile htile
    refine ⟨tileCol, tileRow, hmeets, hindex, ?_⟩
    rw [hindex]
    exact expectU8_returns hmerit htype (hmeets.tileOn hon) hok hlength
  have hword : metadata.sampleType.isByte = false → ∀ nodata,
      window.height * window.width < 2 ^ 32 → (assembleTiles
        (fun index bytes => decodeOwnedChunk inflate bytes metadata index path >>= expectF32 path)
        copyTileF32 metadata window (resolved.tiles.zip compressed)
        (List.replicate (window.height * window.width) nodata)).Returns fun _ => True := by
    intro htype nodata halloc
    apply assembleTiles_returns hmerit hon halloc _ _ _ List.length_replicate
    intro tile htile
    obtain ⟨tileCol, tileRow, hmeets, hindex, inflated, hok, hlength⟩ := htiles tile htile
    refine ⟨tileCol, tileRow, hmeets, hindex, ?_⟩
    rw [hindex]
    exact expectF32_returns hmerit htype (hmeets.tileOn hon) hok hlength
  unfold decodeWindow
  split
  · next htype =>
    rw [htype] at hnodata hsize hbyte ⊢
    apply Fallible.returns_bind (hnodata rfl)
    intro nodata _
    apply Fallible.returns_bind (windowAllocationLen_returns (by decide) hsize)
    rintro _ ⟨rfl, halloc⟩
    apply Fallible.returns_bind (hbyte rfl nodata halloc)
    intro out _
    exact Fallible.returns_pure trivial
  · next htype =>
    rw [htype] at hnodata hsize hbyte ⊢
    apply Fallible.returns_bind (hnodata rfl)
    intro nodata _
    apply Fallible.returns_bind (windowAllocationLen_returns (by decide) hsize)
    rintro _ ⟨rfl, halloc⟩
    apply Fallible.returns_bind (hbyte rfl nodata halloc)
    intro out _
    exact Fallible.returns_pure trivial
  · next htype =>
    rw [htype] at hsize hword
    apply Fallible.returns_bind (windowAllocationLen_returns (by decide) hsize)
    rintro _ ⟨rfl, halloc⟩
    apply Fallible.returns_bind (hword rfl _ halloc)
    intro out _
    exact Fallible.returns_pure trivial
  · next htype =>
    rw [htype] at hsize hword
    apply Fallible.returns_bind (windowAllocationLen_returns (by decide) hsize)
    rintro _ ⟨rfl, halloc⟩
    apply Fallible.returns_bind (hword rfl _ halloc)
    intro out _
    exact Fallible.returns_pure trivial

end Assembled

end

/-- **Window assembly is exact.** For an accepted layout and the window of a bounding box, whatever
arithmetic computed it, decoding the planned tiles does not abort; the window that it returns is the
source raster at the offset of the window, every cell is written by one planned tile and every
planned tile writes a cell. The resolved plan lists the planned tiles, and the caller has checked that
there are as many chunks as tiles. -/
theorem decodeWindow_spec {inflate : List UInt8 → ℕ → Except String (List UInt8)}
    {compressed : List (List UInt8)} {metadata : CogMetadata} {kind : RasterKind} {arith : PixelArith}
    {bbox : Rect} {window : RasterPixelWindow} {path : String} {plan : TilePlan}
    {resolved : ResolvedTilePlan}
    (hvalid : (validateMeritLayout metadata kind path).run = .ok (.ok ()))
    (hwindow : (RasterPixelWindow.fromBbox arith metadata bbox).run = .ok (.ok window))
    (hplan : (TilePlan.forWindow metadata window path).run = .ok (.ok plan))
    (hresolved : resolved.tiles.map (·.index) = plan.indices)
    (hlen : compressed.length = resolved.tiles.length) :
    (decodeWindow inflate compressed metadata window resolved path).Safe
      (WindowExact inflate compressed metadata window plan resolved path) := by
  have hmerit := merit_of_validateMeritLayout hvalid
  have hon := RasterPixelWindow.on_of_fromBbox hwindow
  unfold decodeWindow
  split
  · next htype =>
    rw [htype]
    apply Fallible.safe_bind (directionNodataByte_safe _ _ _)
    intro nodata _
    exact decodeU8_exact hmerit hon hplan hresolved hlen (by rw [htype]; rfl) nodata
  · next htype =>
    rw [htype]
    apply Fallible.safe_bind (directionNodataByte_safe _ _ _)
    intro nodata _
    exact decodeU8_exact hmerit hon hplan hresolved hlen (by rw [htype]; rfl) nodata
  · next htype => exact decodeF32_exact hmerit hon hplan hresolved hlen (by rw [htype]; rfl) _
  · next htype => exact decodeF32_exact hmerit hon hplan hresolved hlen (by rw [htype]; rfl) _

/-- A raster of 700 by 600 bytes in four tiles. -/
def fourTileMetadata : CogMetadata where
  width := 700
  height := 600
  tileWidth := 512
  tileHeight := 512
  originX := .finite 0
  originY := .finite 0
  pixelWidth := .finite 1
  pixelHeight := .finite (-1)
  nodata := "255"
  sampleType := .u8
  compression := 8
  predictor := 2
  index := ⟨⟨16, 8, 4, .outOfLine 1000⟩, ⟨16, 8, 4, .outOfLine 2000⟩⟩
  width_lt := by decide
  height_lt := by decide

/-- A box around the corner where the four tiles meet. -/
def cornerBbox : Rect := ⟨⟨1001 / 2, -530⟩, ⟨520, -500⟩, by decide +kernel, by decide +kernel⟩

/-- A tile of ones in a zlib stream. -/
def onesChunk : List UInt8 := Zlib.store (List.replicate (512 * 512) 1)

theorem length_onesChunk : onesChunk.length = 262175 := by
  rw [onesChunk, Zlib.length_store, List.length_replicate]
  rfl

/-- Streams of that length behind 3000 bytes. -/
def onesTile (index : ℕ) : ResolvedTile := ⟨index, 3000 + 262175 * index, 3000 + 262175 * (index + 1)⟩

def cornerResolved : ResolvedTilePlan := ⟨1051700, [0, 1, 2, 3].map onesTile, 1048700⟩

theorem inflate_onesChunk : ∃ inflated, Zlib.inflate onesChunk (fourTileMetadata.paddedBytes + 1) =
    .ok inflated ∧ inflated.length = fourTileMetadata.paddedBytes := by
  refine ⟨_, Zlib.inflate_store _ _, ?_⟩
  rw [List.length_take, List.length_replicate]
  rfl

theorem decodeWindow_corner :
    (∀ tile ∈ cornerResolved.tiles, tile.rangeEnd - tile.rangeStart = onesChunk.length) ∧
    (validateMeritLayout fourTileMetadata .flowDir "d8.tif").run = .ok (.ok ()) ∧
    (RasterPixelWindow.fromBbox PixelArith.exact fourTileMetadata cornerBbox).run =
      .ok (.ok ⟨499, 499, 22, 32⟩) ∧
    (TilePlan.forWindow fourTileMetadata ⟨499, 499, 22, 32⟩ "d8.tif").run =
      .ok (.ok ⟨[0, 1, 2, 3]⟩) ∧
    (decodeWindow Zlib.inflate (List.replicate 4 onesChunk) fourTileMetadata ⟨499, 499, 22, 32⟩
      cornerResolved "d8.tif").Returns (fun _ => True) ∧
    (decodeWindow Zlib.inflate (List.replicate 4 onesChunk) fourTileMetadata ⟨499, 499, 22, 32⟩
      cornerResolved "d8.tif").Safe
      (WindowExact Zlib.inflate (List.replicate 4 onesChunk) fourTileMetadata ⟨499, 499, 22, 32⟩
        ⟨[0, 1, 2, 3]⟩ cornerResolved "d8.tif") := by
  have hvalid : (validateMeritLayout fourTileMetadata .flowDir "d8.tif").run = .ok (.ok ()) := by
    rfl
  have hwindow : (RasterPixelWindow.fromBbox PixelArith.exact fourTileMetadata cornerBbox).run =
      .ok (.ok ⟨499, 499, 22, 32⟩) := by
    decide +kernel
  have hplan : (TilePlan.forWindow fourTileMetadata ⟨499, 499, 22, 32⟩ "d8.tif").run =
      .ok (.ok ⟨[0, 1, 2, 3]⟩) := by
    decide +kernel
  have hreturns : (decodeWindow Zlib.inflate (List.replicate 4 onesChunk) fourTileMetadata
      ⟨499, 499, 22, 32⟩ cornerResolved "d8.tif").Returns (fun _ => True) :=
    decodeWindow_returns (merit_of_validateMeritLayout hvalid)
      (RasterPixelWindow.on_of_fromBbox hwindow) hplan rfl rfl (by decide)
      (fun _ => ⟨255, rfl, trivial⟩) fun bytes hbytes => List.eq_of_mem_replicate hbytes ▸ inflate_onesChunk
  exact ⟨length_onesChunk ▸ by decide, hvalid, hwindow, hplan, hreturns,
    decodeWindow_spec hvalid hwindow hplan rfl rfl⟩

end Pourpoint
