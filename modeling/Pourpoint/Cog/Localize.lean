import Pourpoint.Cog.Window

/-!
# Reading through a localized window

A raster is read either directly or through a local copy of the window that `from_bbox` selects, whose
origin is shifted by the offsets of the window. The reader computes its own pixel window from the same
bounding box, without the padding of `from_bbox`, against whichever file it opened.

In exact arithmetic both reads select the same pixels of the source raster, in the same order, with
the same origin (`localized_read_spec`). On each axis the argument is about integers: `[c₀, c₁)` is the
padded range of the window and clamping to it is clamping to the raster (`clamp_floor`,
`clamp_ceil`).
-/

namespace Pourpoint

/-! ## The raster reader -/

/-- A pixel window of the reader. -/
structure ReadWindow where
  xOff : ℤ
  yOff : ℤ
  xSize : ℕ
  ySize : ℕ
  deriving DecidableEq, Repr

/-- `value.max(0).min(bound)`. -/
def clampRead (bound : ℕ) (value : ℤ) : ℤ := min (max value 0) bound

/-- The window of a bounding box, clamped to the raster. -/
def bboxToPixelWindow (gt : GeoTransform) (bbox : Rect) (rasterWidth rasterHeight : ℕ) :
    ReadWindow :=
  let minCol := ⌊(bbox.min.x - gt.originX) / gt.pixelWidth⌋
  let maxCol := ⌈(bbox.max.x - gt.originX) / gt.pixelWidth⌉
  -- A larger `y` is a smaller row.
  let minRow := ⌊(bbox.max.y - gt.originY) / gt.pixelHeight⌋
  let maxRow := ⌈(bbox.min.y - gt.originY) / gt.pixelHeight⌉
  let xOff := clampRead rasterWidth minCol
  let yOff := clampRead rasterHeight minRow
  let xEnd := clampRead rasterWidth maxCol
  let yEnd := clampRead rasterHeight maxRow
  ⟨xOff, yOff, (max (xEnd - xOff) 0).toNat, (max (yEnd - yOff) 0).toNat⟩

/-- The geo-transform of a windowed read. -/
def windowGeoTransform (gt : GeoTransform) (xOff yOff : ℤ) : GeoTransform where
  originX := gt.originX + xOff * gt.pixelWidth
  originY := gt.originY + yOff * gt.pixelHeight
  pixelWidth := gt.pixelWidth
  pixelHeight := gt.pixelHeight

namespace ReadWindow

/-- The reader returns `EmptyWindow`. -/
def IsEmpty (window : ReadWindow) : Prop := window.xSize = 0 ∨ window.ySize = 0

instance (window : ReadWindow) : Decidable window.IsEmpty := inferInstanceAs (Decidable (_ ∨ _))

/-- The pixels `(row, col)` of the file that `read_as` returns, row by row. -/
def cells (window : ReadWindow) : List (ℤ × ℤ) :=
  (List.range window.ySize).flatMap fun (i : ℕ) =>
    (List.range window.xSize).map fun (j : ℕ) => (window.yOff + i, window.xOff + j)

end ReadWindow

/-! ## The two files -/

/-- The tags of a local window file: pixel scale and tiepoint. -/
structure WindowTags (Number : Type) where
  pixelScale : Number × Number × Number
  tiepoint : Number × Number × Number × Number × Number × Number
  deriving DecidableEq

/-- The tags that `write_tiff_image` writes, for any way to negate and to move an origin by pixels. -/
def windowTags {Number : Type} (zero : Number) (neg : Number → Number)
    (shift : Number → ℕ → Number → Number) (originX originY pixelWidth pixelHeight : Number)
    (window : RasterPixelWindow) : WindowTags Number where
  pixelScale := (pixelWidth, neg pixelHeight, zero)
  tiepoint := (zero, zero, zero, shift originX window.colOff pixelWidth,
    shift originY window.rowOff pixelHeight, zero)

/-- The geo-transform of the source raster. -/
def CogMetadata.geoTransform (metadata : CogMetadata) : GeoTransform :=
  ⟨metadata.originX.toRat, metadata.originY.toRat, metadata.pixelWidth.toRat, metadata.pixelHeight.toRat⟩

/-- The written tags in exact arithmetic. -/
def writtenTags (metadata : CogMetadata) (window : RasterPixelWindow) : WindowTags ℚ :=
  let gt := metadata.geoTransform
  windowTags 0 (- ·) (fun origin off pixel => origin + off * pixel) gt.originX gt.originY gt.pixelWidth
    gt.pixelHeight window

/-- The written tags in the arithmetic of the code. -/
def writtenTagsF64 (metadata : CogMetadata) (window : RasterPixelWindow) : WindowTags F64 :=
  windowTags (.finite 0) F64.neg (fun origin off pixel => origin.add ((F64.finite off).mul pixel))
    metadata.originX metadata.originY metadata.pixelWidth metadata.pixelHeight window

/-- The geo-transform that readers derive from the tags, as `read_extent` does. -/
def WindowTags.geoTransform (tags : WindowTags ℚ) : GeoTransform where
  originX := tags.tiepoint.2.2.2.1 - tags.tiepoint.1 * tags.pixelScale.1
  originY := tags.tiepoint.2.2.2.2.1 + tags.tiepoint.2.1 * tags.pixelScale.2.1
  pixelWidth := tags.pixelScale.1
  pixelHeight := -tags.pixelScale.2.1

theorem writtenTags_geoTransform (metadata : CogMetadata) (window : RasterPixelWindow) :
    (writtenTags metadata window).geoTransform =
      windowGeoTransform metadata.geoTransform window.colOff window.rowOff := by
  simp [writtenTags, windowTags, WindowTags.geoTransform, windowGeoTransform, CogMetadata.geoTransform]

/-- The direct read of a bounding box. -/
def directRead (metadata : CogMetadata) (bbox : Rect) : ReadWindow :=
  bboxToPixelWindow metadata.geoTransform bbox metadata.width metadata.height

/-- The read of the local file of a window. -/
def localizedRead (metadata : CogMetadata) (window : RasterPixelWindow) (bbox : Rect) : ReadWindow :=
  bboxToPixelWindow (writtenTags metadata window).geoTransform bbox window.width window.height

/-! ## One axis -/

theorem shifted_quotient {coord origin pixel : ℚ} (hpixel : pixel ≠ 0) (off : ℤ) :
    (coord - (origin + off * pixel)) / pixel = (coord - origin) / pixel - off := by
  field_simp
  ring

section Axis

variable {lo hi : ℤ} {bound : ℕ}

theorem clamp_floor (hle : lo ≤ hi) (hrange : clampTo bound (lo - 1) < clampTo bound (hi + 1)) :
    clampTo bound (lo - 1) +
        clampRead (clampTo bound (hi + 1) - clampTo bound (lo - 1)) (lo - clampTo bound (lo - 1)) =
      clampRead bound lo := by
  unfold clampRead clampTo at *
  omega

theorem clamp_ceil (hle : lo ≤ hi) (hrange : clampTo bound (lo - 1) < clampTo bound (hi + 1)) :
    clampTo bound (lo - 1) +
        clampRead (clampTo bound (hi + 1) - clampTo bound (lo - 1)) (hi - clampTo bound (lo - 1)) =
      clampRead bound hi := by
  unfold clampRead clampTo at *
  omega

theorem padded_of_nonempty (h : clampRead bound lo < clampRead bound hi) :
    clampTo bound (lo - 1) < clampTo bound (hi + 1) := by
  unfold clampRead clampTo at *
  omega

end Axis

/-! ## Both axes -/

/-- The pixel bounds of a bounding box. -/
structure PixelBounds where
  minCol : ℤ
  maxCol : ℤ
  minRow : ℤ
  maxRow : ℤ

/-- The box in pixels, before padding. -/
def GeoTransform.pixelBounds (gt : GeoTransform) (bbox : Rect) : PixelBounds where
  minCol := ⌊(bbox.min.x - gt.originX) / gt.pixelWidth⌋
  maxCol := ⌈(bbox.max.x - gt.originX) / gt.pixelWidth⌉
  minRow := ⌊(bbox.max.y - gt.originY) / gt.pixelHeight⌋
  maxRow := ⌈(bbox.min.y - gt.originY) / gt.pixelHeight⌉

/-- The window that the reader takes from pixel bounds. -/
def PixelBounds.read (bounds : PixelBounds) (rasterWidth rasterHeight : ℕ) : ReadWindow where
  xOff := clampRead rasterWidth bounds.minCol
  yOff := clampRead rasterHeight bounds.minRow
  xSize := (max (clampRead rasterWidth bounds.maxCol - clampRead rasterWidth bounds.minCol) 0).toNat
  ySize :=
    (max (clampRead rasterHeight bounds.maxRow - clampRead rasterHeight bounds.minRow) 0).toNat

theorem bboxToPixelWindow_eq (gt : GeoTransform) (bbox : Rect) (rasterWidth rasterHeight : ℕ) :
    bboxToPixelWindow gt bbox rasterWidth rasterHeight =
      (gt.pixelBounds bbox).read rasterWidth rasterHeight := rfl

namespace GeoTransform

variable {gt : GeoTransform} {bbox : Rect}

theorem NorthUp.minCol_le (h : gt.NorthUp) :
    (gt.pixelBounds bbox).minCol ≤ (gt.pixelBounds bbox).maxCol := by
  have hle : (bbox.min.x - gt.originX) / gt.pixelWidth ≤ (bbox.max.x - gt.originX) / gt.pixelWidth :=
    div_le_div_of_nonneg_right (sub_le_sub_right bbox.x_le _) h.1.le
  exact (Int.floor_le_floor hle).trans (Int.floor_le_ceil _)

theorem NorthUp.minRow_le (h : gt.NorthUp) :
    (gt.pixelBounds bbox).minRow ≤ (gt.pixelBounds bbox).maxRow := by
  have hle : (bbox.max.y - gt.originY) / gt.pixelHeight ≤
      (bbox.min.y - gt.originY) / gt.pixelHeight :=
    div_le_div_of_nonpos_of_le h.2.le (sub_le_sub_right bbox.y_le _)
  exact (Int.floor_le_floor hle).trans (Int.floor_le_ceil _)

theorem NorthUp.pixelBounds_shift (h : gt.NorthUp) (colOff rowOff : ℤ) :
    (windowGeoTransform gt colOff rowOff).pixelBounds bbox =
      ⟨(gt.pixelBounds bbox).minCol - colOff, (gt.pixelBounds bbox).maxCol - colOff,
        (gt.pixelBounds bbox).minRow - rowOff, (gt.pixelBounds bbox).maxRow - rowOff⟩ := by
  simp only [pixelBounds, windowGeoTransform, shifted_quotient h.1.ne', shifted_quotient h.2.ne,
    Int.floor_sub_intCast, Int.ceil_sub_intCast]

end GeoTransform

section

variable {metadata : CogMetadata} {bbox : Rect} {window : RasterPixelWindow}

theorem fromBbox_exact (hnorth : metadata.geoTransform.NorthUp) :
    (RasterPixelWindow.fromBbox PixelArith.exact metadata bbox).run =
      (RasterPixelWindow.ofBounds metadata ((metadata.geoTransform.pixelBounds bbox).minCol - 1)
        ((metadata.geoTransform.pixelBounds bbox).maxCol + 1)
        ((metadata.geoTransform.pixelBounds bbox).minRow - 1)
        ((metadata.geoTransform.pixelBounds bbox).maxRow + 1)).run := by
  have hup : ¬(metadata.pixelWidth.isNonpos ∨ metadata.pixelHeight.isNonneg) := by
    rw [not_or, Bool.not_eq_true, Bool.not_eq_true]
    exact ⟨F64.isNonpos_of_toRat_pos hnorth.1, F64.isNonneg_of_toRat_neg hnorth.2⟩
  unfold RasterPixelWindow.fromBbox
  rw [Fallible.failIf, if_neg hup]
  rfl

/-- When the window exists, the two reads differ by its offsets. -/
theorem localizedRead_shift (hnorth : metadata.geoTransform.NorthUp)
    (hwindow : (RasterPixelWindow.fromBbox PixelArith.exact metadata bbox).run =
      .ok (.ok window)) :
    directRead metadata bbox =
      ⟨window.colOff + (localizedRead metadata window bbox).xOff,
        window.rowOff + (localizedRead metadata window bbox).yOff,
        (localizedRead metadata window bbox).xSize, (localizedRead metadata window bbox).ySize⟩ := by
  rw [fromBbox_exact hnorth] at hwindow
  obtain ⟨⟨hcols, hrows⟩, rfl⟩ := RasterPixelWindow.ofBounds_run_eq_ok.1 hwindow
  have hcol : (metadata.geoTransform.pixelBounds bbox).minCol ≤ _ := hnorth.minCol_le
  have hrow : (metadata.geoTransform.pixelBounds bbox).minRow ≤ _ := hnorth.minRow_le
  rw [directRead, bboxToPixelWindow_eq, localizedRead, bboxToPixelWindow_eq,
    writtenTags_geoTransform, hnorth.pixelBounds_shift]
  generalize metadata.geoTransform.pixelBounds bbox = bounds at *
  have hx := clamp_floor hcol hcols
  have hx' := clamp_ceil hcol hcols
  have hy := clamp_floor hrow hrows
  have hy' := clamp_ceil hrow hrows
  simp only [PixelBounds.read, ReadWindow.mk.injEq]
  refine ⟨hx.symm, hy.symm, ?_, ?_⟩
  · rw [← hx, ← hx', add_sub_add_left_eq_sub]
  · rw [← hy, ← hy', add_sub_add_left_eq_sub]

/-- The pixel of the source raster that a pixel of the local file holds. -/
def RasterPixelWindow.sourceCell (window : RasterPixelWindow) (cell : ℤ × ℤ) : ℤ × ℤ :=
  (window.rowOff + cell.1, window.colOff + cell.2)

theorem cells_shift {direct localized : ReadWindow}
    (h : direct = ⟨window.colOff + localized.xOff, window.rowOff + localized.yOff, localized.xSize,
      localized.ySize⟩) :
    localized.cells.map window.sourceCell = direct.cells := by
  subst h
  simp only [ReadWindow.cells, List.map_flatMap, List.map_map, RasterPixelWindow.sourceCell,
    Function.comp_def, add_assoc]

/-- A direct read that is not empty has a window. -/
theorem exists_fromBbox (hnorth : metadata.geoTransform.NorthUp)
    (hdirect : ¬(directRead metadata bbox).IsEmpty) :
    ∃ window, (RasterPixelWindow.fromBbox PixelArith.exact metadata bbox).run = .ok (.ok window) := by
  rw [directRead, bboxToPixelWindow_eq] at hdirect
  rw [fromBbox_exact hnorth]
  generalize metadata.geoTransform.pixelBounds bbox = bounds at *
  simp only [ReadWindow.IsEmpty, PixelBounds.read, not_or] at hdirect
  refine ⟨_, RasterPixelWindow.ofBounds_run_eq_ok.2 ⟨⟨?_, ?_⟩, rfl⟩⟩
  · exact padded_of_nonempty (by omega)
  · exact padded_of_nonempty (by omega)

/-- `from_bbox` on exact numbers does not abort. -/
theorem fromBbox_exact_safe (metadata : CogMetadata) (bbox : Rect) :
    (RasterPixelWindow.fromBbox PixelArith.exact metadata bbox).Safe fun _ => True := by
  unfold RasterPixelWindow.fromBbox
  apply Fallible.safe_failIf_bind
  intro _
  apply Fallible.safe_lift_bind rfl
  apply Fallible.safe_lift_bind rfl
  apply Fallible.safe_lift_bind rfl
  apply Fallible.safe_lift_bind rfl
  unfold RasterPixelWindow.ofBounds
  apply Fallible.safe_failIf_bind
  intro _
  exact Fallible.safe_pure trivial

/-- **Reading through the localized window equals reading the full raster.** On a north-up raster, a
direct read that is not empty has a window; whenever there is a window, the read of its local file
selects the same source pixels in the same order, with the same dimensions and the same geo-transform;
and when the direct read is empty, there is no window or the read of its local file is empty. -/
theorem localized_read_spec (hnorth : metadata.geoTransform.NorthUp) :
    (¬(directRead metadata bbox).IsEmpty → ∃ window,
      (RasterPixelWindow.fromBbox PixelArith.exact metadata bbox).run = .ok (.ok window)) ∧
    (∀ window, (RasterPixelWindow.fromBbox PixelArith.exact metadata bbox).run = .ok (.ok window) →
      (localizedRead metadata window bbox).cells.map window.sourceCell =
        (directRead metadata bbox).cells ∧
      (localizedRead metadata window bbox).xSize = (directRead metadata bbox).xSize ∧
      (localizedRead metadata window bbox).ySize = (directRead metadata bbox).ySize ∧
      windowGeoTransform (writtenTags metadata window).geoTransform
          (localizedRead metadata window bbox).xOff (localizedRead metadata window bbox).yOff =
        windowGeoTransform metadata.geoTransform (directRead metadata bbox).xOff
          (directRead metadata bbox).yOff) ∧
    ((directRead metadata bbox).IsEmpty →
      (∃ reason, (RasterPixelWindow.fromBbox PixelArith.exact metadata bbox).run =
        .ok (.error reason)) ∨
      ∃ window, (RasterPixelWindow.fromBbox PixelArith.exact metadata bbox).run = .ok (.ok window) ∧
        (localizedRead metadata window bbox).IsEmpty) := by
  refine ⟨exists_fromBbox hnorth, ?_, ?_⟩
  · intro window hwindow
    have hshift := localizedRead_shift hnorth hwindow
    refine ⟨cells_shift hshift, by rw [hshift], by rw [hshift], ?_⟩
    rw [hshift, writtenTags_geoTransform]
    simp only [windowGeoTransform, GeoTransform.mk.injEq, and_true, Int.cast_add]
    constructor <;> ring
  · intro hempty
    obtain ⟨result, hresult, -⟩ := fromBbox_exact_safe metadata bbox
    cases result with
    | error reason => exact .inl ⟨reason, hresult⟩
    | ok window =>
      rw [localizedRead_shift hnorth hresult] at hempty
      exact .inr ⟨window, hresult, hempty⟩

end

/-- A box over the top right corner of the raster. -/
def edgeBbox : Rect := ⟨⟨1381 / 2, -10⟩, ⟨710, 5⟩, by decide +kernel, by decide +kernel⟩

theorem localized_read_edge :
    fourTileMetadata.geoTransform.NorthUp ∧
    directRead fourTileMetadata edgeBbox = ⟨690, 0, 10, 10⟩ ∧
    localizedRead fourTileMetadata ⟨689, 0, 11, 11⟩ edgeBbox = ⟨1, 0, 10, 10⟩ ∧
    (localizedRead fourTileMetadata ⟨689, 0, 11, 11⟩ edgeBbox).cells.map
        (RasterPixelWindow.sourceCell ⟨689, 0, 11, 11⟩) =
      (directRead fourTileMetadata edgeBbox).cells := by
  have hnorth : fourTileMetadata.geoTransform.NorthUp := by decide +kernel
  have hwindow : (RasterPixelWindow.fromBbox PixelArith.exact fourTileMetadata edgeBbox).run =
      .ok (.ok ⟨689, 0, 11, 11⟩) := by decide +kernel
  exact ⟨hnorth, by decide +kernel, by decide +kernel,
    ((localized_read_spec hnorth).2.1 _ hwindow).1⟩

end Pourpoint
