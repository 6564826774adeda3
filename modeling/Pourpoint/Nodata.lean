import Pourpoint.Cog.Header
import Pourpoint.Cog.Predictor
import Pourpoint.RasterCache
import Pourpoint.RasterReader

/-!
# Nodata on the two raster paths

A raster is read by GDAL directly, or its tiles are decoded and written to a local file that GDAL reads.
The local file has bytes or floats and a normalized nodata text. Integers of an accumulation raster lose
their nodata value when they are decoded; the others keep it and GDAL compares with it.

Where the declared text is a number of the sample type, the two paths agree on which samples are nodata.
Without a declared value the localized path assumes one, and the direct path assumes one for bytes only
(`nodata_masks`).
-/

namespace Pourpoint

/-! ## Texts -/

theorem digits_of_minus (rest : List Char) : parseDigits ('-' :: rest) = none := by
  rw [parseDigits, if_neg]
  intro h
  have hdigit : ('-' : Char).isDigit = true := (List.all_eq_true.1 h.2) '-' List.mem_cons_self
  exact absurd hdigit (by decide)

/-- The sign of a signed number may be that of an unsigned one. -/
theorem parseSigned_of_parseUnsigned {bits : ℕ} {text : String} {n : ℕ}
    (h : parseUnsigned bits text = some n) : parseSigned (bits + 1) text = some (n : ℤ) := by
  obtain ⟨hdigits, hlt⟩ := Option.filter_eq_some_iff.1 h
  have hlt : n < 2 ^ bits := of_decide_eq_true hlt
  have hcast : (n : ℤ) < 2 ^ bits := by exact_mod_cast hlt
  refine Option.filter_eq_some_iff.2 ⟨?_, decide_eq_true ⟨?_, ?_⟩⟩
  · split at hdigits
    · next rest heq =>
      rw [heq]
      simp only [hdigits]
      rfl
    · next other hother =>
      split
      · next rest heq => exact absurd heq (hother rest)
      · next rest heq =>
        rw [heq, digits_of_minus] at hdigits
        cases hdigits
      · simp only [hdigits]
        rfl
  · have hpow : (0 : ℤ) ≤ 2 ^ bits := by positivity
    rw [Nat.add_sub_cancel]
    omega
  · rw [Nat.add_sub_cancel]
    exact hcast

theorem parseSigned_range {bits : ℕ} {text : String} {v : ℤ} (h : parseSigned bits text = some v) :
    -2 ^ (bits - 1) ≤ v ∧ v < 2 ^ (bits - 1) :=
  of_decide_eq_true (Option.filter_eq_some_iff.1 h).2

theorem parseSigned_mono {bits bits' : ℕ} (hle : bits ≤ bits') {text : String} {v : ℤ}
    (h : parseSigned bits text = some v) : parseSigned bits' text = some v := by
  obtain ⟨hmin, hmax⟩ := parseSigned_range h
  have hpow : (2 : ℤ) ^ (bits - 1) ≤ 2 ^ (bits' - 1) :=
    pow_le_pow_right₀ (by norm_num) (Nat.sub_le_sub_right hle 1)
  refine Option.filter_eq_some_iff.2 ⟨(Option.filter_eq_some_iff.1 h).1, decide_eq_true ⟨?_, ?_⟩⟩
  · omega
  · omega

theorem parseSigned_toString (b : UInt8) : parseSigned 33 (toString b.toNat) = some (b.toNat : ℤ) := by
  have hall : ∀ n : Fin 256, parseSigned 33 (toString n.val) = some (n.val : ℤ) := by decide +kernel
  exact hall ⟨b.toNat, b.toNat_lt⟩

/-! ## Bytes -/

theorem eq_uint8OfInt_iff {b : UInt8} {v : ℤ} (hmin : 0 ≤ v) (hmax : v ≤ 255) :
    b = UInt8.ofInt v ↔ (b.toNat : ℤ) = v := by
  have hval : (UInt8.ofInt v).toNat = v.toNat := by
    rw [UInt8.ofInt, UInt8.toNat_ofNat']
    omega
  rw [← UInt8.toNat_inj, hval]
  omega

theorem eq_int8OfInt_iff {b : UInt8} {v : ℤ} (hmin : -128 ≤ v) (hmax : v ≤ 127) :
    b = UInt8.ofInt v ↔ b.toInt8.toInt = v := by
  have hval : ∀ n : Fin 256, (UInt8.ofInt (n.val - 128)).toInt8.toInt = n.val - 128 := by
    decide +kernel
  have hv : (UInt8.ofInt v).toInt8.toInt = v := by
    have hcast : ((v + 128).toNat : ℤ) - 128 = v := by omega
    have hn := hval ⟨(v + 128).toNat, by omega⟩
    rwa [hcast] at hn
  constructor
  · intro h
    rw [h, hv]
  · intro h
    exact congrArg Int8.toUInt8 (Int8.toInt_inj.1 (h.trans hv.symm))

/-! ## The two paths -/

namespace CogSampleType

/-- The kind of raster with these samples. -/
def rasterKind (sampleType : CogSampleType) : RasterKind := if sampleType.isByte then .flowDir else .flowAcc

/-- The type of a band with these samples. -/
def gdalType : CogSampleType → GdalDataType
  | .u8 => .uint8
  | .i8 => .int8
  | .i32 => .int32
  | .f32 => .float32

/-- The text is a number of the sample type. Any text may name a float. -/
def Names (text : String) : CogSampleType → Prop
  | .u8 => (parseU8 text).isSome
  | .i8 => (parseI8AsU8 text).isSome
  | .i32 => (parseI32 text).isSome
  | .f32 => True

/-- A byte type holds the number. -/
def Holds (v : ℤ) : CogSampleType → Prop
  | .u8 => 0 ≤ v ∧ v ≤ 255
  | .i8 => -128 ≤ v ∧ v ≤ 127
  | .i32 | .f32 => False

/-- The number that the localized path assumes without a declared one. -/
def assumedNodata : CogSampleType → ℤ
  | .u8 => 255
  | .i8 | .i32 | .f32 => -1

end CogSampleType

/-- The nodata value that GDAL reads from the text of the tag, for the type of the band: nothing without
the tag, `NaN` from `nan`, an integer that the type holds exactly. -/
structure ReadsNodata (gdal : GdalDataType → Option String → Option F64) : Prop where
  absent : ∀ dataType, gdal dataType none = none
  nan : gdal .float32 (some "nan") = some .nan
  integer : ∀ dataType text v, parseSigned 33 text = some v →
    (dataType = .float32 → -2 ^ 24 ≤ v ∧ v ≤ 2 ^ 24) → gdal dataType (some text) = some (.finite v)

section

variable (gdal : GdalDataType → Option String → Option F64)

/-- The live samples of a tile of the raster, as GDAL reads them. -/
def directBand (sampleType : CogSampleType) (declared : Option String) (liveWidth liveHeight : ℕ)
    (samples : TileSamples) : GdalBand where
  samples := match sampleType, samples with
    | .u8, .bytes tile => .uint8 (tile.live liveWidth liveHeight)
    | .i8, .bytes tile => .int8 ((tile.live liveWidth liveHeight).map UInt8.toInt8)
    | .i32, .words tile => .int32 ((tile.live liveWidth liveHeight).map i32OfWord)
    | .f32, .words tile => .float32 ((tile.live liveWidth liveHeight).map F32.ofBits)
    | _, _ => .other sampleType.debug
  noDataValue := gdal sampleType.gdalType declared

/-- Decoded samples in the local file, as GDAL reads them. -/
def localizedBand (metadata : CogMetadata) : OwnedTileData → GdalBand
  | .u8 data => ⟨.uint8 data, gdal .uint8 (some (normalizedNodata metadata))⟩
  | .f32 data => ⟨.float32 data, gdal .float32 (some (normalizedNodata metadata))⟩

/-- A tile on the localized path: the nodata byte of a direction raster is parsed first. -/
def readLocalized (inflate : List UInt8 → ℕ → Except String (List UInt8)) (compressed : List UInt8)
    (metadata : CogMetadata) (tileIndex : ℕ) (remotePath : String) : Fallible CacheError GdalBand := do
  if metadata.sampleType.isByte then
    let _ ← directionNodataByte metadata.sampleType metadata.nodata remotePath
  let data ← decodeOwnedChunk inflate compressed metadata tileIndex remotePath
  return localizedBand gdal metadata data

end

/-- Which samples are numerically equal to a nodata value. A float that is `NaN` is nodata as well; a
float is compared with the nearest float. -/
def numericMask (sampleType : CogSampleType) (value : Option F64) (liveWidth liveHeight : ℕ) :
    TileSamples → List Bool
  | .bytes tile => (tile.live liveWidth liveHeight).map fun b => match sampleType with
    | .i8 => value = some (.finite (b.toInt8.toInt : ℚ))
    | _ => value = some (.finite (b.toNat : ℤ))
  | .words tile => (tile.live liveWidth liveHeight).map fun w => match sampleType with
    | .f32 => (F32.ofBits w).isNan || value.any fun v => (F32.ofBits w).eq v.toF32
    | _ => value = some (.finite (i32OfWord w : ℚ))

/-! ## Which samples are nodata -/

section

variable {gdal : GdalDataType → Option String → Option F64} {metadata : CogMetadata}
  {declared : Option String} {liveWidth liveHeight : ℕ}

/-- The direct path takes these live samples of a tile to be nodata. -/
def DirectMask (gdal : GdalDataType → Option String → Option F64) (sampleType : CogSampleType)
    (declared : Option String) (liveWidth liveHeight : ℕ) (samples : TileSamples) (mask : List Bool) :
    Prop :=
  nodataMask sampleType.rasterKind (directBand gdal sampleType declared liveWidth liveHeight samples) =
    .ok mask

theorem numericMask_u8 {v : ℤ} (hmin : 0 ≤ v) (hmax : v ≤ 255) (tile : PaddedRows UInt8) :
    numericMask .u8 (some (.finite v)) liveWidth liveHeight (.bytes tile) =
      (tile.live liveWidth liveHeight).map (· == UInt8.ofInt v) := by
  refine List.map_congr_left fun b _ => ?_
  rw [Bool.eq_iff_iff, decide_eq_true_iff, beq_iff_eq, eq_uint8OfInt_iff hmin hmax, Option.some.injEq,
    F64.finite.injEq, Int.cast_inj, eq_comm]

theorem numericMask_i8 {v : ℤ} (hmin : -128 ≤ v) (hmax : v ≤ 127) (tile : PaddedRows UInt8) :
    numericMask .i8 (some (.finite v)) liveWidth liveHeight (.bytes tile) =
      (tile.live liveWidth liveHeight).map (· == UInt8.ofInt v) := by
  refine List.map_congr_left fun b _ => ?_
  rw [Bool.eq_iff_iff, decide_eq_true_iff, beq_iff_eq, eq_int8OfInt_iff hmin hmax, Option.some.injEq,
    F64.finite.injEq, Int.cast_inj, eq_comm]

theorem numericMask_i32 (v : ℤ) (tile : PaddedRows UInt32) :
    numericMask .i32 (some (.finite v)) liveWidth liveHeight (.words tile) =
      (normalizeI32Accumulation ((tile.live liveWidth liveHeight).map i32OfWord) (some v)).map
        F32.isNan := by
  rw [map_isNan_normalizeI32Accumulation, List.map_map]
  refine List.map_congr_left fun w _ => ?_
  rw [Bool.eq_iff_iff, decide_eq_true_iff, Function.comp_apply, decide_eq_true_iff,
    Option.some.injEq, Option.some.injEq, F64.finite.injEq, Int.cast_inj, eq_comm]

/-! ### Numbers of the sample type -/

theorem ReadsNodata.uint8 (hgdal : ReadsNodata gdal) {text : String} {n : ℕ}
    (h : parseUnsigned 8 text = some n) : gdal .uint8 (some text) = some (.finite (n : ℤ)) :=
  hgdal.integer _ _ _ (parseSigned_mono (by decide) (parseSigned_of_parseUnsigned h))
    (fun h => nomatch h)

theorem ReadsNodata.int8 (hgdal : ReadsNodata gdal) {text : String} {v : ℤ}
    (h : parseSigned 8 text = some v) : gdal .int8 (some text) = some (.finite v) :=
  hgdal.integer _ _ _ (parseSigned_mono (by decide) h) (fun h => nomatch h)

theorem ReadsNodata.int32 (hgdal : ReadsNodata gdal) {text : String} {v : ℤ}
    (h : parseSigned 32 text = some v) : gdal .int32 (some text) = some (.finite v) :=
  hgdal.integer _ _ _ (parseSigned_mono (by decide) h) (fun h => nomatch h)

/-! ### The direct path -/

theorem directMask_u8 {v : ℤ} (hmin : 0 ≤ v) (hmax : v ≤ 255) {value : Option F64}
    (hvalue : flowDirectionNodata .uint8 value = UInt8.ofInt v)
    (hgdal : gdal .uint8 declared = value) (tile : PaddedRows UInt8) :
    DirectMask gdal .u8 declared liveWidth liveHeight (.bytes tile)
      (numericMask .u8 (some (.finite v)) liveWidth liveHeight (.bytes tile)) := by
  rw [numericMask_u8 hmin hmax, ← hvalue, ← hgdal]
  rfl

theorem directMask_i8 {v : ℤ} (hmin : -128 ≤ v) (hmax : v ≤ 127) {value : Option F64}
    (hvalue : flowDirectionNodata .int8 value = UInt8.ofInt v)
    (hgdal : gdal .int8 declared = value) (tile : PaddedRows UInt8) :
    DirectMask gdal .i8 declared liveWidth liveHeight (.bytes tile)
      (numericMask .i8 (some (.finite v)) liveWidth liveHeight (.bytes tile)) := by
  have hbytes : ((tile.live liveWidth liveHeight).map UInt8.toInt8).map Int8.toUInt8 =
      tile.live liveWidth liveHeight := by
    rw [List.map_map]
    exact List.map_id _
  rw [numericMask_i8 hmin hmax, ← hvalue, ← hgdal]
  refine congrArg Except.ok ?_
  show (((tile.live liveWidth liveHeight).map UInt8.toInt8).map Int8.toUInt8).map _ = _
  rw [hbytes]
  rfl

theorem directMask_i32 {v : ℤ} (hmin : -2 ^ 31 ≤ v) (hmax : v < 2 ^ 31)
    (hgdal : gdal .int32 declared = some (.finite v)) (tile : PaddedRows UInt32) :
    DirectMask gdal .i32 declared liveWidth liveHeight (.words tile)
      (numericMask .i32 (some (.finite v)) liveWidth liveHeight (.words tile)) := by
  have hvalue : (gdal .int32 declared).map F64.toI32 = some v := by
    rw [hgdal, Option.map_some, F64.toI32_intCast hmin hmax]
  rw [numericMask_i32, ← hvalue]
  rfl

theorem directMask_i32_none (hgdal : gdal .int32 declared = none) (tile : PaddedRows UInt32) :
    DirectMask gdal .i32 declared liveWidth liveHeight (.words tile)
      (numericMask .i32 none liveWidth liveHeight (.words tile)) := by
  have hnone : (gdal .int32 declared).map F64.toI32 = none := by rw [hgdal]; rfl
  have hmask : numericMask .i32 none liveWidth liveHeight (.words tile) =
      (normalizeI32Accumulation ((tile.live liveWidth liveHeight).map i32OfWord) none).map F32.isNan := by
    rw [map_isNan_normalizeI32Accumulation, List.map_map]
    exact List.map_congr_left fun w _ => by simp
  rw [hmask, ← hnone]
  rfl

theorem numericMask_f32 (value : Option F64) (tile : PaddedRows UInt32) :
    numericMask .f32 value liveWidth liveHeight (.words tile) =
      (replaceNodataWithNan ((tile.live liveWidth liveHeight).map F32.ofBits) value).map F32.isNan := by
  rw [map_isNan_replaceNodataWithNan, List.map_map]
  rfl

theorem directMask_f32 (tile : PaddedRows UInt32) :
    DirectMask gdal .f32 declared liveWidth liveHeight (.words tile)
      (numericMask .f32 (gdal .float32 declared) liveWidth liveHeight (.words tile)) := by
  rw [numericMask_f32]
  rfl

/-! ### The localized path -/

theorem nodataMask_localizedBytes (hgdal : ReadsNodata gdal) {b : UInt8}
    (htext : parseSigned 33 (normalizedNodata metadata) = some (b.toNat : ℤ)) (data : List UInt8) :
    nodataMask .flowDir (localizedBand gdal metadata (.u8 data)) = .ok (data.map (· == b)) := by
  have hlt := b.toNat_lt
  have hvalue := hgdal.integer .uint8 _ _ htext (fun h => nomatch h)
  have hbyte : flowDirectionNodata .uint8 (gdal .uint8 (some (normalizedNodata metadata))) = b := by
    rw [hvalue, flowDirectionNodata_uint8 (by omega) (by omega)]
    exact ((eq_uint8OfInt_iff (by omega) (by omega)).2 rfl).symm
  exact congrArg (fun nodata => Except.ok (data.map (· == nodata))) hbyte

/-- The floats of a local file. -/
theorem nodataMask_localizedFloats (data : List F32) :
    nodataMask .flowAcc (localizedBand gdal metadata (.f32 data)) =
      .ok ((replaceNodataWithNan data (gdal .float32 (some (normalizedNodata metadata)))).map
        F32.isNan) := rfl

theorem localized_u8 (hgdal : ReadsNodata gdal) (htype : metadata.sampleType = .u8) {n : ℕ}
    (htext : parseUnsigned 8 metadata.nodata = some n) (tile : PaddedRows UInt8) :
    nodataMask .flowDir (localizedBand gdal metadata (liveTile metadata liveWidth liveHeight
      (.bytes tile))) =
        .ok (numericMask .u8 (some (.finite (n : ℤ))) liveWidth liveHeight (.bytes tile)) := by
  have hlt : n < 2 ^ 8 := of_decide_eq_true (Option.filter_eq_some_iff.1 htext).2
  have hn : (UInt8.ofInt n).toNat = n := by
    have hofInt := (eq_uint8OfInt_iff (v := n) (by omega) (by omega)).1 rfl
    omega
  have hnormalized : normalizedNodata metadata = metadata.nodata := by
    rw [normalizedNodata, htype]
  rw [numericMask_u8 (by omega) (by omega)]
  refine nodataMask_localizedBytes hgdal ?_ _
  rw [hnormalized, hn]
  exact parseSigned_mono (by decide) (parseSigned_of_parseUnsigned htext)

theorem localized_i8 (hgdal : ReadsNodata gdal) (htype : metadata.sampleType = .i8) {v : ℤ}
    (htext : parseSigned 8 metadata.nodata = some v) (tile : PaddedRows UInt8) :
    nodataMask .flowDir (localizedBand gdal metadata (liveTile metadata liveWidth liveHeight
      (.bytes tile))) =
        .ok (numericMask .i8 (some (.finite v)) liveWidth liveHeight (.bytes tile)) := by
  obtain ⟨hmin, hmax⟩ := parseSigned_range htext
  have hbyte : parseI8AsU8 metadata.nodata = some (UInt8.ofInt v) := by
    rw [parseI8AsU8, htext, Option.map_some]
  have hnormalized : normalizedNodata metadata = toString (UInt8.ofInt v).toNat := by
    simp only [normalizedNodata, htype, hbyte, Option.map_some, Option.getD_some]
  rw [numericMask_i8 (by omega) (by omega)]
  refine nodataMask_localizedBytes hgdal ?_ _
  rw [hnormalized]
  exact parseSigned_toString _

/-- The nodata value is gone from the local file: its samples are `NaN`. -/
theorem localized_i32 (hgdal : ReadsNodata gdal) (htype : metadata.sampleType = .i32) {v : ℤ}
    (htext : parseSigned 32 metadata.nodata = some v) (tile : PaddedRows UInt32) :
    nodataMask .flowAcc (localizedBand gdal metadata (liveTile metadata liveWidth liveHeight
      (.words tile))) =
        .ok (numericMask .i32 (some (.finite v)) liveWidth liveHeight (.words tile)) := by
  have hlive : liveTile metadata liveWidth liveHeight (.words tile) = .f32 (normalizeI32Accumulation
      ((tile.live liveWidth liveHeight).map i32OfWord) (some v)) := by
    rw [← htext]
    simp only [liveTile, htype]
    rfl
  have hvalue : gdal .float32 (some (normalizedNodata metadata)) = some .nan := by
    rw [normalizedNodata, htype]
    exact hgdal.nan
  rw [hlive, nodataMask_localizedFloats, hvalue, numericMask_i32]
  rfl

theorem localized_f32 (htype : metadata.sampleType = .f32) (tile : PaddedRows UInt32) :
    nodataMask .flowAcc (localizedBand gdal metadata (liveTile metadata liveWidth liveHeight
      (.words tile))) = .ok (numericMask .f32 (gdal .float32 (some metadata.nodata)) liveWidth liveHeight
        (.words tile)) := by
  have hlive : liveTile metadata liveWidth liveHeight (.words tile) =
      .f32 ((tile.live liveWidth liveHeight).map F32.ofBits) := by
    simp only [liveTile, htype]
  have hnormalized : normalizedNodata metadata = metadata.nodata := by
    rw [normalizedNodata, htype]
  rw [hlive, nodataMask_localizedFloats, hnormalized, numericMask_f32]

/-! ### A tile of the raster -/

variable {tileIndex : ℕ} {inflate : List UInt8 → ℕ → Except String (List UInt8)}
  {deflate : List UInt8 → List UInt8} {path : String} {samples : TileSamples}

/-- The samples of a tile in the local file. -/
theorem readLocalized_run (h : metadata.Merit)
    (hindex : tileIndex < metadata.tilesAcross * metadata.tilesDown)
    (hinflate : ∀ bytes limit, inflate (deflate bytes) limit = .ok (bytes.take limit))
    (hfits : samples.Fits metadata.sampleType)
    (hbyte : metadata.sampleType.isByte = true → ∃ b,
      (directionNodataByte metadata.sampleType metadata.nodata path).run = .ok (.ok b)) :
    (readLocalized gdal inflate (deflate (encodeTile metadata samples)) metadata tileIndex path).run =
      .ok (.ok (localizedBand gdal metadata (liveTile metadata
        (metadata.liveWidth (tileIndex % metadata.tilesAcross))
        (metadata.liveHeight (tileIndex / metadata.tilesAcross)) samples))) := by
  have hdecode := (decodeOwnedChunk_encodeTile h hindex inflate deflate hinflate path).1 samples hfits
  unfold readLocalized
  cases htype : metadata.sampleType.isByte with
  | true =>
    obtain ⟨b, hb⟩ := hbyte htype
    simp only [if_true, ExceptT.run_bind, hb, hdecode]
    rfl
  | false =>
    simp only [Bool.false_eq_true, if_false, ExceptT.run_bind, hdecode]
    rfl

/-- A direction raster whose nodata text is not a byte. -/
theorem readLocalized_refuses (htype : metadata.sampleType.isByte = true)
    (hnames : ¬metadata.sampleType.Names metadata.nodata) {compressed : List UInt8} :
    ∃ error, (readLocalized gdal inflate compressed metadata tileIndex path).run = .ok (.error error) := by
  have hnone : ∃ error, (directionNodataByte metadata.sampleType metadata.nodata path).run =
      .ok (.error error) := by
    cases hsample : metadata.sampleType with
    | u8 =>
      rw [hsample] at hnames
      rw [directionNodataByte, Option.not_isSome_iff_eq_none.1 hnames]
      exact ⟨_, rfl⟩
    | i8 =>
      rw [hsample] at hnames
      rw [directionNodataByte, Option.not_isSome_iff_eq_none.1 hnames]
      exact ⟨_, rfl⟩
    | f32 =>
      rw [hsample] at htype
      cases htype
    | i32 =>
      rw [hsample] at htype
      cases htype
  obtain ⟨error, herror⟩ := hnone
  refine ⟨error, ?_⟩
  unfold readLocalized
  simp only [htype, if_true, ExceptT.run_bind, herror]
  rfl

/-- The localized path takes these live samples of a tile to be nodata. -/
def LocalizedMask (gdal : GdalDataType → Option String → Option F64)
    (inflate : List UInt8 → ℕ → Except String (List UInt8)) (compressed : List UInt8)
    (metadata : CogMetadata) (tileIndex : ℕ) (path : String) (mask : List Bool) : Prop :=
  ∃ band, (readLocalized gdal inflate compressed metadata tileIndex path).run = .ok (.ok band) ∧
    nodataMask metadata.sampleType.rasterKind band = .ok mask

/-- The localized path compares with the number in the nodata text. -/
theorem localizedMask_of_names (h : metadata.Merit)
    (hindex : tileIndex < metadata.tilesAcross * metadata.tilesDown)
    (hinflate : ∀ bytes limit, inflate (deflate bytes) limit = .ok (bytes.take limit))
    (hgdal : ReadsNodata gdal) (hfits : samples.Fits metadata.sampleType)
    (hnames : metadata.sampleType.Names metadata.nodata) :
    LocalizedMask gdal inflate (deflate (encodeTile metadata samples)) metadata tileIndex path
      (numericMask metadata.sampleType (gdal metadata.sampleType.gdalType (some metadata.nodata))
        (metadata.liveWidth (tileIndex % metadata.tilesAcross))
        (metadata.liveHeight (tileIndex / metadata.tilesAcross)) samples) := by
  have hnames' := hnames
  have hfits' := hfits
  refine ⟨_, readLocalized_run h hindex hinflate hfits ?_, ?_⟩
  · intro hbyte
    cases htype : metadata.sampleType with
    | u8 =>
      rw [htype] at hnames
      obtain ⟨b, hb⟩ := Option.isSome_iff_exists.1 hnames
      exact ⟨b, by rw [directionNodataByte, hb]; rfl⟩
    | i8 =>
      rw [htype] at hnames
      obtain ⟨b, hb⟩ := Option.isSome_iff_exists.1 hnames
      exact ⟨b, by rw [directionNodataByte, hb]; rfl⟩
    | i32 =>
      rw [htype] at hbyte
      cases hbyte
    | f32 =>
      rw [htype] at hbyte
      cases hbyte
  · cases htype : metadata.sampleType with
    | u8 =>
      rw [htype] at hnames' hfits'
      obtain ⟨b, hb⟩ := Option.isSome_iff_exists.1 hnames'
      obtain ⟨n, hn, -⟩ := Option.map_eq_some_iff.1 hb
      cases samples with
      | words tile => cases hfits'
      | bytes tile =>
        rw [CogSampleType.gdalType, hgdal.uint8 hn]
        exact localized_u8 hgdal htype hn tile
    | i8 =>
      rw [htype] at hnames' hfits'
      obtain ⟨b, hb⟩ := Option.isSome_iff_exists.1 hnames'
      obtain ⟨v, hv, -⟩ := Option.map_eq_some_iff.1 hb
      cases samples with
      | words tile => cases hfits'
      | bytes tile =>
        rw [CogSampleType.gdalType, hgdal.int8 hv]
        exact localized_i8 hgdal htype hv tile
    | i32 =>
      rw [htype] at hnames' hfits'
      obtain ⟨v, hv⟩ := Option.isSome_iff_exists.1 hnames'
      cases samples with
      | bytes tile => cases hfits'
      | words tile =>
        rw [CogSampleType.gdalType, hgdal.int32 hv]
        exact localized_i32 hgdal htype hv tile
    | f32 =>
      rw [htype] at hfits'
      cases samples with
      | bytes tile => cases hfits'
      | words tile => exact localized_f32 htype tile

/-- The direct path compares with the number in the nodata text. -/
theorem directMask_of_names (hgdal : ReadsNodata gdal) {sampleType : CogSampleType} {text : String}
    (hfits : samples.Fits sampleType) (hnames : sampleType.Names text) :
    DirectMask gdal sampleType (some text) liveWidth liveHeight samples
      (numericMask sampleType (gdal sampleType.gdalType (some text)) liveWidth liveHeight samples) := by
  cases sampleType with
  | u8 =>
    obtain ⟨b, hb⟩ := Option.isSome_iff_exists.1 hnames
    obtain ⟨n, hn, -⟩ := Option.map_eq_some_iff.1 hb
    have hlt : n < 2 ^ 8 := of_decide_eq_true (Option.filter_eq_some_iff.1 hn).2
    have hvalue := hgdal.uint8 hn
    cases samples with
    | words tile => cases hfits
    | bytes tile =>
      rw [CogSampleType.gdalType, hvalue]
      exact directMask_u8 (by omega) (by omega) (flowDirectionNodata_uint8 (by omega) (by omega))
        hvalue tile
  | i8 =>
    obtain ⟨b, hb⟩ := Option.isSome_iff_exists.1 hnames
    obtain ⟨v, hv, -⟩ := Option.map_eq_some_iff.1 hb
    obtain ⟨hmin, hmax⟩ := parseSigned_range hv
    have hvalue := hgdal.int8 hv
    cases samples with
    | words tile => cases hfits
    | bytes tile =>
      rw [CogSampleType.gdalType, hvalue]
      exact directMask_i8 (by omega) (by omega) (flowDirectionNodata_int8 (by omega) (by omega))
        hvalue tile
  | i32 =>
    obtain ⟨v, hv⟩ := Option.isSome_iff_exists.1 hnames
    obtain ⟨hmin, hmax⟩ := parseSigned_range hv
    have hvalue := hgdal.int32 hv
    cases samples with
    | bytes tile => cases hfits
    | words tile =>
      rw [CogSampleType.gdalType, hvalue]
      exact directMask_i32 (by omega) (by omega) hvalue tile
  | f32 =>
    cases samples with
    | bytes tile => cases hfits
    | words tile => exact directMask_f32 tile

/-- The direct path assumes 255 when GDAL gives no number of a byte type. -/
theorem directMask_of_byte {sampleType : CogSampleType} (hbyte : sampleType.isByte = true)
    (hfits : samples.Fits sampleType)
    (hvalue : ∀ v, sampleType.Holds v → gdal sampleType.gdalType declared ≠ some (.finite v)) :
    DirectMask gdal sampleType declared liveWidth liveHeight samples
      (numericMask sampleType (some (.finite sampleType.assumedNodata)) liveWidth liveHeight
        samples) := by
  cases sampleType with
  | u8 =>
    cases samples with
    | words tile => cases hfits
    | bytes tile =>
      have hdefault : flowDirectionNodata .uint8 (gdal .uint8 declared) = UInt8.ofInt 255 :=
        flowDirectionNodata_of_ne (fun _ v hmin hmax => hvalue v ⟨hmin, hmax⟩) (fun h => nomatch h)
      exact directMask_u8 (by decide) (by decide) hdefault rfl tile
  | i8 =>
    cases samples with
    | words tile => cases hfits
    | bytes tile =>
      have hdefault : flowDirectionNodata .int8 (gdal .int8 declared) = UInt8.ofInt (-1) :=
        flowDirectionNodata_of_ne (fun h => nomatch h) (fun _ v hmin hmax => hvalue v ⟨hmin, hmax⟩)
      exact directMask_i8 (by decide) (by decide) hdefault rfl tile
  | i32 => cases hbyte
  | f32 => cases hbyte

/-- The direct path assumes no value for an accumulation raster. -/
theorem directMask_none (hgdal : ReadsNodata gdal) {sampleType : CogSampleType}
    (hbyte : ¬sampleType.isByte = true) (hfits : samples.Fits sampleType) :
    DirectMask gdal sampleType none liveWidth liveHeight samples
      (numericMask sampleType none liveWidth liveHeight samples) := by
  cases sampleType with
  | u8 => exact absurd rfl hbyte
  | i8 => exact absurd rfl hbyte
  | i32 =>
    cases samples with
    | bytes tile => cases hfits
    | words tile => exact directMask_i32_none (hgdal.absent _) tile
  | f32 =>
    cases samples with
    | bytes tile => cases hfits
    | words tile =>
      rw [← hgdal.absent .float32]
      exact directMask_f32 tile

theorem names_defaultNodata (sampleType : CogSampleType) :
    sampleType.Names sampleType.defaultNodata := by
  cases sampleType with
  | u8 => exact (by decide : (parseU8 "255").isSome = true)
  | i8 => exact (by decide : (parseI8AsU8 "-1").isSome = true)
  | i32 => exact (by decide : (parseI32 "-1").isSome = true)
  | f32 => trivial

theorem gdal_defaultNodata (hgdal : ReadsNodata gdal) (sampleType : CogSampleType) :
    gdal sampleType.gdalType (some sampleType.defaultNodata) =
      some (.finite sampleType.assumedNodata) := by
  cases sampleType <;> exact hgdal.integer _ _ _ (by decide) (fun _ => by decide)

/-- **Nodata.** A declared number of the sample type: both paths take the samples that are numerically
equal to it to be nodata. A direction raster with another text is refused by the localized path, and the
direct path assumes 255 unless GDAL reads a number of the type. Without a declared value the localized
path assumes one, as the direct path does for bytes. -/
theorem nodata_masks (h : metadata.Merit)
    (hindex : tileIndex < metadata.tilesAcross * metadata.tilesDown)
    (hinflate : ∀ bytes limit, inflate (deflate bytes) limit = .ok (bytes.take limit))
    (hgdal : ReadsNodata gdal)
    (hnodata : metadata.nodata = declared.getD metadata.sampleType.defaultNodata)
    (hfits : samples.Fits metadata.sampleType) (path : String) :
    let liveWidth := metadata.liveWidth (tileIndex % metadata.tilesAcross)
    let liveHeight := metadata.liveHeight (tileIndex / metadata.tilesAcross)
    let localized := LocalizedMask gdal inflate (deflate (encodeTile metadata samples)) metadata
      tileIndex path
    let direct := DirectMask gdal metadata.sampleType declared liveWidth liveHeight samples
    let equalTo (value : Option F64) := numericMask metadata.sampleType value liveWidth liveHeight samples
    (∀ text, declared = some text → metadata.sampleType.Names text →
      localized (equalTo (gdal metadata.sampleType.gdalType declared)) ∧
        direct (equalTo (gdal metadata.sampleType.gdalType declared))) ∧
    (∀ text, declared = some text → metadata.sampleType.isByte = true →
      ¬metadata.sampleType.Names text →
        (∃ error, (readLocalized gdal inflate (deflate (encodeTile metadata samples)) metadata tileIndex
          path).run = .ok (.error error)) ∧
        ((∀ v, metadata.sampleType.Holds v →
          gdal metadata.sampleType.gdalType declared ≠ some (.finite v)) →
            direct (equalTo (some (.finite metadata.sampleType.assumedNodata))))) ∧
    (declared = none →
      localized (equalTo (some (.finite metadata.sampleType.assumedNodata))) ∧
        direct (equalTo (if metadata.sampleType.isByte then
          some (.finite metadata.sampleType.assumedNodata) else none))) := by
  refine ⟨?_, ?_, ?_⟩
  · intro text htext hnames
    subst htext
    have htext : metadata.nodata = text := hnodata
    subst htext
    exact ⟨localizedMask_of_names h hindex hinflate hgdal hfits hnames,
      directMask_of_names hgdal hfits hnames⟩
  · intro text htext hbyte hnames
    subst htext
    have htext : metadata.nodata = text := hnodata
    subst htext
    exact ⟨readLocalized_refuses hbyte hnames, fun hvalue => directMask_of_byte hbyte hfits hvalue⟩
  · intro hnone
    subst hnone
    have htext : metadata.nodata = metadata.sampleType.defaultNodata := hnodata
    constructor
    · have hnames : metadata.sampleType.Names metadata.nodata := by
        rw [htext]
        exact names_defaultNodata _
      rw [← gdal_defaultNodata hgdal, ← htext]
      exact localizedMask_of_names h hindex hinflate hgdal hfits hnames
    · split_ifs with hbyte
      · exact directMask_of_byte hbyte hfits fun v _ hv => by
          rw [hgdal.absent] at hv
          cases hv
      · exact directMask_none hgdal hbyte hfits

end

/-! ### Accumulations -/

/-- An integer text, or `NaN`. -/
def gdalInteger (_ : GdalDataType) (text : Option String) : Option F64 :=
  text.map fun text => ((parseSigned 33 text).map fun v => F64.finite (v : ℚ)).getD .nan

theorem readsNodata_gdalInteger : ReadsNodata gdalInteger where
  absent _ := rfl
  nan := by decide
  integer _ text v h _ := by
    simp only [gdalInteger, Option.map_some, h]
    rfl

/-- A raster of accumulations in tiles without a predictor. -/
def accumulationMetadata (sampleType : CogSampleType) (nodata : String) : CogMetadata :=
  { fourTileMetadata with sampleType, predictor := 1, nodata }

/-- A tile of equal samples. -/
def constantTile (w : UInt32) : PaddedRows UInt32 where
  rows := List.replicate 512 (List.replicate 512 w)
  length_rows := List.length_replicate
  length_row row hrow := by
    rw [List.eq_of_mem_replicate hrow, List.length_replicate]

theorem merit_accumulationMetadata {sampleType : CogSampleType} (nodata : String) :
    (accumulationMetadata sampleType nodata).Merit := by
  refine ⟨rfl, rfl, ?_⟩
  cases sampleType <;> rfl

theorem mem_live_constantTile (w : UInt32) : w ∈ (constantTile w).live 512 512 := by
  have hrow : (List.replicate 512 w).take 512 = List.replicate 512 w := by
    rw [List.take_replicate, Nat.min_self]
  refine List.mem_flatten.2 ⟨List.replicate 512 w, List.mem_map.2 ⟨List.replicate 512 w, ?_, hrow⟩,
    List.mem_replicate.2 ⟨by decide, rfl⟩⟩
  rw [constantTile, List.take_replicate]
  exact List.mem_replicate.2 ⟨by decide, rfl⟩

/-- The first tile of integers that are all `-9999`. -/
theorem nodata_masks_minus9999 :
    let samples := TileSamples.words (constantTile 0xFFFFD8F1)
    let mask := numericMask .i32 (some (.finite (-9999 : ℤ))) 512 512 samples
    LocalizedMask gdalInteger Zlib.inflate
      (Zlib.store (encodeTile (accumulationMetadata .i32 "-9999") samples))
      (accumulationMetadata .i32 "-9999") 0 "acc.tif" mask ∧
    DirectMask gdalInteger .i32 (some "-9999") 512 512 samples mask := by
  intro samples mask
  have hvalue : gdalInteger .int32 (some "-9999") = some (.finite (-9999 : ℤ)) :=
    readsNodata_gdalInteger.int32 (by decide)
  have hindex : 0 < (accumulationMetadata .i32 "-9999").tilesAcross *
      (accumulationMetadata .i32 "-9999").tilesDown := by decide
  have hnodata : (accumulationMetadata .i32 "-9999").nodata =
      (some "-9999").getD (accumulationMetadata .i32 "-9999").sampleType.defaultNodata := rfl
  have hfits : samples.Fits (accumulationMetadata .i32 "-9999").sampleType := rfl
  have hmasks := (nodata_masks (merit_accumulationMetadata "-9999") hindex Zlib.inflate_store
    readsNodata_gdalInteger hnodata hfits "acc.tif").1 "-9999" rfl
    (by decide : (parseI32 "-9999").isSome = true)
  have hmask : numericMask .i32 (gdalInteger .int32 (some "-9999")) 512 512 samples = mask := by
    rw [hvalue]
  rw [← hmask]
  exact hmasks

/-- Floats without a declared nodata value: the localized path takes `-1` to be nodata. -/
theorem not_nodata_masks :
    ¬∀ (gdal : GdalDataType → Option String → Option F64) (metadata : CogMetadata) (tileIndex : ℕ)
      (inflate : List UInt8 → ℕ → Except String (List UInt8)) (deflate : List UInt8 → List UInt8)
      (declared : Option String) (samples : TileSamples) (path : String),
      metadata.Merit → tileIndex < metadata.tilesAcross * metadata.tilesDown →
      (∀ bytes limit, inflate (deflate bytes) limit = .ok (bytes.take limit)) → ReadsNodata gdal →
      metadata.nodata = declared.getD metadata.sampleType.defaultNodata →
      samples.Fits metadata.sampleType →
        let liveWidth := metadata.liveWidth (tileIndex % metadata.tilesAcross)
        let liveHeight := metadata.liveHeight (tileIndex / metadata.tilesAcross)
        let mask := (numericMask metadata.sampleType (gdal metadata.sampleType.gdalType declared)
          liveWidth liveHeight samples).map (declared.isSome && ·)
        LocalizedMask gdal inflate (deflate (encodeTile metadata samples)) metadata tileIndex path mask ∧
          DirectMask gdal metadata.sampleType declared liveWidth liveHeight samples mask := by
  intro h
  have hindex : 0 < (accumulationMetadata .f32 "-1").tilesAcross *
      (accumulationMetadata .f32 "-1").tilesDown := by decide
  have hnodata : (accumulationMetadata .f32 "-1").nodata =
      (none : Option String).getD (accumulationMetadata .f32 "-1").sampleType.defaultNodata := rfl
  have hfits : (TileSamples.words (constantTile 0xBF800000)).Fits
      (accumulationMetadata .f32 "-1").sampleType := rfl
  obtain ⟨⟨band, hband, hclaimed⟩, -⟩ := h _ _ _ _ _ _ _ "acc.tif" (merit_accumulationMetadata "-1")
    hindex Zlib.inflate_store readsNodata_gdalInteger hnodata hfits
  obtain ⟨⟨band', hband', hmask⟩, -⟩ := (nodata_masks (merit_accumulationMetadata "-1") hindex
    Zlib.inflate_store readsNodata_gdalInteger hnodata hfits "acc.tif").2.2 rfl
  obtain rfl : band = band' := by
    rw [hband] at hband'
    exact Except.ok.inj (Except.ok.inj hband')
  have hsame := Except.ok.inj (hclaimed.symm.trans hmask)
  have hminusOne : true ∈ numericMask .f32 (some (.finite (-1 : ℤ))) 512 512
      (.words (constantTile 0xBF800000)) :=
    List.mem_map.2 ⟨0xBF800000, mem_live_constantTile _, by decide +kernel⟩
  have hclaim : true ∈ (numericMask .f32 (gdalInteger .float32 none) 512 512
      (.words (constantTile 0xBF800000))).map (false && ·) := hsame ▸ hminusOne
  obtain ⟨b, -, hb⟩ := List.mem_map.1 hclaim
  cases hb

end Pourpoint
