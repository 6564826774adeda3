import Pourpoint.Cog.Chunk
import Pourpoint.FloatCast

/-!
# The GDAL raster reader

`load_flow_direction` and `load_accumulation` after the band has been read: the samples of the band, the
byte that stands for nodata in a direction raster, and the replacement of nodata by `NaN` in an
accumulation raster. GDAL gives the declared nodata value as an `f64`.
-/

namespace Pourpoint

/-! ## Casts from `f64` -/

namespace F64

/-- Rounding towards zero. -/
def truncate (q : ℚ) : ℤ := if q < 0 then ⌈q⌉ else ⌊q⌋

/-- `as i32`. -/
def toI32 : F64 → ℤ
  | nan => 0
  | infinity negative => if negative then -2 ^ 31 else 2 ^ 31 - 1
  | finite q => max (-2 ^ 31) (min (truncate q) (2 ^ 31 - 1))

@[simp]
theorem truncate_intCast (v : ℤ) : truncate v = v := by
  unfold truncate
  split_ifs
  · exact Int.ceil_intCast v
  · exact Int.floor_intCast v

theorem toI32_intCast {v : ℤ} (hmin : -2 ^ 31 ≤ v) (hmax : v < 2 ^ 31) : toI32 (.finite v) = v := by
  rw [toI32, truncate_intCast]
  omega

example : toI32 .nan = 0 ∧ toI32 (.finite (-19999 / 2)) = -9999 ∧ toI32 (.finite 1e10) = 2 ^ 31 - 1 := by
  decide +kernel

end F64

/-! ## Bands -/

/-- The sample types that GDAL reports. -/
inductive GdalDataType where
  | uint8
  | int8
  | int32
  | float32
  | other (name : String)
  deriving DecidableEq, Repr

/-- The samples of a band that has been read in its own type. -/
inductive GdalSamples where
  | uint8 (data : List UInt8)
  | int8 (data : List Int8)
  | int32 (data : List ℤ)
  | float32 (data : List F32)
  | other (name : String)

/-- `band_type`. -/
def GdalSamples.type : GdalSamples → GdalDataType
  | uint8 _ => .uint8
  | int8 _ => .int8
  | int32 _ => .int32
  | float32 _ => .float32
  | other name => .other name

/-- A band: its samples and `no_data_value`. -/
structure GdalBand where
  samples : GdalSamples
  noDataValue : Option F64

inductive RasterReadError where
  | unsupportedSampleType (kind : RasterKind) (found : GdalDataType)
  deriving DecidableEq

/-- `replace_nodata_with_nan`. -/
def replaceNodataWithNan (data : List F32) (gdalNodata : Option F64) : List F32 :=
  match gdalNodata with
  | none => data
  | some value =>
    if value.toF32.isNan then data
    else data.map fun v => if v.eq value.toF32 then F32.nan else v

/-- `flow_direction_nodata`. A rational has no fraction when its denominator is one. -/
def flowDirectionNodata (dataType : GdalDataType) (noDataValue : Option F64) : UInt8 :=
  match dataType, noDataValue with
  | .int8, some (.finite q) =>
    if q.den = 1 ∧ -128 ≤ q ∧ q ≤ 127 then UInt8.ofInt (F64.truncate q) else 255
  | .uint8, some (.finite q) =>
    if q.den = 1 ∧ 0 ≤ q ∧ q ≤ 255 then UInt8.ofInt (F64.truncate q) else 255
  | _, _ => 255

/-- The bytes and the nodata byte of `load_flow_direction`. -/
def loadFlowDirection (band : GdalBand) : Except RasterReadError (List UInt8 × UInt8) :=
  match band.samples with
  | .uint8 data => .ok (data, flowDirectionNodata .uint8 band.noDataValue)
  | .int8 data => .ok (data.map Int8.toUInt8, flowDirectionNodata .int8 band.noDataValue)
  | found => .error (.unsupportedSampleType .flowDir found.type)

/-- The values of `load_accumulation`. -/
def loadAccumulation (band : GdalBand) : Except RasterReadError (List F32) :=
  match band.samples with
  | .float32 data => .ok (replaceNodataWithNan data band.noDataValue)
  | .int32 data => .ok (normalizeI32Accumulation data (band.noDataValue.map F64.toI32))
  | found => .error (.unsupportedSampleType .flowAcc found.type)

/-- Which samples of a loaded band are nodata: the nodata byte of a direction raster, `NaN` in an
accumulation raster. -/
def nodataMask (kind : RasterKind) (band : GdalBand) : Except RasterReadError (List Bool) :=
  match kind with
  | .flowDir => (fun tile => tile.1.map (· == tile.2)) <$> loadFlowDirection band
  | .flowAcc => List.map F32.isNan <$> loadAccumulation band

/-! ## What is nodata after loading -/

theorem F32.isNan_ofInt (v : ℤ) : (F32.ofInt v).isNan = false := by
  have hnonneg : ∀ q, (F32.ofNonneg q).isNan = false := by
    intro q
    exact decide_eq_false (not_lt.2 (min_le_right _ _))
  unfold F32.ofInt
  split_ifs
  · exact hnonneg _
  · exact hnonneg _

theorem map_isNan_normalizeI32Accumulation (data : List ℤ) (nodata : Option ℤ) :
    (normalizeI32Accumulation data nodata).map F32.isNan = data.map fun v => decide (some v = nodata) := by
  rw [normalizeI32Accumulation, List.map_map]
  refine List.map_congr_left fun v _ => ?_
  show (if some v = nodata then F32.nan else F32.ofInt v).isNan = _
  split_ifs with h
  · rw [decide_eq_true h]
    rfl
  · rw [decide_eq_false h]
    exact F32.isNan_ofInt v

/-- An accumulation of floats. -/
theorem map_isNan_replaceNodataWithNan (data : List F32) (gdalNodata : Option F64) :
    (replaceNodataWithNan data gdalNodata).map F32.isNan =
      data.map fun v => v.isNan || gdalNodata.any fun value => v.eq value.toF32 := by
  cases gdalNodata with
  | none => simp [replaceNodataWithNan]
  | some value =>
    rw [replaceNodataWithNan]
    split_ifs with hnan
    · refine List.map_congr_left fun v _ => ?_
      have hne : v.eq value.toF32 = false := by simp [F32.eq, hnan]
      simp [hne]
    · rw [List.map_map]
      refine List.map_congr_left fun v _ => ?_
      show (if v.eq value.toF32 then F32.nan else v).isNan = _
      split_ifs with heq
      · simp only [heq, Option.any_some, Bool.or_true]
        rfl
      · simp [heq]

theorem flowDirectionNodata_uint8 {v : ℤ} (hmin : 0 ≤ v) (hmax : v ≤ 255) :
    flowDirectionNodata .uint8 (some (.finite v)) = UInt8.ofInt v := by
  have hrange : (v : ℚ).den = 1 ∧ (0 : ℚ) ≤ v ∧ (v : ℚ) ≤ 255 :=
    ⟨Rat.den_intCast v, by exact_mod_cast hmin, by exact_mod_cast hmax⟩
  rw [flowDirectionNodata, if_pos hrange, F64.truncate_intCast]

theorem flowDirectionNodata_int8 {v : ℤ} (hmin : -128 ≤ v) (hmax : v ≤ 127) :
    flowDirectionNodata .int8 (some (.finite v)) = UInt8.ofInt v := by
  have hrange : (v : ℚ).den = 1 ∧ (-128 : ℚ) ≤ v ∧ (v : ℚ) ≤ 127 :=
    ⟨Rat.den_intCast v, by exact_mod_cast hmin, by exact_mod_cast hmax⟩
  rw [flowDirectionNodata, if_pos hrange, F64.truncate_intCast]

/-- A number that the type does not hold gives the default byte. -/
theorem flowDirectionNodata_of_ne {dataType : GdalDataType} {value : Option F64}
    (huint8 : dataType = .uint8 → ∀ v : ℤ, 0 ≤ v → v ≤ 255 → value ≠ some (.finite v))
    (hint8 : dataType = .int8 → ∀ v : ℤ, -128 ≤ v → v ≤ 127 → value ≠ some (.finite v)) :
    flowDirectionNodata dataType value = 255 := by
  unfold flowDirectionNodata
  split
  · next q =>
    refine if_neg fun h => ?_
    obtain ⟨hden, hmin, hmax⟩ := h
    have hq : (q.num : ℚ) = q := Rat.coe_int_num_of_den_eq_one hden
    rw [← hq] at hmin hmax
    exact hint8 rfl q.num (by exact_mod_cast hmin) (by exact_mod_cast hmax) (by rw [hq])
  · next q =>
    refine if_neg fun h => ?_
    obtain ⟨hden, hmin, hmax⟩ := h
    have hq : (q.num : ℚ) = q := Rat.coe_int_num_of_den_eq_one hden
    rw [← hq] at hmin hmax
    exact huint8 rfl q.num (by exact_mod_cast hmin) (by exact_mod_cast hmax) (by rw [hq])
  · rfl

end Pourpoint
