import Pourpoint.Export.Identity
import Pourpoint.FloatCast
import Pourpoint.Library.HilbertCurve
import Pourpoint.Machine
import Pourpoint.Rounding

/-!
# Spatial order of exported rows

Rows are sorted by the Hilbert index of their centroid on a grid of `2 ^ 16` cells an axis. The loop of
`xy_to_hilbert_index` follows the curve of the library and none of its steps overflows
(`xyToHilbertIndex_curve`).
-/

namespace Pourpoint

open Library

/-! ## The Hilbert index -/

/-- The bits of an axis. -/
def hilbertBits : ℕ := 16

/-- The last cell of an axis. -/
def hilbertAxisMax : ℕ := 2 ^ hilbertBits - 1

/-- The loop of `xy_to_hilbert_index` on integers of `width` bits, from its turn with `bits` bits. -/
def hilbertLoop (width : ℕ) : ℕ → ℕ → ℕ → ℕ → Exec ℕ
  | 0, _, _, index => .ok index
  | bits + 1, x, y, index => do
    let half ← orOverflow (if bits < width then some (2 ^ bits) else none)
    let quadrantArea ← orOverflow (checkedMul width half half)
    if x < half ∧ y < half then hilbertLoop width bits y x index
    else if x < half then do
      let index ← orOverflow (checkedAdd width index quadrantArea)
      let y ← subUnsigned y half
      hilbertLoop width bits x y index
    else if half ≤ y then do
      let area ← orOverflow (checkedMul width 2 quadrantArea)
      let index ← orOverflow (checkedAdd width index area)
      let x ← subUnsigned x half
      let y ← subUnsigned y half
      hilbertLoop width bits x y index
    else do
      let area ← orOverflow (checkedMul width 3 quadrantArea)
      let index ← orOverflow (checkedAdd width index area)
      let last ← subUnsigned half 1
      let nextX ← subUnsigned last y
      let across ← subUnsigned x half
      let nextY ← subUnsigned last across
      hilbertLoop width bits nextX nextY index

/-- `xy_to_hilbert_index`. -/
def xyToHilbertIndex (x y : ℕ) : Exec ℕ := hilbertLoop 32 hilbertBits x y 0

/-- On integers that hold the area of the square the loop adds the index of the point. -/
theorem hilbertLoop_eq_ok {width bits x y index : ℕ} (hx : x < 2 ^ bits) (hy : y < 2 ^ bits)
    (hindex : index + 4 ^ bits ≤ 2 ^ width) :
    hilbertLoop width bits x y index = .ok (index + hilbertIndex bits x y) := by
  induction bits generalizing x y index with
  | zero => rfl
  | succ bits ih =>
    have hpos : 0 < 2 ^ bits := by positivity
    have hsquare : 2 ^ bits * 2 ^ bits = 4 ^ bits := by rw [← Nat.mul_pow]
    have hle : 2 ^ bits ≤ 4 ^ bits := Nat.pow_le_pow_left (by decide) bits
    rw [pow_succ] at hx hy hindex
    have hshift : bits < width := by
      by_contra h
      have := Nat.pow_le_pow_right (by decide : 0 < 2) (not_lt.1 h)
      omega
    rw [hilbertLoop, if_pos hshift, orOverflow, ok_bind,
      orOverflow_checkedMul (by rw [hsquare]; omega), ok_bind, hsquare, hilbertIndex]
    split_ifs with hlow hleft hup
    · exact ih hlow.2 hlow.1 (by omega)
    · rw [orOverflow_checkedAdd (by omega), ok_bind, subUnsigned_eq_ok (by omega), ok_bind,
        ih hleft (by omega) (by omega), Nat.add_assoc]
    · rw [orOverflow_checkedMul (by omega), ok_bind, orOverflow_checkedAdd (by omega), ok_bind,
        subUnsigned_eq_ok (by omega), ok_bind, subUnsigned_eq_ok (by omega), ok_bind,
        ih (by omega) (by omega) (by omega), Nat.add_assoc]
    · rw [orOverflow_checkedMul (by omega), ok_bind, orOverflow_checkedAdd (by omega), ok_bind,
        subUnsigned_eq_ok (by omega), ok_bind, subUnsigned_eq_ok (by omega), ok_bind,
        subUnsigned_eq_ok (by omega), ok_bind, subUnsigned_eq_ok (by omega), ok_bind,
        ih (by omega) (by omega) (by omega), Nat.add_assoc]

/-- **The sort key is a Hilbert curve.** For every number of bits the loop runs through the square, each
point once, from neighbour to neighbour; with sixteen bits it does so on `u32`. -/
theorem xyToHilbertIndex_curve :
    (∀ bits width, 2 * bits ≤ width → ∃ index : ℕ × ℕ → ℕ,
      (∀ p ∈ square bits, hilbertLoop width bits p.1 p.2 0 = .ok (index p)) ∧
      Set.BijOn index (square bits) {d | d < 4 ^ bits} ∧
      ∀ p ∈ square bits, ∀ q ∈ square bits, index q = index p + 1 → Adjacent p q) ∧
    ∀ x y, x < 2 ^ 16 → y < 2 ^ 16 → ∃ index < 2 ^ 32, xyToHilbertIndex x y = .ok index := by
  have hloop : ∀ bits width, 2 * bits ≤ width → ∀ p ∈ square bits,
      hilbertLoop width bits p.1 p.2 0 = .ok (hilbertIndex bits p.1 p.2) := by
    intro bits width hwidth p hp
    have hfour : 4 ^ bits ≤ 2 ^ width := by
      rw [show 4 = 2 ^ 2 by rfl, ← pow_mul]
      exact Nat.pow_le_pow_right (by decide) hwidth
    rw [hilbertLoop_eq_ok hp.1 hp.2 (by omega), Nat.zero_add]
  refine ⟨?_, ?_⟩
  · intro bits width hwidth
    refine ⟨fun p => hilbertIndex bits p.1 p.2, hloop bits width hwidth, hilbertIndex_bijOn bits, ?_⟩
    intro p hp q hq hnext
    have hlt : hilbertIndex bits p.1 p.2 + 1 < 4 ^ bits := by
      rw [← hnext]
      exact hilbertIndex_lt hq.1 hq.2
    have hadjacent := hilbertPoint_adjacent hlt
    rwa [← hnext, hilbertPoint_hilbertIndex hp.1 hp.2, hilbertPoint_hilbertIndex hq.1 hq.2]
      at hadjacent
  · intro x y hx hy
    exact ⟨hilbertIndex 16 x y, hilbertIndex_lt hx hy, hloop 16 32 (by decide) (x, y) ⟨hx, hy⟩⟩

example : xyToHilbertIndex 65535 0 = .ok (2 ^ 32 - 1) := by decide +kernel

/-- The key of the writers. -/
theorem xyToHilbertIndex_curve_sixteen : ∃ index : ℕ × ℕ → ℕ,
    (∀ p ∈ square 16, xyToHilbertIndex p.1 p.2 = .ok (index p)) ∧
    Set.BijOn index (square 16) {d | d < 4 ^ 16} ∧
    ∀ p ∈ square 16, ∀ q ∈ square 16, index q = index p + 1 → Adjacent p q :=
  xyToHilbertIndex_curve.1 16 32 (by decide)

/-! ## Bounds and centroids -/

/-- The bounds of a geometry. -/
structure BasinBbox where
  minx : Double
  miny : Double
  maxx : Double
  maxy : Double
  deriving DecidableEq

/-- The bounds of a row in the file. -/
structure OutwardF32Bbox where
  minx : F32
  miny : F32
  maxx : F32
  maxy : F32
  deriving DecidableEq

/-- The point that places a row on the curve. -/
structure BasinCentroid where
  lon : Double
  lat : Double
  deriving DecidableEq, Repr

/-- What the export asks `geo` and the encoder about a multi-polygon. Bounds are the lower and the upper
corner. -/
structure GeometryReads (Polygon : Type) where
  unsignedArea : List Polygon → F64
  boundingRect : List Polygon → Option (DoubleCoord × DoubleCoord)
  centroid : List Polygon → Option BasinCentroid
  encodeWkb : List Polygon → Except String (List UInt8)

section

variable {Polygon : Type} (geo : GeometryReads Polygon)

/-- `basin_bbox`. -/
def basinBbox (geometry : List Polygon) : Except ExportError BasinBbox :=
  if geometry = [] ∨ (geo.unsignedArea geometry).isNonpos = true then
    .error (.bboxFailure "geometry is empty or degenerate")
  else
    match geo.boundingRect geometry with
    | none => .error (.bboxFailure "geometry has no bounding rectangle")
    | some (min, max) =>
      if min.x.toF64.isFinite && min.y.toF64.isFinite && max.x.toF64.isFinite && max.y.toF64.isFinite &&
          min.x.toF64.lt max.x.toF64 && min.y.toF64.lt max.y.toF64 then
        .ok ⟨min.x, min.y, max.x, max.y⟩
      else .error (.bboxFailure "geometry bounds are non-finite or degenerate")

/-- `round_f32_toward_negative_infinity`, with `F32.nextDown` for `next_f32_down`. -/
def roundF32TowardNegativeInfinity (value : Double) : F32 :=
  if value.toF32.toF64.le value.toF64 then value.toF32 else value.toF32.nextDown

/-- `round_f32_toward_positive_infinity`, with `F32.nextUp` for `next_f32_up`. -/
def roundF32TowardPositiveInfinity (value : Double) : F32 :=
  if value.toF64.le value.toF32.toF64 then value.toF32 else value.toF32.nextUp

/-- `outward_f32_bbox`. -/
def outwardF32Bbox (bbox : BasinBbox) : OutwardF32Bbox where
  minx := roundF32TowardNegativeInfinity bbox.minx
  miny := roundF32TowardNegativeInfinity bbox.miny
  maxx := roundF32TowardPositiveInfinity bbox.maxx
  maxy := roundF32TowardPositiveInfinity bbox.maxy

/-- `basin_centroid`. -/
def basinCentroid (geometry : List Polygon) : Except ExportError BasinCentroid :=
  if geometry = [] ∨ (geo.unsignedArea geometry).isNonpos = true then
    .error (.centroidFailure "geometry is empty or degenerate")
  else
    match geo.centroid geometry with
    | none => .error (.centroidFailure "geometry has no centroid")
    | some centroid =>
      if centroid.lon.toF64.isFinite && centroid.lat.toF64.isFinite then .ok centroid
      else .error (.centroidFailure "geometry centroid is non-finite")

/-- `quantize_axis`. -/
def quantizeAxis (value : Double) (low high : F64) : ℕ :=
  let clamped := if value.toF64.isFinite then value.toF64.clamp low high
    else if value.negative then low else high
  let normalized := (clamped.sub low).div (high.sub low)
  (normalized.mul (.finite hilbertAxisMax)).roundU32

/-- `HilbertIndex::from_centroid`. -/
def hilbertIndexOf (centroid : BasinCentroid) : Exec ℕ :=
  xyToHilbertIndex (quantizeAxis centroid.lon (.finite (-180)) (.finite 180))
    (quantizeAxis centroid.lat (.finite (-90)) (.finite 90))

end

/-- What `quantize_axis` clamps lies on the axis. -/
theorem exists_clamped (value : Double) {low high : ℚ} (h : low ≤ high) :
    ∃ c, (if value.toF64.isFinite then value.toF64.clamp (.finite low) (.finite high)
      else if value.negative then .finite low else .finite high) = .finite c ∧ low ≤ c ∧ c ≤ high := by
  cases hvalue : value.toF64 with
  | nan | infinity =>
    simp only [F64.isFinite, Bool.false_eq_true, if_false]
    split_ifs
    · exact ⟨low, rfl, le_rfl, h⟩
    · exact ⟨high, rfl, h, le_rfl⟩
  | finite q =>
    rw [F64.isFinite, if_pos rfl, F64.clamp, F64.lt_finite, F64.lt_finite]
    simp only [decide_eq_true_iff]
    split_ifs with hbelow habove
    · exact ⟨low, rfl, le_rfl, h⟩
    · exact ⟨high, rfl, h, le_rfl⟩
    · exact ⟨q, rfl, not_lt.1 hbelow, not_lt.1 habove⟩

theorem roundU32_le {q : ℚ} {n : ℕ} (hzero : 0 ≤ q) (hq : q ≤ n) : (F64.finite q).roundU32 ≤ n := by
  refine (Nat.min_le_left _ _).trans ?_
  have hfloor : ⌊q + 1 / 2⌋ ≤ n := by
    rw [← Int.lt_add_one_iff, Int.floor_lt]
    push_cast
    linarith
  rw [F64.roundHalfAway, if_pos hzero]
  omega

/-- A cell of the grid, for an axis whose length is an integer. -/
theorem quantizeAxis_lt (value : Double) {low high : ℚ} {length : ℕ} (hpos : 0 < length)
    (hlength : (length : ℚ) = high - low) (hsmall : length < 2 ^ 53) :
    quantizeAxis value (.finite low) (.finite high) < 2 ^ 16 := by
  have hposQ : (0 : ℚ) < length := by exact_mod_cast hpos
  have hmagnitude : ∀ n : ℕ, n < 2 ^ 53 → (n : ℚ) < 2 ^ 1024 := by
    intro n hn
    have hsignificand : (n : ℚ) < 2 ^ 53 := by exact_mod_cast hn
    exact hsignificand.trans (pow_lt_pow_right₀ one_lt_two (by decide))
  obtain ⟨c, hc, hlow, hhigh⟩ := exists_clamped value (by linarith : low ≤ high)
  -- The offset from the lower end, and the length of the axis, which is exact.
  obtain ⟨d, hd, hd₀, hd₁⟩ := F64.round_between hsmall (F64.natCast_eq_place length)
    (hmagnitude _ hsmall) (by linarith : 0 ≤ c + -low) (by linarith)
  obtain ⟨w, hw, hw₀, hw₁⟩ := F64.round_between hsmall (F64.natCast_eq_place length)
    (hmagnitude _ hsmall) (by linarith : 0 ≤ high + -low) (by linarith)
  have hexact : w = length := by
    have hle := F64.le_round hsmall ((abs_of_pos hposQ).trans (F64.natCast_eq_place length))
      ((abs_of_pos hposQ).trans_lt (hmagnitude _ hsmall)) (by linarith : (length : ℚ) ≤ high + -low)
    rw [hw] at hle
    exact le_antisymm hw₁ (F64.finite_le.1 hle)
  subst hexact
  -- The quotient is at most one, and the product at most the last cell.
  obtain ⟨r, hr, hr₀, hr₁⟩ := F64.round_between (by decide : 1 < 2 ^ 53) (F64.natCast_eq_place 1)
    (hmagnitude 1 (by decide)) (div_nonneg hd₀ hposQ.le) ((div_le_one hposQ).2 hd₁ |>.trans_eq
      Nat.cast_one.symm)
  have hlast : hilbertAxisMax < 2 ^ 53 := by decide
  have hproduct : r * hilbertAxisMax ≤ hilbertAxisMax := by
    rw [Nat.cast_one] at hr₁
    exact mul_le_of_le_one_left (Nat.cast_nonneg _) hr₁
  obtain ⟨m, hm, hm₀, hm₁⟩ := F64.round_between hlast (F64.natCast_eq_place hilbertAxisMax)
    (hmagnitude _ hlast) (mul_nonneg hr₀ (Nat.cast_nonneg _)) hproduct
  have hcell : quantizeAxis value (.finite low) (.finite high) = (F64.finite m).roundU32 := by
    rw [quantizeAxis, hc]
    simp only [F64.sub, F64.neg, F64.add, hd, hw, F64.div, hr, F64.mul, hm]
  rw [hcell]
  exact lt_of_le_of_lt (roundU32_le hm₀ hm₁) (by decide)

theorem exists_hilbertIndexOf (centroid : BasinCentroid) :
    ∃ index < 2 ^ 32, hilbertIndexOf centroid = .ok index :=
  xyToHilbertIndex_curve.2 _ _
    (@quantizeAxis_lt _ _ _ 360 (by decide) (by norm_num) (by decide))
    (@quantizeAxis_lt _ _ _ 180 (by decide) (by norm_num) (by decide))

end Pourpoint
