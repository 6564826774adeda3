import Pourpoint.FloatCast
import Pourpoint.Library.StableSort
import Mathlib.Data.Prod.Lex

/-!
# Dissolving polygons

`dissolve_spatial_reduce_strategy` sorts polygons by a key of six parts and unions them in a binary tree
that depends on their number only. The key is made of the bounds, the area and the first vertex of a
polygon. Two polygons with one key stay in the order of the input, so the operands of the tree are
independent of that order exactly where equal keys mean equal polygons (`dissolve_order_iff`).
-/

namespace Pourpoint

open Library

/-! ## Polygons and their keys -/

/-- `Polygon<f64>`. -/
structure DoublePolygon where
  exterior : List DoubleCoord
  interiors : List (List DoubleCoord)
  deriving DecidableEq, Repr

/-- What the key asks `geo` about a polygon: its bounds, as the lower and the upper corner, and its
unsigned area. -/
structure DissolveReads where
  boundingRect : DoublePolygon → Option (DoubleCoord × DoubleCoord)
  unsignedArea : DoublePolygon → Double

/-- `OrderedFloat::new`: a `u64` whose order is that of `total_cmp`. -/
def orderedFloat (value : Double) : ℕ :=
  if value.negative then 2 ^ 63 - 1 - value.magnitude.val else 2 ^ 63 + value.magnitude.val

/-- `quantize_for_morton`. -/
def quantizeForMorton (value : F64) : ℕ :=
  let normalized := if value.isFinite then
    ((value.add (.finite 180)).div (.finite 360)).clamp (.finite 0) (.finite 1) else .finite 0
  (normalized.mul (.finite 65535)).roundU32

/-- `interleave_bits`. -/
def interleaveBits (value : ℕ) : BitVec 64 :=
  let spread := BitVec.ofNat 64 value &&& 0x0000FFFF
  let spread := (spread ||| spread <<< 16) &&& 0x0000FFFF0000FFFF
  let spread := (spread ||| spread <<< 8) &&& 0x00FF00FF00FF00FF
  let spread := (spread ||| spread <<< 4) &&& 0x0F0F0F0F0F0F0F0F
  let spread := (spread ||| spread <<< 2) &&& 0x3333333333333333
  (spread ||| spread <<< 1) &&& 0x5555555555555555

/-- `morton_key`. -/
def mortonKey (x y : F64) : ℕ :=
  (interleaveBits (quantizeForMorton x) ||| interleaveBits (quantizeForMorton y) <<< 1).toNat

/-- `SpatialKey`. -/
structure SpatialKey where
  morton : ℕ
  minX : ℕ
  minY : ℕ
  unsignedArea : ℕ
  firstX : ℕ
  firstY : ℕ
  deriving DecidableEq, Repr

namespace SpatialKey

/-- The derived order: by the fields in turn. -/
def lex (key : SpatialKey) : ℕ ×ₗ ℕ ×ₗ ℕ ×ₗ ℕ ×ₗ ℕ ×ₗ ℕ :=
  toLex (key.morton, toLex (key.minX, toLex (key.minY, toLex (key.unsignedArea,
    toLex (key.firstX, key.firstY)))))

theorem lex_injective : Function.Injective lex := by
  rintro ⟨⟩ ⟨⟩ h
  simp only [lex, EmbeddingLike.apply_eq_iff_eq, Prod.mk.injEq] at h
  simpa only [SpatialKey.mk.injEq] using h

instance : LinearOrder SpatialKey := LinearOrder.lift' lex lex_injective

/-- `SpatialKey::empty`. -/
def empty : SpatialKey :=
  let origin := orderedFloat ⟨false, 0⟩
  ⟨0, origin, origin, origin, origin, origin⟩

end SpatialKey

/-- `spatial_key`. -/
def spatialKey (geo : DissolveReads) (polygon : DoublePolygon) : SpatialKey :=
  match geo.boundingRect polygon with
  | none => .empty
  | some (low, high) =>
    let half := F64.finite (1 / 2)
    let centerX := (low.x.toF64.add high.x.toF64).mul half
    let centerY := (low.y.toF64.add high.y.toF64).mul half
    let first := polygon.exterior.head?.getD ⟨⟨false, 0⟩, ⟨false, 0⟩⟩
    { morton := mortonKey centerX centerY
      minX := orderedFloat low.x
      minY := orderedFloat low.y
      unsignedArea := orderedFloat (geo.unsignedArea polygon)
      firstX := orderedFloat first.x
      firstY := orderedFloat first.y }

/-! ## The union tree -/

/-- A union of two multi-polygons. -/
abbrev Union := List DoublePolygon → List DoublePolygon → List DoublePolygon

/-- `deterministic_reduce`. -/
def deterministicReduce (union : Union) (polygons : List (List DoublePolygon)) :
    List DoublePolygon :=
  match polygons with
  | [] => []
  | [polygon] => union [] polygon
  | p :: q :: rest =>
    let all := p :: q :: rest
    union (deterministicReduce union (all.take (all.length / 2)))
      (deterministicReduce union (all.drop (all.length / 2)))
termination_by polygons.length
decreasing_by
  · simp only [List.length_take, List.length_cons]
    omega
  · simp only [List.length_drop, List.length_cons]
    omega

/-- `dissolve_reduce_strategy`. -/
def dissolveReduceStrategy (union : Union) (polygons : List DoublePolygon) : List DoublePolygon :=
  deterministicReduce union (polygons.map fun polygon => [polygon])

/-- The operands of the tree: the polygons by `sort_by_key(spatial_key)`. -/
def operands (geo : DissolveReads) (polygons : List DoublePolygon) : List DoublePolygon :=
  sortByKey (spatialKey geo) polygons

/-- `dissolve_spatial_reduce_strategy`. -/
def dissolveSpatialReduceStrategy (geo : DissolveReads) (union : Union)
    (polygons : List DoublePolygon) : List DoublePolygon :=
  dissolveReduceStrategy union (operands geo polygons)

inductive DissolveError where
  | emptyInput
  deriving DecidableEq, Repr

/-- `dissolve`. -/
def dissolve (geo : DissolveReads) (union : Union) (polygons : List DoublePolygon) :
    Except DissolveError (List DoublePolygon) :=
  if polygons = [] then .error .emptyInput else .ok (dissolveSpatialReduceStrategy geo union polygons)

/-! ## The order of the input -/

theorem deterministicReduce_append (polygons : List (List DoublePolygon)) :
    deterministicReduce (· ++ ·) polygons = polygons.flatten := by
  fun_induction deterministicReduce (· ++ ·) polygons with
  | case1 => rfl
  | case2 polygon => simp
  | case3 p q rest all ihLeft ihRight =>
    rw [ihLeft, ihRight, ← List.flatten_append, List.take_append_drop]

theorem dissolveReduceStrategy_append (polygons : List DoublePolygon) :
    dissolveReduceStrategy (· ++ ·) polygons = polygons := by
  rw [dissolveReduceStrategy, deterministicReduce_append, ← List.flatMap_def]
  exact List.flatMap_singleton' polygons

/-- Every order of the list gives the same operands. -/
def SameOperands (geo : DissolveReads) (polygons : List DoublePolygon) : Prop :=
  ∀ other, polygons.Perm other → operands geo other = operands geo polygons

/-- Every order of the list gives the same result, whatever the union computes. -/
def SameResults (geo : DissolveReads) (polygons : List DoublePolygon) : Prop :=
  ∀ other, polygons.Perm other → ∀ union,
    dissolveSpatialReduceStrategy geo union other = dissolveSpatialReduceStrategy geo union polygons

theorem sameResults_iff {geo : DissolveReads} {polygons : List DoublePolygon} :
    SameResults geo polygons ↔ SameOperands geo polygons := by
  constructor
  · intro h other hperm
    have hresult := h other hperm (· ++ ·)
    rwa [dissolveSpatialReduceStrategy, dissolveSpatialReduceStrategy, dissolveReduceStrategy_append,
      dissolveReduceStrategy_append] at hresult
  · intro h other hperm union
    rw [dissolveSpatialReduceStrategy, h other hperm]
    rfl

/-- **Dissolving and the order of the input.** The operands of the tree and its results are those of every
order of the polygons exactly when polygons with one key are equal. -/
theorem dissolve_order_iff (geo : DissolveReads) (polygons : List DoublePolygon) :
    SameOperands geo polygons ∧ SameResults geo polygons ↔
      ∀ p ∈ polygons, ∀ q ∈ polygons, spatialKey geo p = spatialKey geo q → p = q := by
  rw [sameResults_iff, and_self]
  exact sortByKey_perm_iff

/-- The bits of the numbers zero, one and two. -/
def smallDouble : ℕ → Double
  | 0 => ⟨false, 0⟩
  | 1 => ⟨false, 0x3FF0000000000000⟩
  | _ => ⟨false, 0x4000000000000000⟩

/-- The corner `(x, y)` of a square of side two. -/
def smallCoord (x y : ℕ) : DoubleCoord := ⟨smallDouble x, smallDouble y⟩

/-- A trapezoid in the square, with the sides `left` and `right`. -/
def trapezoid (left right : ℕ) : DoublePolygon :=
  ⟨[smallCoord 0 0, smallCoord 2 0, smallCoord 2 right, smallCoord 0 left, smallCoord 0 0], []⟩

/-- The bounds and the area of a trapezoid with sides one and two. -/
def trapezoidReads : DissolveReads where
  boundingRect _ := some (smallCoord 0 0, smallCoord 2 2)
  unsignedArea _ := ⟨false, 0x4008000000000000⟩

/-- Two trapezoids with one key are united in the order of the input. -/
theorem not_dissolve_order :
    ¬∀ (geo : DissolveReads) (polygons : List DoublePolygon),
      SameOperands geo polygons ∧ SameResults geo polygons := by
  intro h
  have hkeys : spatialKey trapezoidReads (trapezoid 2 1) = spatialKey trapezoidReads (trapezoid 1 2) :=
    rfl
  have hoperands := (h trapezoidReads [trapezoid 2 1, trapezoid 1 2]).1 _ (List.Perm.swap _ _ [])
  rw [operands, operands, sortByKey, sortByKey] at hoperands
  simp only [List.insertionSort_cons, List.insertionSort_nil, List.orderedInsert, hkeys, le_refl,
    if_true] at hoperands
  exact absurd hoperands (by decide)

end Pourpoint
