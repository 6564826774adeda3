import Pourpoint.F64
import Pourpoint.Geometry
import Pourpoint.Library.Comparison

/-!
# Canonical WKB

`canonical_wkb_multi_polygon` in exact arithmetic: coordinates are rounded to integers, rings are closed,
oriented and rotated to their least start, and holes and polygons are sorted. The shared WKB encoder is a
parameter.
-/

namespace Pourpoint.CanonicalWkb

open Library

def coordinateScale : ℚ := 1000000

/-- `round_coordinate`. -/
def roundCoordinate (value : ℚ) : ℤ := F64.roundHalfAway (value * coordinateScale)

/-- A coordinate in units of a millionth. -/
@[ext] structure RoundedCoord where
  x : ℤ
  y : ℤ
  deriving DecidableEq, Repr

/-- The derived order: by `x`, then by `y`. -/
instance : Ord RoundedCoord := ⟨compareLex (compareOn (·.x)) (compareOn (·.y))⟩

/-- `RoundedCoord::from_coord`. Halves are rounded away from zero. -/
def RoundedCoord.fromCoord (coord : Coord) : RoundedCoord :=
  ⟨roundCoordinate coord.x, roundCoordinate coord.y⟩

/-- `RoundedCoord::into_coord`. -/
def RoundedCoord.intoCoord (coord : RoundedCoord) : Coord :=
  ⟨coord.x / coordinateScale, coord.y / coordinateScale⟩

/-! ## Rings -/

/-- The turn of the sum of `signed_area_twice`. -/
def cross (left right : RoundedCoord) : ℤ := left.x * right.y - right.x * left.y

/-- `signed_area_twice`; the second vertices are those of the cycle from the second on. -/
def signedAreaTwice (vertices : List RoundedCoord) : ℤ :=
  if vertices.length < 3 then 0 else (List.zipWith cross vertices (vertices.rotate 1)).sum

/-- The bounding box of a ring. -/
structure RingBbox where
  minX : ℤ
  minY : ℤ
  maxX : ℤ
  maxY : ℤ

/-- The derived order: field by field. -/
instance : Ord RingBbox :=
  ⟨compareLex (compareOn (·.minX)) (compareLex (compareOn (·.minY))
    (compareLex (compareOn (·.maxX)) (compareOn (·.maxY))))⟩

/-- `RingBbox::empty`. -/
def RingBbox.empty : RingBbox := ⟨F64.i64Max, F64.i64Max, F64.i64Min, F64.i64Min⟩

/-- `RingBbox::include`. -/
def RingBbox.include (bbox : RingBbox) (coord : RoundedCoord) : RingBbox :=
  ⟨min bbox.minX coord.x, min bbox.minY coord.y, max bbox.maxX coord.x, max bbox.maxY coord.y⟩

/-- The first vertex is pushed, if there is one. -/
def closeVertices (vertices : List RoundedCoord) : List RoundedCoord :=
  vertices ++ vertices.head?.toList

@[simp] theorem dropLast_closeVertices (vertices : List RoundedCoord) :
    (closeVertices vertices).dropLast = vertices := by
  cases vertices with
  | nil => rfl
  | cons v vertices => exact List.dropLast_concat

/-- `CanonicalRing`, whose last vertex is its first one. -/
@[ext] structure CanonicalRing where
  vertices : List RoundedCoord
  closed : closeVertices vertices.dropLast = vertices

namespace CanonicalRing

/-- `open_vertices`: without the repeated start. -/
def openVertices (ring : CanonicalRing) : List RoundedCoord := ring.vertices.dropLast

/-- `CanonicalRing::bbox`. -/
def bbox (ring : CanonicalRing) : RingBbox := ring.openVertices.foldl RingBbox.include .empty

/-- Twice the signed area of the ring. -/
def signedAreaTwice (ring : CanonicalRing) : ℤ := CanonicalWkb.signedAreaTwice ring.openVertices

/-- `into_line_string`. -/
def intoLineString (ring : CanonicalRing) : LineString := ring.vertices.map RoundedCoord.intoCoord

end CanonicalRing

/-- What a ring is for. -/
inductive RingOrientation where
  | exterior | hole
  deriving DecidableEq

/-- `compare_cyclic_sequence`. -/
def compareCyclicSequence (vertices : List RoundedCoord) (leftStart rightStart : ℕ) : Ordering :=
  (firstDifference ((List.range vertices.length).map fun offset =>
    compare vertices[(leftStart + offset) % vertices.length]?
      vertices[(rightStart + offset) % vertices.length]?)).getD .eq

/-- `rotate_to_total_order_start`. -/
def rotateToTotalOrderStart (vertices : List RoundedCoord) : List RoundedCoord :=
  if vertices.length ≤ 1 then vertices
  else
    let start := (List.range' 1 (vertices.length - 1)).foldl (fun best candidate =>
      if compareCyclicSequence vertices candidate best = .lt then candidate else best) 0
    vertices.drop start ++ vertices.take start

/-- The vertices of a ring after rounding, without the repetition of the first one. -/
def ringVertices (ring : LineString) : List RoundedCoord :=
  let vertices := ring.map RoundedCoord.fromCoord
  if vertices.head? = vertices.getLast? then vertices.dropLast else vertices

/-- The vertices in the direction of the orientation. -/
def orient (orientation : RingOrientation) (vertices : List RoundedCoord) : List RoundedCoord :=
  let areaTwice := signedAreaTwice vertices
  match orientation with
  | .exterior => if areaTwice < 0 then vertices.reverse else vertices
  | .hole => if 0 < areaTwice then vertices.reverse else vertices

/-- `normalize_ring`. -/
def normalizeRing (ring : LineString) (orientation : RingOrientation) : CanonicalRing :=
  ⟨closeVertices (rotateToTotalOrderStart (orient orientation (ringVertices ring))), by simp⟩

/-- `compare_ring`. -/
def compareRing (left right : CanonicalRing) : Ordering :=
  (compare left.bbox right.bbox).then
    ((compare left.signedAreaTwice right.signedAreaTwice).then
      (compare left.openVertices right.openVertices))

/-! ## Polygons -/

/-- A polygon of canonical rings. -/
structure CanonicalPolygon where
  exterior : CanonicalRing
  holes : List CanonicalRing

/-- Twice the area of the exterior ring less that of the holes. -/
def CanonicalPolygon.areaTwice (polygon : CanonicalPolygon) : ℤ :=
  |polygon.exterior.signedAreaTwice| - (polygon.holes.map fun hole => |hole.signedAreaTwice|).sum

/-- `CanonicalPolygon::into_polygon`. -/
def CanonicalPolygon.intoPolygon (polygon : CanonicalPolygon) : Polygon :=
  .new polygon.exterior.intoLineString (polygon.holes.map CanonicalRing.intoLineString)

/-- `normalize_polygon`. -/
def normalizePolygon (polygon : Polygon) : CanonicalPolygon where
  exterior := normalizeRing polygon.exterior .exterior
  holes := sortBy compareRing (polygon.interiors.map fun ring => normalizeRing ring .hole)

/-- `compare_hole_sequences`. -/
def compareHoleSequences (left right : List CanonicalRing) : Ordering :=
  (firstDifference (List.zipWith compareRing left right)).getD (compare left.length right.length)

/-- `compare_polygon`. -/
def comparePolygon (left right : CanonicalPolygon) : Ordering :=
  (compare left.exterior.bbox right.exterior.bbox).then
    ((compare left.areaTwice right.areaTwice).then
      ((compare left.holes.length right.holes.length).then
        ((compare left.exterior.openVertices right.exterior.openVertices).then
          (compareHoleSequences left.holes right.holes))))

/-- The geometry that `canonical_wkb_multi_polygon` encodes. -/
def normalized (mp : MultiPolygon) : MultiPolygon :=
  (sortBy comparePolygon (mp.map normalizePolygon)).map CanonicalPolygon.intoPolygon

/-- `canonical_wkb_multi_polygon`. -/
def canonicalWkbMultiPolygon {ε : Type} (encodeWkbMultiPolygon : MultiPolygon → Except ε (List UInt8))
    (mp : MultiPolygon) : Except ε (List UInt8) :=
  encodeWkbMultiPolygon (normalized mp)

example : (normalizeRing [⟨1, 1⟩, ⟨1, 0⟩, ⟨0, 0⟩, ⟨1, 1⟩] .exterior).vertices =
    [⟨0, 0⟩, ⟨1000000, 0⟩, ⟨1000000, 1000000⟩, ⟨0, 0⟩] := by decide +kernel

end Pourpoint.CanonicalWkb
