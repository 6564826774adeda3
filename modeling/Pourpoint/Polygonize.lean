import Pourpoint.Geometry
import Pourpoint.Grid
import Std.Data.TreeMap.Lemmas

/-!
# `polygonize`

The mask's directed boundary edges are collected cell by cell, chained into closed rings, split
by the sign of their area into exteriors and holes, and each hole is given to the first exterior
that contains its first vertex.

Where a vertex has two outgoing edges the ring takes the one pushed last. `BTreeMap` is
`Std.TreeMap` with the row-major order on vertices, `Polygon::contains` is a parameter.
-/

namespace Pourpoint

open Lattice

/-- A pixel corner `(row, col)`. -/
abbrev Vertex := ℕ × ℕ

abbrev DirectedEdge := Vertex × Vertex

/-- A closed sequence of corners. -/
abbrev Ring := List Vertex

/-! ## Boundary edges -/

/-- The boundary edges of one cell, with the cell on their right. -/
def cellEdges (mask : CatchmentMask) (r c : ℕ) : List DirectedEdge :=
  if mask.contains ⟨r, c⟩ then
    (if r = 0 || !mask.contains ⟨r - 1, c⟩ then [((r, c), (r, c + 1))] else []) ++
    (if r + 1 = mask.rows || !mask.contains ⟨r + 1, c⟩ then [((r + 1, c + 1), (r + 1, c))] else []) ++
    (if c = 0 || !mask.contains ⟨r, c - 1⟩ then [((r + 1, c), (r, c))] else []) ++
    (if c + 1 = mask.cols || !mask.contains ⟨r, c + 1⟩ then [((r, c + 1), (r + 1, c + 1))] else [])
  else []

/-- The boundary edges of one row of cells. -/
def rowEdges (mask : CatchmentMask) (r : ℕ) : List DirectedEdge :=
  (List.range mask.cols).flatMap (cellEdges mask r)

/-- `extract_edges`. -/
def extractEdges (mask : CatchmentMask) : List DirectedEdge :=
  (List.range mask.rows).flatMap (rowEdges mask)

/-! ## Ring assembly -/

/-- The order of the keys: by row, then by column. -/
def vertexCmp : Vertex → Vertex → Ordering :=
  compareLex (compareOn Prod.fst) (compareOn Prod.snd)

/-- Each start vertex with the ends of its outgoing edges. -/
abbrev Adjacency := Std.TreeMap Vertex (List Vertex) vertexCmp

/-- `adjacency.entry(start).or_default().push(end)`, for every edge. -/
def buildAdjacency (edges : List DirectedEdge) : Adjacency :=
  edges.foldl (fun m e => m.alter e.1 fun ends => some (ends.getD [] ++ [e.2])) ∅

/-- The inner loop: pop an outgoing edge of `current` until the ring is back at `origin`. -/
def followRing : ℕ → Adjacency → Vertex → Ring → Vertex → Exec (Adjacency × Ring)
  | 0, _, _, _, _ => .error .outOfFuel
  | fuel + 1, adjacency, origin, ring, current => do
    let ends ← unwrap adjacency[current]?
    let next ← unwrap ends.getLast?
    let rest := ends.dropLast
    let adjacency :=
      if rest.isEmpty then adjacency.erase current else adjacency.insert current rest
    if next = origin then
      .ok (adjacency, ring ++ [origin])
    else
      followRing fuel adjacency origin (ring ++ [next]) next

/-- The outer loop: start a ring at the first remaining key. -/
def assembleLoop : ℕ → Adjacency → List Ring → Exec (List Ring)
  | 0, _, _ => .error .outOfFuel
  | fuel + 1, adjacency, rings =>
    match adjacency.keys.head? with
    | none => .ok rings
    | some origin => do
      let (adjacency, ring) ← followRing (fuel + 1) adjacency origin [origin] origin
      assembleLoop fuel adjacency (rings ++ [ring])

/-- `assemble_rings`. Each step of either loop uses up an edge. -/
def assembleRings (edges : List DirectedEdge) : Exec (List Ring) :=
  assembleLoop (edges.length + 1) (buildAdjacency edges) []

/-! ## Areas and coordinates -/

/-- `shoelace_area`. -/
def shoelaceArea (ring : Ring) : ℚ :=
  if ring.length < 3 then 0
  else ((segments ring).map fun e => (e.1.2 : ℚ) * e.2.1 - (e.2.2 : ℚ) * e.1.1).sum / 2

/-- `geo_signed_area_ls`. -/
def geoSignedAreaLs (ls : LineString) : ℚ :=
  if ls.length < 3 then 0
  else ((segments ls).map fun e => e.1.x * e.2.y - e.2.x * e.1.y).sum / 2

/-- The native coordinates of a pixel corner. -/
def cornerCoord (geo : GeoTransform) (v : Vertex) : Coord where
  x := geo.originX + v.2 * geo.pixelWidth
  y := geo.originY + v.1 * geo.pixelHeight

/-- `to_geo_coords`. -/
def toGeoCoords (ring : Ring) (geo : GeoTransform) : LineString := ring.map (cornerCoord geo)

/-! ## Polygons -/

/-- A ring of nonnegative area is an exterior, any other ring is a hole. -/
def isExterior (ring : Ring) : Bool := 0 ≤ shoelaceArea ring

/-- The exterior that a hole is given to: the first that contains the hole's first vertex. -/
def holeOwner (contains : Polygon → Coord → Bool) (exteriorPolys : List Polygon) (point : Coord) :
    Option ℕ :=
  exteriorPolys.findIdx? fun extPoly => contains extPoly point

/-- One turn of the loop that assigns holes. A hole without an owner is dropped. -/
def assignHole (contains : Polygon → Coord → Bool) (geo : GeoTransform)
    (exteriorPolys : List Polygon) (polygonHoles : List (List LineString)) (hole : Ring) :
    Exec (List (List LineString)) :=
  match (toGeoCoords hole geo).head? with
  | none => .error .outOfBounds
  | some testPoint =>
    match holeOwner contains exteriorPolys testPoint with
    | some idx => .ok (polygonHoles.modify idx (· ++ [toGeoCoords hole geo]))
    | none => .ok polygonHoles

/-- The loop that assigns holes. -/
def assignHoles (contains : Polygon → Coord → Bool) (geo : GeoTransform)
    (exteriorPolys : List Polygon) (holes : List Ring) : Exec (List (List LineString)) :=
  holes.foldlM (assignHole contains geo exteriorPolys) (List.replicate exteriorPolys.length [])

/-- Exteriors are turned counter-clockwise and holes clockwise. -/
def normalisePolygon (extPoly : Polygon) (holes : List LineString) : Polygon :=
  Polygon.new
    (if geoSignedAreaLs extPoly.exterior < 0 then extPoly.exterior.reverse else extPoly.exterior)
    (holes.map fun h => if 0 < geoSignedAreaLs h then h.reverse else h)

/-- `polygonize`. -/
def polygonize (contains : Polygon → Coord → Bool) (mask : CatchmentMask) (geo : GeoTransform) :
    Exec (Option MultiPolygon) := do
  let edges := extractEdges mask
  if edges.isEmpty then
    return none
  let rings ← assembleRings edges
  let exteriors := rings.filter isExterior
  let holes := rings.filter fun ring => !isExterior ring
  if exteriors.isEmpty then
    return none
  let exteriorPolys := exteriors.map fun ext => Polygon.new (toGeoCoords ext geo) []
  let polygonHoles ← assignHoles contains geo exteriorPolys holes
  return some (exteriorPolys.zipWith normalisePolygon polygonHoles)

end Pourpoint
