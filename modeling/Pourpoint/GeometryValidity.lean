import Pourpoint.D8Selection
import Pourpoint.Lattice.Polyline
import Pourpoint.Library.SortedMap
import Pourpoint.Machine

/-!
# Validity of polygons

`validate_polygon` collects the points where two rings of a polygon meet, with the rings that meet there,
checks the holes, and then joins the rings of each contact. A contact of rings that are already joined
closes a cycle, and the interior of the polygon is not connected.

The tree of envelopes, the intersection of two lines, and the relation of two polygons are code outside of
the repository: `GeoCrates`.
-/

namespace Pourpoint.GeometryValidity

open Fallible Lattice Library

/-- `GeometryValidityError`. -/
inductive GeometryValidityError where
  | nonFinite (polygon ring coordinate : ℕ)
  | degenerateRing (polygon ring : ℕ)
  | ringIntersection (polygon ring firstSegment secondSegment : ℕ)
  | ringConflict (polygon firstRing secondRing : ℕ)
  | holeOutsideShell (polygon ring : ℕ)
  | holeOverlap (polygon firstRing secondRing : ℕ)
  | disconnectedInterior (polygon : ℕ)
  | polygonConflict (firstPolygon secondPolygon : ℕ)
  deriving DecidableEq

/-! ## Geometry -/

/-- `geo::Line<f64>`. -/
structure F64Line where
  start : F64Coord
  finish : F64Coord
  deriving DecidableEq

/-- `LineIntersection`. -/
inductive LineIntersection where
  | singlePoint (intersection : F64Coord) (isProper : Bool)
  | collinear (intersection : F64Line)
  deriving DecidableEq

/-- `CoordPos`. -/
inductive CoordPos where
  | onBoundary | inside | outside
  deriving DecidableEq

/-- `Dimensions`, in increasing order. -/
inductive Dimensions where
  | empty | zeroDimensional | oneDimensional | twoDimensional
  deriving DecidableEq

/-- The order of `Dimensions`. -/
def Dimensions.rank : Dimensions → ℕ
  | .empty => 0
  | .zeroDimensional => 1
  | .oneDimensional => 2
  | .twoDimensional => 3

/-- What is asked of an `IntersectionMatrix`. -/
structure IntersectionMatrix where
  get : CoordPos → CoordPos → Dimensions
  isCovers : Bool

/-- The corners that `AABB::from_corners` is given. -/
structure Envelope where
  lower : F64Coord
  upper : F64Coord
  deriving DecidableEq

/-- What the trees hold: an envelope and an index. -/
structure EnvelopeItem where
  envelope : Envelope
  index : ℕ
  deriving DecidableEq

/-- `rstar::RTree` over bulk loaded items, and the predicates of `geo`. -/
structure GeoCrates where
  iter : List EnvelopeItem → List EnvelopeItem
  locateInEnvelopeIntersecting : List EnvelopeItem → Envelope → List EnvelopeItem
  lineIntersection : F64Line → F64Line → Option LineIntersection
  relate : F64Polygon → F64Polygon → IntersectionMatrix
  boundingRect : F64Polygon → Option F64Rect

/-- A tree holds the items it was loaded with. -/
structure GeoCrates.Lawful (geo : GeoCrates) : Prop where
  mem_of_mem_iter : ∀ {items item}, item ∈ geo.iter items → item ∈ items
  mem_of_mem_locate : ∀ {items envelope item},
    item ∈ geo.locateInEnvelopeIntersecting items envelope → item ∈ items

/-- A segment of a ring and where it stands in it. -/
structure Segment where
  line : F64Line
  ring : ℕ
  index : ℕ
  deriving DecidableEq

/-- The envelope of a line. -/
def envelope (line : F64Line) : Envelope :=
  ⟨⟨line.start.x.min line.finish.x, line.start.y.min line.finish.y⟩,
    ⟨line.start.x.max line.finish.x, line.start.y.max line.finish.y⟩⟩

/-- `==` on `Coord<f64>`. -/
def coordEq (a b : F64Coord) : Bool := a.x.eq b.x && a.y.eq b.y

/-- The coordinates after `last` that `dedup` keeps. -/
def dedupAfter (last : F64Coord) : List F64Coord → List F64Coord
  | [] => []
  | c :: coords => if coordEq c last then dedupAfter last coords else c :: dedupAfter c coords

/-- `Vec::dedup`. -/
def dedupCoords : List F64Coord → List F64Coord
  | [] => []
  | c :: coords => c :: dedupAfter c coords

/-- `coords.first() == coords.last()`. -/
def firstEqLast (coords : List F64Coord) : Bool :=
  match coords.head?, coords.getLast? with
  | some first, some last => coordEq first last
  | _, _ => true

/-- The key of a coordinate: its bits, and those of zero for both zeros. -/
def contactKey (value : F64) : ℕ := if value.eq (.finite 0) then 0 else value.toBits

/-- `BTreeSet<usize>`. -/
abbrev RingSet := SortedMap ℕ Unit

/-- The points where rings meet, with these rings. -/
abbrev Contacts := SortedMap (ℕ ×ₗ ℕ) RingSet

section

variable (geo : GeoCrates)

/-! ## Rings and segments -/

/-- The rings of a polygon with their positions. -/
def ringsOf (part : F64Polygon) : List (List F64Coord × ℕ) := (part.exterior :: part.interiors).zipIdx

/-- The turn of `validate_polygon` for a ring. -/
def collectRing (polygon : ℕ) (state : List F64Polygon × List Segment) (boundary : List F64Coord × ℕ) :
    Fallible GeometryValidityError (List F64Polygon × List Segment) :=
  if 0 < boundary.2 ∧ boundary.1 = [] then pure (state.1 ++ [⟨[], []⟩], state.2)
  else do
    let coords := dedupCoords boundary.1
    failIf (coords.length < 4 ∨ firstEqLast coords = false) (.degenerateRing polygon boundary.2)
    let lines := (segments coords).zipIdx.map fun line =>
      (⟨⟨line.1.1, line.1.2⟩, boundary.2, line.2⟩ : Segment)
    pure (state.1 ++ [.new coords []], state.2 ++ lines)

/-- The rings and segments of a polygon, each ring checked. -/
def collectRings (polygon : ℕ) (part : F64Polygon) :
    Fallible GeometryValidityError (List F64Polygon × List Segment) :=
  (ringsOf part).foldlM (collectRing polygon) ([], [])

/-! ## Contacts -/

/-- A single point that is an end of a segment. -/
def isVertex : LineIntersection → Bool
  | .singlePoint _ isProper => !isProper
  | .collinear _ => false

/-- The segments follow each other in a ring of `count` segments. -/
def adjacent (first second : Segment) (count : ℕ) : Exec Bool :=
  if second.index = first.index + 1 then .ok true
  else if first.index = 0 then do
    let last ← subUnsigned count 1
    .ok (second.index = last)
  else .ok false

/-- The rings of two segments that meet in a point. -/
def addContact (contacts : Contacts) (point : F64Coord) (first second : Segment) : Contacts :=
  let key := toLex (contactKey point.x, contactKey point.y)
  let incident := (contacts.get? key).getD .empty
  contacts.insert key ((incident.insert first.ring ()).insert second.ring ())

/-- The turn for a segment and a candidate. -/
def collectContact (polygon : ℕ) (rings : List F64Polygon) (segs : List Segment) (first : Segment)
    (contacts : Contacts) (candidate : EnvelopeItem) : Fallible GeometryValidityError Contacts := do
  let second ← (readIndex segs candidate.index : Exec Segment)
  match geo.lineIntersection first.line second.line with
  | none => pure contacts
  | some hit =>
    if first.ring = second.ring then do
      let ring ← (readIndex rings first.ring : Exec F64Polygon)
      let count ← subUnsigned ring.exterior.length 1
      let next ← adjacent first second count
      failIf (¬(next && isVertex hit)) (.ringIntersection polygon first.ring first.index second.index)
      pure contacts
    else
      match hit with
      | .singlePoint intersection false => pure (addContact contacts intersection first second)
      | _ => fail (.ringConflict polygon first.ring second.ring)

/-- The items of the tree of segments. -/
def segmentItems (segs : List Segment) : List EnvelopeItem :=
  segs.zipIdx.map fun seg => ⟨envelope seg.1.line, seg.2⟩

/-- The contacts of every two segments whose envelopes meet. -/
def collectContacts (polygon : ℕ) (rings : List F64Polygon) (segs : List Segment) :
    Fallible GeometryValidityError Contacts :=
  segs.zipIdx.foldlM
    (fun contacts first =>
      ((geo.locateInEnvelopeIntersecting (segmentItems segs) (envelope first.1.line)).filter
        fun candidate => first.2 < candidate.index).foldlM
          (collectContact geo polygon rings segs first.1) contacts)
    .empty

/-! ## Holes -/

/-- The items of `component_index`. -/
def componentItems (polygons : List F64Polygon) : List EnvelopeItem :=
  polygons.zipIdx.filterMap fun polygon =>
    (geo.boundingRect polygon.1).map fun rect => ⟨⟨rect.min, rect.max⟩, polygon.2⟩

/-- The pairs of components that the loops over a tree visit, for the items with a property. -/
def componentPairs (polygons : List F64Polygon) (visits : EnvelopeItem → Bool) :
    List (EnvelopeItem × EnvelopeItem) :=
  let items := componentItems geo polygons
  ((geo.iter items).filter visits).flatMap fun item =>
    ((geo.locateInEnvelopeIntersecting items item.envelope).filter fun other =>
      item.index < other.index).map fun other => (item, other)

/-- Every hole lies inside the exterior and apart from the others. -/
def checkHoles (polygon : ℕ) (rings : List F64Polygon) : Fallible GeometryValidityError Unit := do
  (List.range' 1 (rings.length - 1)).forM fun ring => do
    let hole ← (readIndex rings ring : Exec F64Polygon)
    if hole.exterior = [] then pure ()
    else do
      let shell ← (readIndex rings 0 : Exec F64Polygon)
      failIf (¬(geo.relate shell hole).isCovers) (.holeOutsideShell polygon ring)
  (componentPairs geo rings fun item => 0 < item.index).forM fun pair => do
    let first ← (readIndex rings pair.1.index : Exec F64Polygon)
    let second ← (readIndex rings pair.2.index : Exec F64Polygon)
    failIf ((geo.relate first second).get .inside .inside ≠ .empty)
      (.holeOverlap polygon pair.1.index pair.2.index)

/-! ## The union of rings -/

/-- The loop of `root`. -/
def rootLoop : ℕ → List ℕ → ℕ → Exec (List ℕ × ℕ)
  | 0, _, _ => .error .outOfFuel
  | fuel + 1, parents, node => do
    let parent ← readIndex parents node
    if parent = node then .ok (parents, node)
    else do
      let grandparent ← readIndex parents parent
      let parents ← writeIndex parents node grandparent
      let node ← readIndex parents node
      rootLoop fuel parents node

/-- `root`, with paths halved on the way. -/
def root (parents : List ℕ) (node : ℕ) : Exec (List ℕ × ℕ) := rootLoop parents.length parents node

/-- The turn for another ring of a contact. -/
def unite (polygon first : ℕ) (parents : List ℕ) (second : ℕ) :
    Fallible GeometryValidityError (List ℕ) := do
  let a ← root parents first
  let b ← root a.1 second
  failIf (a.2 = b.2) (.disconnectedInterior polygon)
  writeIndex b.1 b.2 a.2

/-- The turn for a contact. -/
def uniteContact (polygon : ℕ) (parents : List ℕ) (incident : List ℕ) :
    Fallible GeometryValidityError (List ℕ) :=
  match incident with
  | [] => pure parents
  | first :: iter => iter.foldlM (unite polygon first) parents

/-- The last pass: the rings of each contact are joined. -/
def connectRings (polygon ringCount : ℕ) (contacts : List (List ℕ)) :
    Fallible GeometryValidityError Unit := do
  let _ ← contacts.foldlM (uniteContact polygon) (List.range ringCount)
  pure ()

/-- The contacts in the order of their keys, each with its rings in increasing order. -/
def Contacts.values (contacts : Contacts) : List (List ℕ) :=
  contacts.entries.map fun contact => contact.2.keys

/-! ## Polygons -/

def isEmptyPart (part : F64Polygon) : Bool := part.exterior.isEmpty && part.interiors.all (·.isEmpty)

/-- `validate_polygon`. -/
def validatePolygon (part : F64Polygon) (polygon : ℕ) : Fallible GeometryValidityError Unit :=
  if isEmptyPart part then pure ()
  else do
    let collected ← collectRings polygon part
    let contacts ← collectContacts geo polygon collected.1 collected.2
    checkHoles geo polygon collected.1
    connectRings polygon collected.1.length contacts.values

/-- The first coordinate that is not finite, with the positions of its polygon and ring. -/
def firstNonFinite (geometry : List F64Polygon) : Option (ℕ × ℕ × ℕ) :=
  geometry.zipIdx.findSome? fun part =>
    (ringsOf part.1).findSome? fun boundary =>
      (boundary.1.findIdx? fun c => !c.x.isFinite || !c.y.isFinite).map fun coordinate =>
        (part.2, boundary.2, coordinate)

/-- `validate_multi_polygon`. -/
def validateMultiPolygon (geometry : List F64Polygon) : Fallible GeometryValidityError Unit := do
  match firstNonFinite geometry with
  | some (polygon, ring, coordinate) => fail (.nonFinite polygon ring coordinate)
  | none => pure ()
  geometry.zipIdx.forM fun part => validatePolygon geo part.1 part.2
  (componentPairs geo geometry fun _ => true).forM fun pair => do
    let first ← (readIndex geometry pair.1.index : Exec F64Polygon)
    let second ← (readIndex geometry pair.2.index : Exec F64Polygon)
    let relation := geo.relate first second
    failIf (relation.get .inside .inside ≠ .empty ∨
      Dimensions.rank .zeroDimensional < (relation.get .onBoundary .onBoundary).rank)
      (.polygonConflict pair.1.index pair.2.index)

end

end Pourpoint.GeometryValidity
