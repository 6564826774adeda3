import Pourpoint.Decision
import Pourpoint.GeometryValidity.Cycles

/-!
# Valid multi-polygons

What `validate_multi_polygon` means without the trees of envelopes: a condition on every ring, on every
two segments of a polygon, on every two of its holes, on the graph between its rings and the points where
they meet, and on every two polygons (`ValidMultiPolygon`). A tree finds what meets an envelope, and what
does not meet it has no part in a condition (`GeoCrates.Complete`), so the loops over candidates decide
the conditions on all pairs.
-/

namespace Pourpoint.GeometryValidity

open Fallible Lattice Library

/-! ## Finite coordinates -/

/-- The closed rectangles meet. -/
def Envelope.intersects (a b : Envelope) : Bool :=
  a.lower.x.le b.upper.x && b.lower.x.le a.upper.x && a.lower.y.le b.upper.y && b.lower.y.le a.upper.y

def FiniteCoord (c : F64Coord) : Prop := c.x.isFinite = true ∧ c.y.isFinite = true

def FiniteRing (ring : List F64Coord) : Prop := ∀ c ∈ ring, FiniteCoord c

def FiniteLine (line : F64Line) : Prop := FiniteCoord line.start ∧ FiniteCoord line.finish

def FiniteEnvelope (e : Envelope) : Prop := FiniteCoord e.lower ∧ FiniteCoord e.upper

/-- Every coordinate of every ring is finite. -/
def FinitePolygon (part : F64Polygon) : Prop := ∀ ring ∈ part.exterior :: part.interiors, FiniteRing ring

theorem isFinite_min {a b : F64} (ha : a.isFinite = true) (hb : b.isFinite = true) :
    (a.min b).isFinite = true := by
  unfold F64.min
  split_ifs <;> assumption

theorem isFinite_max {a b : F64} (ha : a.isFinite = true) (hb : b.isFinite = true) :
    (a.max b).isFinite = true := by
  unfold F64.max
  split_ifs <;> assumption

theorem dedupAfter_subset (last : F64Coord) (ring : List F64Coord) : dedupAfter last ring ⊆ ring := by
  induction ring generalizing last with
  | nil => exact List.Subset.refl _
  | cons c ring ih =>
    rw [dedupAfter]
    split_ifs
    · exact List.subset_cons_of_subset c (ih last)
    · exact List.cons_subset_cons c (ih c)

theorem dedupCoords_subset (ring : List F64Coord) : dedupCoords ring ⊆ ring := by
  cases ring with
  | nil => exact List.Subset.refl _
  | cons c ring => exact List.cons_subset_cons c (dedupAfter_subset c ring)

theorem FiniteRing.dedup {ring : List F64Coord} (h : FiniteRing ring) : FiniteRing (dedupCoords ring) :=
  fun c hc => h c (dedupCoords_subset ring hc)

theorem FiniteRing.close {ring : List F64Coord} (h : FiniteRing ring) : FiniteRing (closeRing ring) := by
  unfold closeRing
  cases hhead : ring.head? with
  | none => exact h
  | some first =>
    cases hlast : ring.getLast? with
    | none => exact h
    | some last =>
      dsimp only
      split_ifs
      · exact h
      · intro c hc
        rcases List.mem_append.1 hc with hc | hc
        · exact h c hc
        · rw [List.mem_singleton.1 hc]
          exact h first (List.mem_of_mem_head? hhead)

theorem FiniteLine.envelope {line : F64Line} (h : FiniteLine line) : FiniteEnvelope (envelope line) :=
  ⟨⟨isFinite_min h.1.1 h.2.1, isFinite_min h.1.2 h.2.2⟩,
    isFinite_max h.1.1 h.2.1, isFinite_max h.1.2 h.2.2⟩

/-! ## The crates -/

/-- The rectangle of a polygon as an envelope. -/
def rectEnvelope (rect : F64Rect) : Envelope := ⟨rect.min, rect.max⟩

/-- On finite coordinates a tree finds what meets an envelope, and geometries whose envelopes are apart
have no point in common. A polygon with an exterior has a rectangle, and nothing lies in an empty one. -/
structure GeoCrates.Complete (geo : GeoCrates) : Prop extends geo.Lawful where
  mem_iter : ∀ {items item}, item ∈ items → item ∈ geo.iter items
  mem_locate : ∀ {items envelope item}, (∀ other ∈ items, FiniteEnvelope other.envelope) →
    FiniteEnvelope envelope → item ∈ items → item.envelope.intersects envelope = true →
    item ∈ geo.locateInEnvelopeIntersecting items envelope
  intersects_of_lineIntersection : ∀ {first second hit}, FiniteLine first → FiniteLine second →
    geo.lineIntersection first second = some hit →
    (envelope second).intersects (envelope first) = true
  isSome_boundingRect : ∀ {part}, FinitePolygon part → part.exterior ≠ [] →
    (geo.boundingRect part).isSome
  finite_boundingRect : ∀ {part rect}, FinitePolygon part → geo.boundingRect part = some rect →
    FiniteEnvelope (rectEnvelope rect)
  relate_empty : ∀ {first second}, isEmptyPart first = true ∨ isEmptyPart second = true →
    ∀ position, position ≠ .outside → (geo.relate first second).get position position = .empty
  relate_apart : ∀ {first second firstRect secondRect}, FinitePolygon first → FinitePolygon second →
    geo.boundingRect first = some firstRect → geo.boundingRect second = some secondRect →
    (rectEnvelope secondRect).intersects (rectEnvelope firstRect) = false →
    ∀ position, position ≠ .outside → (geo.relate first second).get position position = .empty

/-! ## Rings -/

/-- A boundary as it is in the list of rings. -/
def normalizedRing (boundary : List F64Coord × ℕ) : F64Polygon :=
  if 0 < boundary.2 ∧ boundary.1 = [] then ⟨[], []⟩ else .new (dedupCoords boundary.1) []

/-- The segments of a boundary. -/
def boundarySegments (boundary : List F64Coord × ℕ) : List Segment :=
  if 0 < boundary.2 ∧ boundary.1 = [] then []
  else (segments (dedupCoords boundary.1)).zipIdx.map fun line =>
    ⟨⟨line.1.1, line.1.2⟩, boundary.2, line.2⟩

/-- An empty hole, or a closed ring of four coordinates where consecutive ones differ. -/
def IsSurfaceBoundary (boundary : List F64Coord × ℕ) : Prop :=
  (0 < boundary.2 ∧ boundary.1 = []) ∨
    4 ≤ (dedupCoords boundary.1).length ∧ firstEqLast (dedupCoords boundary.1) = true

/-- The rings that are tested. -/
def polygonRings (part : F64Polygon) : List F64Polygon := (ringsOf part).map normalizedRing

def polygonSegments (part : F64Polygon) : List Segment := (ringsOf part).flatMap boundarySegments

theorem decides_collectRing (polygon : ℕ) (state : List F64Polygon × List Segment)
    (boundary : List F64Coord × ℕ) :
    Decides (collectRing polygon state boundary) (IsSurfaceBoundary boundary) fun state' =>
      state' = (state.1 ++ [normalizedRing boundary], state.2 ++ boundarySegments boundary) := by
  unfold collectRing IsSurfaceBoundary normalizedRing boundarySegments
  by_cases hempty : 0 < boundary.2 ∧ boundary.1 = []
  · simp only [if_pos hempty, List.append_nil]
    exact Decides.of_iff (decides_pure rfl) (iff_of_true trivial (Or.inl hempty))
  · simp only [if_neg hempty]
    refine Decides.of_iff (decides_failIf_bind fun _ => decides_pure rfl) ?_
    simp [hempty]

theorem decides_collectRings (polygon : ℕ) (part : F64Polygon) :
    Decides (collectRings polygon part) (∀ boundary ∈ ringsOf part, IsSurfaceBoundary boundary)
      fun collected => collected = (polygonRings part, polygonSegments part) := by
  refine decides_foldlM
    (fun before state => state = (before.map normalizedRing, before.flatMap boundarySegments)) rfl ?_
  rintro before state boundary - rfl
  refine (decides_collectRing polygon _ boundary).mono ?_
  rintro state' rfl
  simp

theorem finiteRing_of_mem_ringsOf {part : F64Polygon} (h : FinitePolygon part)
    {boundary : List F64Coord × ℕ} (hmem : boundary ∈ ringsOf part) : FiniteRing boundary.1 :=
  h _ (List.fst_mem_of_mem_zipIdx hmem)

theorem finiteLine_of_mem_polygonSegments {part : F64Polygon} (h : FinitePolygon part) {seg : Segment}
    (hseg : seg ∈ polygonSegments part) : FiniteLine seg.line := by
  obtain ⟨boundary, hboundary, hseg⟩ := List.mem_flatMap.1 hseg
  unfold boundarySegments at hseg
  split_ifs at hseg
  · exact absurd hseg List.not_mem_nil
  · obtain ⟨line, hline, rfl⟩ := List.mem_map.1 hseg
    have hring := (finiteRing_of_mem_ringsOf h hboundary).dedup
    have hline := List.fst_mem_of_mem_zipIdx hline
    exact ⟨hring _ (left_mem_of_mem_segments hline), hring _ (right_mem_of_mem_segments hline)⟩

theorem finitePolygon_normalizedRing {part : F64Polygon} (h : FinitePolygon part)
    {boundary : List F64Coord × ℕ} (hmem : boundary ∈ ringsOf part) :
    FinitePolygon (normalizedRing boundary) := by
  unfold normalizedRing
  split_ifs
  · simp [FinitePolygon, FiniteRing]
  · have hring := (finiteRing_of_mem_ringsOf h hmem).dedup.close
    simpa [FinitePolygon, F64Polygon.new] using hring

/-! ## Contacts -/

/-- The segments follow each other in a ring of `count` segments. -/
def FollowsIn (count : ℕ) (first second : Segment) : Prop :=
  second.index = first.index + 1 ∨ first.index = 0 ∧ second.index = count - 1

instance (count : ℕ) (first second : Segment) : Decidable (FollowsIn count first second) :=
  inferInstanceAs (Decidable (_ ∨ _))

/-- Segments of one ring meet where one follows the other, and segments of two rings in single points
that end one of them. -/
def MayMeet (geo : GeoCrates) (rings : List F64Polygon) (first second : Segment) : Prop :=
  ∀ hit, geo.lineIntersection first.line second.line = some hit →
    if first.ring = second.ring then
      isVertex hit = true ∧ ∃ ring, rings[first.ring]? = some ring ∧
        FollowsIn (ring.exterior.length - 1) first second
    else ∃ point, hit = .singlePoint point false

/-- The ring is one of two that meet in the point of a key. -/
def Touches (geo : GeoCrates) (first second : Segment) (ring : ℕ) (key : ℕ ×ₗ ℕ) : Prop :=
  first.ring ≠ second.ring ∧ ∃ point,
    geo.lineIntersection first.line second.line = some (.singlePoint point false) ∧
    key = toLex (contactKey point.x, contactKey point.y) ∧ (ring = first.ring ∨ ring = second.ring)

/-- The ring is listed at the key. -/
def Incident (contacts : Contacts) (ring : ℕ) (key : ℕ ×ₗ ℕ) : Prop :=
  ∃ incident, (key, incident) ∈ contacts.entries ∧ ring ∈ incident.keys

theorem incident_addContact {contacts : Contacts} {point : F64Coord} {first second : Segment} {ring : ℕ}
    {key : ℕ ×ₗ ℕ} : Incident (addContact contacts point first second) ring key ↔
      Incident contacts ring key ∨
        key = toLex (contactKey point.x, contactKey point.y) ∧
          (ring = first.ring ∨ ring = second.ring) := by
  have hold : ring ∈ ((contacts.get? (toLex (contactKey point.x, contactKey point.y))).getD
      SortedMap.empty).keys ↔
        Incident contacts ring (toLex (contactKey point.x, contactKey point.y)) := by
    unfold Incident
    cases hget : contacts.get? (toLex (contactKey point.x, contactKey point.y)) with
    | none =>
      refine iff_of_false List.not_mem_nil ?_
      rintro ⟨incident, hmem, -⟩
      rw [← SortedMap.get?_eq_some_iff, hget] at hmem
      cases hmem
    | some incident =>
      rw [SortedMap.get?_eq_some_iff] at hget
      refine ⟨fun h => ⟨incident, hget, h⟩, ?_⟩
      rintro ⟨other, hmem, hring⟩
      rwa [Option.getD_some, SortedMap.eq_of_mem hget hmem]
  by_cases hkey : key = toLex (contactKey point.x, contactKey point.y)
  · subst hkey
    rw [← hold, Incident]
    simp only [addContact, SortedMap.mem_insert_iff, Prod.mk.injEq, true_and, ne_eq,
      not_true_eq_false, false_and, or_false, exists_eq_left, SortedMap.mem_keys_insert]
    tauto
  · simp [Incident, addContact, SortedMap.mem_insert_iff, hkey]

end Pourpoint.GeometryValidity
