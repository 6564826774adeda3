import Pourpoint.GeometryValidity.Valid

/-!
# The loops over candidates decide the conditions on pairs

Each loop of `validate_polygon` and `validate_multi_polygon` goes through the pairs that a tree finds.
`decides_collectContacts` and `decides_forM_componentPairs` say that it decides its condition on all pairs,
and `validateMultiPolygon_iff` puts the loops together.
-/

namespace Pourpoint.GeometryValidity

open Fallible Lattice Library

section

variable {geo : GeoCrates} {rings : List F64Polygon} {segs : List Segment}

/-! ## Contacts -/

theorem adjacent_eq_ok {count : ℕ} (h : 1 ≤ count) (first second : Segment) :
    adjacent first second count = .ok (decide (FollowsIn count first second)) := by
  unfold adjacent FollowsIn
  by_cases hnext : second.index = first.index + 1
  · simp [hnext]
  · rw [if_neg hnext, subUnsigned_eq_ok h]
    by_cases hzero : first.index = 0
    · rw [if_pos hzero]
      exact congrArg _ (decide_eq_decide.2 (by tauto))
    · simp [hnext, hzero]

/-- The turn for a segment and a candidate. -/
theorem decides_collectContact (hsegs : RingsOfSegments (rings, segs)) (polygon : ℕ)
    {first second : Segment} (hfirst : first ∈ segs) {candidate : EnvelopeItem}
    (hsecond : segs[candidate.index]? = some second) (contacts : Contacts) :
    Decides (collectContact geo polygon rings segs first contacts candidate)
      (MayMeet geo rings first second) fun contacts' => ∀ ring key,
        Incident contacts' ring key ↔ Incident contacts ring key ∨ Touches geo first second ring key := by
  obtain ⟨ring, hring, hlength⟩ := hsegs first hfirst
  refine decides_lift_bind (readIndex_of_getElem? hsecond) ?_
  unfold MayMeet Touches
  cases hmeet : geo.lineIntersection first.line second.line with
  | none =>
    refine Decides.of_iff (decides_pure ?_) (iff_of_true trivial (by simp))
    simp
  | some hit =>
    by_cases hsame : first.ring = second.ring
    · have hnext := adjacent_eq_ok (by omega : 1 ≤ ring.exterior.length - 1) first second
      simp only [if_pos hsame]
      refine Decides.of_iff (decides_lift_bind (readIndex_of_getElem? hring)
        (decides_lift_bind (subUnsigned_eq_ok (by omega)) (decides_lift_bind hnext
          (decides_failIf_bind fun _ => decides_pure ?_)))) ?_
      · simp [hsame]
      · simp only [hring, Option.some.injEq]
        simp
        tauto
    · simp only [if_neg hsame]
      cases hit with
      | collinear line =>
        exact Decides.of_iff decides_fail (by simp)
      | singlePoint point isProper =>
        cases isProper with
        | true => exact Decides.of_iff decides_fail (by simp)
        | false =>
          refine Decides.of_iff (decides_pure ?_) (by simp)
          intro ring key
          rw [incident_addContact]
          simp [hsame]

/-- The candidates of a segment at a position. -/
def laterCandidates (geo : GeoCrates) (segs : List Segment) (first : Segment × ℕ) : List EnvelopeItem :=
  (geo.locateInEnvelopeIntersecting (segmentItems segs) (envelope first.1.line)).filter
    fun candidate => first.2 < candidate.index

/-- The pairs of rings and keys that the candidates of some segments give. -/
def CandidateTouches (geo : GeoCrates) (segs : List Segment) (visited : List (Segment × ℕ)) (ring : ℕ)
    (key : ℕ ×ₗ ℕ) : Prop :=
  ∃ first ∈ visited, ∃ candidate ∈ laterCandidates geo segs first, ∃ second,
    segs[candidate.index]? = some second ∧ Touches geo first.1 second ring key

theorem getElem?_of_mem_segmentItems {candidate : EnvelopeItem} (h : candidate ∈ segmentItems segs) :
    ∃ second, segs[candidate.index]? = some second ∧ candidate.envelope = envelope second.line := by
  obtain ⟨⟨second, index⟩, hmem, rfl⟩ := List.mem_map.1 h
  exact ⟨second, by simpa [List.mem_zipIdx_iff_getElem?] using hmem, rfl⟩

/-- The loop over the candidates of a segment. -/
theorem decides_candidates (hgeo : geo.Lawful) (hsegs : RingsOfSegments (rings, segs)) (polygon : ℕ)
    {first : Segment × ℕ} (hfirst : first.1 ∈ segs) (contacts : Contacts) :
    Decides ((laterCandidates geo segs first).foldlM (collectContact geo polygon rings segs first.1)
        contacts)
      (∀ candidate ∈ laterCandidates geo segs first, ∀ second, segs[candidate.index]? = some second →
        MayMeet geo rings first.1 second)
      fun contacts' => ∀ ring key, Incident contacts' ring key ↔
        Incident contacts ring key ∨ ∃ candidate ∈ laterCandidates geo segs first, ∃ second,
          segs[candidate.index]? = some second ∧ Touches geo first.1 second ring key := by
  refine decides_foldlM (fun (before : List EnvelopeItem) contacts' => ∀ ring key,
    Incident contacts' ring key ↔ Incident contacts ring key ∨ ∃ candidate ∈ before, ∃ second,
      segs[candidate.index]? = some second ∧ Touches geo first.1 second ring key) (by simp) ?_
  intro before contacts' candidate hcandidate hbefore
  obtain ⟨second, hsecond, -⟩ := getElem?_of_mem_segmentItems
    (hgeo.mem_of_mem_locate (List.mem_filter.1 hcandidate).1)
  refine ((decides_collectContact hsegs polygon hfirst hsecond contacts').of_iff ?_).mono ?_
  · simp [hsecond]
  · intro contacts'' hincident ring key
    rw [hincident, hbefore]
    simp only [List.mem_append, List.mem_singleton, or_and_right, exists_or, exists_eq_left, hsecond,
      Option.some.injEq, exists_eq_left', or_assoc]

theorem decides_collectContacts_candidates (hgeo : geo.Lawful) (hsegs : RingsOfSegments (rings, segs))
    (polygon : ℕ) : Decides (collectContacts geo polygon rings segs)
      (∀ first ∈ segs.zipIdx, ∀ candidate ∈ laterCandidates geo segs first, ∀ second,
        segs[candidate.index]? = some second → MayMeet geo rings first.1 second)
      fun contacts => ∀ ring key, Incident contacts ring key ↔
        CandidateTouches geo segs segs.zipIdx ring key := by
  refine decides_foldlM (fun before contacts => ∀ ring key,
    Incident contacts ring key ↔ CandidateTouches geo segs before ring key) ?_ ?_
  · intro ring key
    refine iff_of_false ?_ (by simp [CandidateTouches])
    rintro ⟨incident, hmem, -⟩
    exact absurd hmem List.not_mem_nil
  · intro before contacts first hfirst hbefore
    refine (decides_candidates hgeo hsegs polygon (List.fst_mem_of_mem_zipIdx hfirst) contacts).mono ?_
    intro contacts' hincident ring key
    rw [hincident, hbefore]
    simp only [CandidateTouches, List.mem_append, List.mem_singleton, or_and_right, exists_or,
      exists_eq_left]

/-- The pairs of rings and keys that all segments give. -/
def touchIncidences (geo : GeoCrates) (segs : List Segment) : Set (ℕ × (ℕ ×ₗ ℕ)) :=
  {e | ∃ (i j : ℕ) (first second : Segment), i < j ∧ segs[i]? = some first ∧ segs[j]? = some second ∧
    Touches geo first second e.1 e.2}

/-- A later segment that a segment meets is one of its candidates. -/
theorem exists_candidate (hgeo : geo.Complete)
    (hfinite : ∀ seg ∈ segs, FiniteLine seg.line) {i j : ℕ} {first second : Segment}
    {hit : LineIntersection} (hij : i < j) (hfirst : segs[i]? = some first)
    (hsecond : segs[j]? = some second) (hhit : geo.lineIntersection first.line second.line = some hit) :
    ∃ candidate ∈ laterCandidates geo segs (first, i), candidate.index = j := by
  have hfiniteFirst := hfinite first (List.mem_of_getElem? hfirst)
  have hfiniteSecond := hfinite second (List.mem_of_getElem? hsecond)
  refine ⟨⟨envelope second.line, j⟩, List.mem_filter.2 ⟨hgeo.mem_locate ?_ hfiniteFirst.envelope ?_ ?_,
    decide_eq_true hij⟩, rfl⟩
  · intro other hother
    obtain ⟨seg, hseg, henvelope⟩ := getElem?_of_mem_segmentItems hother
    rw [henvelope]
    exact (hfinite seg (List.mem_of_getElem? hseg)).envelope
  · refine List.mem_map.2 ⟨(second, j), ?_, rfl⟩
    simpa [List.mem_zipIdx_iff_getElem?] using hsecond
  · exact hgeo.intersects_of_lineIntersection hfiniteFirst hfiniteSecond hhit

/-- **The contacts of all pairs.** The loops over the tree of segments accept exactly when every two
segments may meet, and then the contacts are those of all pairs. -/
theorem decides_collectContacts (hgeo : geo.Complete) (hsegs : RingsOfSegments (rings, segs))
    (hfinite : ∀ seg ∈ segs, FiniteLine seg.line) (polygon : ℕ) :
    Decides (collectContacts geo polygon rings segs) (segs.Pairwise (MayMeet geo rings))
      fun contacts => ∀ ring key, Incident contacts ring key ↔
        (ring, key) ∈ touchIncidences geo segs := by
  refine ((decides_collectContacts_candidates hgeo.toLawful hsegs polygon).of_iff ?_).mono ?_
  · rw [List.pairwise_iff_getElem]
    constructor
    · intro h i j hi hj hij hit hhit
      have hfirst := List.getElem?_eq_getElem hi
      have hsecond := List.getElem?_eq_getElem hj
      obtain ⟨candidate, hcandidate, rfl⟩ := exists_candidate hgeo hfinite hij hfirst hsecond hhit
      exact h (segs[i], i) (by simp [List.mem_zipIdx_iff_getElem?]) candidate hcandidate _ hsecond
        hit hhit
    · intro h first hfirst candidate hcandidate second hsecond
      obtain ⟨first, i⟩ := first
      have hfirst : segs[i]? = some first := by simpa [List.mem_zipIdx_iff_getElem?] using hfirst
      have hij := of_decide_eq_true (List.mem_filter.1 hcandidate).2
      obtain ⟨hi, rfl⟩ := List.getElem?_eq_some_iff.1 hfirst
      obtain ⟨hj, rfl⟩ := List.getElem?_eq_some_iff.1 hsecond
      exact h i _ hi hj hij
  · intro contacts hincident ring key
    rw [hincident]
    constructor
    · rintro ⟨⟨first, i⟩, hfirst, candidate, hcandidate, second, hsecond, htouches⟩
      exact ⟨i, candidate.index, first, second, of_decide_eq_true (List.mem_filter.1 hcandidate).2,
        by simpa [List.mem_zipIdx_iff_getElem?] using hfirst, hsecond, htouches⟩
    · rintro ⟨i, j, first, second, hij, hfirst, hsecond, hrings, point, hhit, hkey⟩
      obtain ⟨candidate, hcandidate, rfl⟩ := exists_candidate hgeo hfinite hij hfirst hsecond hhit
      exact ⟨(first, i), by simpa [List.mem_zipIdx_iff_getElem?] using hfirst, candidate, hcandidate,
        second, hsecond, hrings, point, hhit, hkey⟩

/-! ## Components -/

theorem getElem?_of_mem_componentItems {polygons : List F64Polygon} {item : EnvelopeItem}
    (h : item ∈ componentItems geo polygons) : ∃ part rect, polygons[item.index]? = some part ∧
      geo.boundingRect part = some rect ∧ item.envelope = rectEnvelope rect := by
  obtain ⟨⟨part, index⟩, hmem, hitem⟩ := List.mem_filterMap.1 h
  obtain ⟨rect, hrect, rfl⟩ := Option.map_eq_some_iff.1 hitem
  exact ⟨part, rect, by simpa [List.mem_zipIdx_iff_getElem?] using hmem, hrect, rfl⟩

theorem mem_componentItems {polygons : List F64Polygon} {i : ℕ} {part : F64Polygon} {rect : F64Rect}
    (hpart : polygons[i]? = some part) (hrect : geo.boundingRect part = some rect) :
    ⟨rectEnvelope rect, i⟩ ∈ componentItems geo polygons := by
  refine List.mem_filterMap.2 ⟨(part, i), by simpa [List.mem_zipIdx_iff_getElem?] using hpart, ?_⟩
  rw [hrect]
  rfl

/-- The pairs that the loops visit, and those that they do not: these are empty or apart. -/
theorem pair_visited_or_apart (hgeo : geo.Complete) {polygons : List F64Polygon}
    (hfinite : ∀ part ∈ polygons, FinitePolygon part)
    (hempty : ∀ part ∈ polygons, part.exterior = [] → isEmptyPart part = true)
    {visits : EnvelopeItem → Bool} {i j : ℕ} (hvisits : ∀ envelope, visits ⟨envelope, i⟩ = true)
    (hij : i < j) {first second : F64Polygon} (hfirst : polygons[i]? = some first)
    (hsecond : polygons[j]? = some second) :
    (∃ pair ∈ componentPairs geo polygons visits, pair.1.index = i ∧ pair.2.index = j) ∨
      ∀ position, position ≠ .outside → (geo.relate first second).get position position = .empty := by
  have hfiniteFirst := hfinite first (List.mem_of_getElem? hfirst)
  have hfiniteSecond := hfinite second (List.mem_of_getElem? hsecond)
  by_cases hfirstNil : first.exterior = []
  · exact Or.inr (hgeo.relate_empty (Or.inl (hempty first (List.mem_of_getElem? hfirst) hfirstNil)))
  by_cases hsecondNil : second.exterior = []
  · exact Or.inr (hgeo.relate_empty (Or.inr (hempty second (List.mem_of_getElem? hsecond) hsecondNil)))
  obtain ⟨firstRect, hfirstRect⟩ :=
    Option.isSome_iff_exists.1 (hgeo.isSome_boundingRect hfiniteFirst hfirstNil)
  obtain ⟨secondRect, hsecondRect⟩ :=
    Option.isSome_iff_exists.1 (hgeo.isSome_boundingRect hfiniteSecond hsecondNil)
  cases hmeets : (rectEnvelope secondRect).intersects (rectEnvelope firstRect) with
  | false => exact Or.inr (hgeo.relate_apart hfiniteFirst hfiniteSecond hfirstRect hsecondRect hmeets)
  | true =>
    have hfiniteItems : ∀ other ∈ componentItems geo polygons, FiniteEnvelope other.envelope := by
      intro other hother
      obtain ⟨part, rect, hpart, hrect, henvelope⟩ := getElem?_of_mem_componentItems hother
      rw [henvelope]
      exact hgeo.finite_boundingRect (hfinite part (List.mem_of_getElem? hpart)) hrect
    have hfirstItem := mem_componentItems hfirst hfirstRect
    refine Or.inl ⟨(⟨rectEnvelope firstRect, i⟩, ⟨rectEnvelope secondRect, j⟩), ?_, rfl, rfl⟩
    refine List.mem_flatMap.2 ⟨_, List.mem_filter.2 ⟨hgeo.mem_iter hfirstItem, hvisits _⟩, ?_⟩
    refine List.mem_map.2 ⟨_, List.mem_filter.2 ⟨?_, decide_eq_true hij⟩, rfl⟩
    exact hgeo.mem_locate hfiniteItems (hfiniteItems _ hfirstItem)
      (mem_componentItems hsecond hsecondRect) hmeets

theorem of_mem_componentPairs (hgeo : geo.Lawful) {polygons : List F64Polygon}
    {visits : EnvelopeItem → Bool} {pair : EnvelopeItem × EnvelopeItem}
    (h : pair ∈ componentPairs geo polygons visits) : ∃ first second,
      polygons[pair.1.index]? = some first ∧ polygons[pair.2.index]? = some second ∧
        pair.1.index < pair.2.index ∧ visits pair.1 = true := by
  obtain ⟨hfirst, hsecond⟩ := lt_of_mem_componentPairs hgeo h
  obtain ⟨item, hitem, hpair⟩ := List.mem_flatMap.1 h
  obtain ⟨other, hother, rfl⟩ := List.mem_map.1 hpair
  exact ⟨_, _, List.getElem?_eq_getElem hfirst, List.getElem?_eq_getElem hsecond,
    of_decide_eq_true (List.mem_filter.1 hother).2, (List.mem_filter.1 hitem).2⟩

/-- **All pairs of components.** A loop over the pairs of a tree, from a component on, decides a condition
that holds of geometries that are apart on all pairs. -/
theorem decides_forM_componentPairs (hgeo : geo.Complete) {polygons : List F64Polygon}
    (hfinite : ∀ part ∈ polygons, FinitePolygon part)
    (hempty : ∀ part ∈ polygons, part.exterior = [] → isEmptyPart part = true)
    (start : ℕ) {visits : EnvelopeItem → Bool} (hvisits : ∀ item, visits item = true ↔ start ≤ item.index)
    {f : EnvelopeItem × EnvelopeItem → Fallible GeometryValidityError Unit}
    {C : F64Polygon → F64Polygon → Prop}
    (hf : ∀ pair first second, polygons[pair.1.index]? = some first →
      polygons[pair.2.index]? = some second → Decides (f pair) (C first second) fun _ => True)
    (hapart : ∀ first second,
      (∀ position, position ≠ .outside → (geo.relate first second).get position position = .empty) →
        C first second) :
    Decides ((componentPairs geo polygons visits).forM f) ((polygons.drop start).Pairwise C)
      fun _ => True := by
  refine (decides_forM (C := fun pair => ∀ first second, polygons[pair.1.index]? = some first →
    polygons[pair.2.index]? = some second → C first second) ?_).of_iff ?_
  · intro pair hpair
    obtain ⟨first, second, hfirst, hsecond, -⟩ := of_mem_componentPairs hgeo.toLawful hpair
    exact (hf pair first second hfirst hsecond).of_iff (by simp [hfirst, hsecond])
  · rw [List.pairwise_iff_getElem]
    constructor
    · intro h i j hi hj hij
      rw [List.length_drop] at hi hj
      rw [List.getElem_drop, List.getElem_drop]
      have hfirst : polygons[start + i]? = some polygons[start + i] := List.getElem?_eq_getElem _
      have hsecond : polygons[start + j]? = some polygons[start + j] := List.getElem?_eq_getElem _
      rcases pair_visited_or_apart hgeo hfinite hempty
        (fun envelope => (hvisits ⟨envelope, start + i⟩).2 (Nat.le_add_right start i))
        (Nat.add_lt_add_left hij start) hfirst hsecond with ⟨pair, hpair, hi', hj'⟩ | hapart'
      · exact h pair hpair _ _ (by rw [hi', hfirst]) (by rw [hj', hsecond])
      · exact hapart _ _ hapart'
    · intro h pair hpair first second hfirst hsecond
      obtain ⟨-, -, -, -, hlt, hstart⟩ := of_mem_componentPairs hgeo.toLawful hpair
      have hle := (hvisits pair.1).1 hstart
      obtain ⟨hi, rfl⟩ := List.getElem?_eq_some_iff.1 hfirst
      obtain ⟨hj, rfl⟩ := List.getElem?_eq_some_iff.1 hsecond
      have hpairwise := h (pair.1.index - start) (pair.2.index - start) (by rw [List.length_drop]; omega)
        (by rw [List.length_drop]; omega) (by omega)
      rw [List.getElem_drop, List.getElem_drop] at hpairwise
      simpa [Nat.add_sub_cancel' hle, Nat.add_sub_cancel' (hle.trans hlt.le)] using hpairwise

/-! ## Holes -/

/-- The shell covers the holes, and no two of them have an interior point in common. -/
structure HolesInside (geo : GeoCrates) (shell : F64Polygon) (holes : List F64Polygon) : Prop where
  covered : ∀ hole ∈ holes, hole.exterior ≠ [] → (geo.relate shell hole).isCovers = true
  apart : holes.Pairwise fun first second => (geo.relate first second).get .inside .inside = .empty

theorem decides_checkHoles (hgeo : geo.Complete) (polygon : ℕ) {shell : F64Polygon}
    {holes : List F64Polygon} (hfinite : ∀ ring ∈ shell :: holes, FinitePolygon ring)
    (hempty : ∀ ring ∈ shell :: holes, ring.exterior = [] → isEmptyPart ring = true) :
    Decides (checkHoles geo polygon (shell :: holes)) (HolesInside geo shell holes) fun _ => True := by
  unfold checkHoles
  refine Decides.of_iff (decides_bind
    (P := ∀ hole ∈ holes, hole.exterior ≠ [] → (geo.relate shell hole).isCovers = true)
    (Q := fun _ => True) ?_ fun _ _ _ => decides_forM_componentPairs hgeo hfinite hempty 1
      (C := fun first second => (geo.relate first second).get .inside .inside = .empty) ?_ ?_ ?_) ?_
  · refine (decides_forM (C := fun ring => ∀ hole, (shell :: holes)[ring]? = some hole →
      hole.exterior ≠ [] → (geo.relate shell hole).isCovers = true) ?_).of_iff ?_
    · intro ring hring
      obtain ⟨hlow, hhigh⟩ := List.mem_range'_1.1 hring
      have hlt : ring < (shell :: holes).length := by omega
      have hhole : (shell :: holes)[ring]? = some (shell :: holes)[ring] := List.getElem?_eq_getElem _
      refine decides_lift_bind (readIndex_of_getElem? hhole) ?_
      by_cases hnil : ((shell :: holes)[ring]).exterior = []
      · rw [if_pos hnil]
        exact Decides.of_iff (decides_pure trivial) (by simp [hhole, hnil])
      · rw [if_neg hnil]
        refine decides_lift_bind (readIndex_of_getElem? List.getElem?_cons_zero) ?_
        exact Decides.of_iff decides_failIf (by simp [hhole, hnil])
    · constructor
      · intro h hole hhole
        obtain ⟨i, hi, rfl⟩ := List.mem_iff_getElem.1 hhole
        refine h (i + 1) ?_ _ ?_
        · rw [List.mem_range'_1, List.length_cons]
          omega
        · rw [List.getElem?_cons_succ, List.getElem?_eq_getElem hi]
      · intro h ring hring hole hhole
        obtain ⟨hlow, -⟩ := List.mem_range'_1.1 hring
        obtain ⟨i, rfl⟩ := Nat.exists_eq_add_of_le' hlow
        exact h hole (List.mem_of_getElem? hhole)
  · intro item
    rw [decide_eq_true_iff]
    exact Nat.lt_iff_add_one_le
  · intro pair first second hfirst hsecond
    refine decides_lift_bind (readIndex_of_getElem? hfirst)
      (decides_lift_bind (readIndex_of_getElem? hsecond) ?_)
    exact Decides.of_iff decides_failIf not_not
  · intro first second hapart
    exact hapart .inside (by decide)
  · rw [List.drop_one, List.tail_cons]
    exact ⟨fun h => ⟨h.1, h.2⟩, fun h => ⟨h.covered, h.apart⟩⟩

end

/-! ## Polygons -/

def shellRing (part : F64Polygon) : F64Polygon := normalizedRing (part.exterior, 0)

def holeRings (part : F64Polygon) : List F64Polygon := (part.interiors.zipIdx 1).map normalizedRing

theorem isEmptyPart_normalizedRing {boundary : List F64Coord × ℕ}
    (h : (normalizedRing boundary).exterior = []) : isEmptyPart (normalizedRing boundary) = true := by
  have hinteriors : (normalizedRing boundary).interiors = [] := by
    unfold normalizedRing
    split_ifs
    · rfl
    · rfl
  simp [isEmptyPart, h, hinteriors]

/-- The rings of a polygon bound surfaces, meet in single points only, the holes are in the shell and
apart from each other, and the graph of the rings and the points where they meet has no cycle. -/
structure ValidPolygon (geo : GeoCrates) (part : F64Polygon) : Prop where
  boundaries : ∀ boundary ∈ ringsOf part, IsSurfaceBoundary boundary
  contacts : (polygonSegments part).Pairwise (MayMeet geo (polygonRings part))
  holes : HolesInside geo (shellRing part) (holeRings part)
  connected : (incidenceGraph (touchIncidences geo (polygonSegments part))).IsAcyclic

/-- The polygons have no interior point in common, and no boundary but points. -/
def PolygonsApart (geo : GeoCrates) (first second : F64Polygon) : Prop :=
  (geo.relate first second).get .inside .inside = .empty ∧
    ((geo.relate first second).get .onBoundary .onBoundary).rank ≤ Dimensions.zeroDimensional.rank

/-- What a valid multi-polygon is, with no order of checks. -/
structure ValidMultiPolygon (geo : GeoCrates) (geometry : List F64Polygon) : Prop where
  finite : ∀ part ∈ geometry, FinitePolygon part
  polygons : ∀ part ∈ geometry, isEmptyPart part = true ∨ ValidPolygon geo part
  apart : geometry.Pairwise (PolygonsApart geo)

section

variable {geo : GeoCrates}

theorem decides_validatePolygon (hgeo : geo.Complete) {part : F64Polygon} (hfinite : FinitePolygon part)
    (polygon : ℕ) : Decides (validatePolygon geo part polygon)
      (isEmptyPart part = true ∨ ValidPolygon geo part) fun _ => True := by
  unfold validatePolygon
  by_cases hempty : isEmptyPart part = true
  · rw [if_pos hempty]
    exact Decides.of_iff (decides_pure trivial) (iff_of_true trivial (Or.inl hempty))
  rw [if_neg hempty]
  have hrings : ∀ ring ∈ polygonRings part, FinitePolygon ring := by
    intro ring hring
    obtain ⟨boundary, hboundary, rfl⟩ := List.mem_map.1 hring
    exact finitePolygon_normalizedRing hfinite hboundary
  have hnil : ∀ ring ∈ polygonRings part, ring.exterior = [] → isEmptyPart ring = true := by
    intro ring hring
    obtain ⟨boundary, -, rfl⟩ := List.mem_map.1 hring
    exact isEmptyPart_normalizedRing
  refine Decides.of_iff (decides_bind
    ((decides_collectRings polygon part).and_safe (safe_collectRings polygon part))
    (R := (polygonSegments part).Pairwise (MayMeet geo (polygonRings part)) ∧
      HolesInside geo (shellRing part) (holeRings part) ∧
      (incidenceGraph (touchIncidences geo (polygonSegments part))).IsAcyclic) ?_) ?_
  · rintro collected - ⟨rfl, hsegs⟩
    refine decides_bind ((decides_collectContacts hgeo hsegs
      (fun seg => finiteLine_of_mem_polygonSegments hfinite) polygon).and_safe
        (safe_collectContacts hgeo.toLawful hsegs polygon)) ?_
    rintro contacts - ⟨hincident, hcontacts⟩
    refine decides_bind (decides_checkHoles hgeo polygon hrings hnil) fun _ _ _ => ?_
    have hgraph : contactGraph contacts =
        incidenceGraph (touchIncidences geo (polygonSegments part)) :=
      congrArg incidenceGraph (Set.ext fun e => hincident e.1 e.2)
    rw [Contacts.values_eq, ← hgraph, ← contacts.visits.incidences]
    rcases connectRings_run polygon contacts.visits.keys_nodup
      (contacts.visits.rings_lt hcontacts) with ⟨hrun, hacyclic⟩ | ⟨hrun, hcycle⟩
    · exact Or.inl ⟨hacyclic, (), hrun, trivial⟩
    · exact Or.inr ⟨hcycle, _, hrun⟩
  · constructor
    · rintro ⟨hboundaries, hcontacts, hholes, hconnected⟩
      exact Or.inr ⟨hboundaries, hcontacts, hholes, hconnected⟩
    · intro h
      have hvalid := h.resolve_left hempty
      exact ⟨hvalid.boundaries, hvalid.contacts, hvalid.holes, hvalid.connected⟩

theorem firstNonFinite_eq_none_iff {geometry : List F64Polygon} :
    firstNonFinite geometry = none ↔ ∀ part ∈ geometry, FinitePolygon part := by
  have hring : ∀ ring : List F64Coord, ring.findIdx? (fun c => !c.x.isFinite || !c.y.isFinite) = none ↔
      FiniteRing ring := by
    intro ring
    simp [List.findIdx?_eq_none_iff, FiniteRing, FiniteCoord]
  unfold firstNonFinite
  rw [List.findSome?_eq_none_iff]
  simp only [List.findSome?_eq_none_iff, Option.map_eq_none_iff, hring]
  constructor
  · intro h part hpart ring hring
    obtain ⟨i, hi⟩ := List.mem_iff_getElem?.1 hpart
    obtain ⟨j, hj⟩ := List.mem_iff_getElem?.1 hring
    exact h (part, i) (List.mk_mem_zipIdx_iff_getElem?.2 hi) (ring, j)
      (List.mk_mem_zipIdx_iff_getElem?.2 hj)
  · intro h part hpart boundary hboundary
    exact h part.1 (List.fst_mem_of_mem_zipIdx hpart) boundary.1 (List.fst_mem_of_mem_zipIdx hboundary)

theorem ValidPolygon.exterior_ne_nil {part : F64Polygon} (h : ValidPolygon geo part) :
    part.exterior ≠ [] := by
  intro hnil
  rcases h.boundaries (part.exterior, 0) (by simp [ringsOf]) with ⟨hlt, -⟩ | ⟨hlength, -⟩
  · exact absurd hlt (lt_irrefl 0)
  · rw [hnil] at hlength
    exact absurd hlength (by decide)

theorem decides_validateMultiPolygon (hgeo : geo.Complete) (geometry : List F64Polygon) :
    Decides (validateMultiPolygon geo geometry) (ValidMultiPolygon geo geometry) fun _ => True := by
  unfold validateMultiPolygon
  cases hnonFinite : firstNonFinite geometry with
  | some position =>
    refine Decides.of_iff decides_fail (iff_of_false id fun h => ?_)
    rw [firstNonFinite_eq_none_iff.2 h.finite] at hnonFinite
    cases hnonFinite
  | none =>
    have hfinite := firstNonFinite_eq_none_iff.1 hnonFinite
    have hpolygons : Decides (geometry.zipIdx.forM fun part => validatePolygon geo part.1 part.2)
        (∀ part ∈ geometry.zipIdx, isEmptyPart part.1 = true ∨ ValidPolygon geo part.1)
        fun _ => True :=
      decides_forM fun part hpart =>
        decides_validatePolygon hgeo (hfinite part.1 (List.fst_mem_of_mem_zipIdx hpart)) part.2
    have hiff : (∀ part ∈ geometry.zipIdx, isEmptyPart part.1 = true ∨ ValidPolygon geo part.1) ↔
        ∀ part ∈ geometry, isEmptyPart part = true ∨ ValidPolygon geo part := by
      conv_rhs => rw [← List.zipIdx_map_fst 0 geometry]
      rw [List.forall_mem_map]
    refine Decides.of_iff (decides_bind (hpolygons.of_iff hiff) fun _ hvalid _ =>
      decides_forM_componentPairs hgeo hfinite (fun part hpart hnil => ?_) 0
        (C := PolygonsApart geo) (fun item => ?_) ?_ ?_) ?_
    · exact (hvalid part hpart).resolve_right fun h => h.exterior_ne_nil hnil
    · exact iff_of_true rfl (Nat.zero_le _)
    · intro pair first second hfirst hsecond
      refine decides_lift_bind (readIndex_of_getElem? hfirst)
        (decides_lift_bind (readIndex_of_getElem? hsecond) ?_)
      refine Decides.of_iff decides_failIf ?_
      rw [PolygonsApart, not_or, not_not, not_lt]
    · intro first second hapart
      refine ⟨hapart .inside (by decide), ?_⟩
      rw [hapart .onBoundary (by decide)]
      decide
    · exact ⟨fun h => ⟨hfinite, h.1, h.2⟩, fun h => ⟨h.polygons, h.apart⟩⟩

/-- **Validity of a multi-polygon.** With trees that find what meets an envelope and predicates that see
nothing between geometries whose envelopes are apart, `validate_multi_polygon` always returns, and it
accepts exactly the valid multi-polygons: the conditions on rings, on all pairs of segments, of holes and
of polygons, and on the graph of rings and contact points. -/
theorem validateMultiPolygon_iff (hgeo : geo.Complete) (geometry : List F64Polygon) :
    (∃ result, (validateMultiPolygon geo geometry).run = .ok result) ∧
      ((validateMultiPolygon geo geometry).run = .ok (.ok ()) ↔ ValidMultiPolygon geo geometry) := by
  have hdecides := decides_validateMultiPolygon hgeo geometry
  obtain ⟨result, hrun, -⟩ := hdecides.safe
  refine ⟨⟨result, hrun⟩, ?_⟩
  rw [← hdecides.exists_run_iff]
  refine ⟨fun h => ⟨(), h⟩, ?_⟩
  rintro ⟨_, h⟩
  exact h

end

/-! ## Simple rings -/

/-- A finite closed ring whose segments meet only where one follows the other, in an end. -/
structure SimpleRing (geo : GeoCrates) (ring : List F64Coord) : Prop where
  finite : FiniteRing ring
  length : 4 ≤ (dedupCoords ring).length
  closed : firstEqLast (dedupCoords ring) = true
  meets : (boundarySegments (ring, 0)).Pairwise fun first second =>
    ∀ hit, geo.lineIntersection first.line second.line = some hit →
      isVertex hit = true ∧ FollowsIn ((closeRing (dedupCoords ring)).length - 1) first second

theorem boundarySegments_eq {ring : List F64Coord} (hring : ring ≠ []) (index : ℕ) :
    boundarySegments (ring, index) =
      (boundarySegments (ring, 0)).map fun seg => { seg with ring := index } := by
  unfold boundarySegments
  rw [if_neg fun h => hring h.2, if_neg fun h => hring h.2, List.map_map]
  rfl

/-- **The rings of a valid multi-polygon** are empty or simple. -/
theorem ValidMultiPolygon.simpleRing {geo : GeoCrates} {geometry : List F64Polygon}
    (h : ValidMultiPolygon geo geometry) {part : F64Polygon} (hpart : part ∈ geometry)
    {ring : List F64Coord} (hring : ring ∈ part.exterior :: part.interiors) :
    ring = [] ∨ SimpleRing geo ring := by
  rcases h.polygons part hpart with hempty | hvalid
  · have hrings : part.exterior = [] ∧ ∀ hole ∈ part.interiors, hole = [] := by
      simpa [isEmptyPart] using hempty
    rcases List.mem_cons.1 hring with rfl | hring
    · exact Or.inl hrings.1
    · exact Or.inl (hrings.2 ring hring)
  by_cases hnil : ring = []
  · exact Or.inl hnil
  obtain ⟨index, hindex⟩ := List.mem_iff_getElem?.1 hring
  have hboundary : (ring, index) ∈ ringsOf part := List.mk_mem_zipIdx_iff_getElem?.2 hindex
  obtain ⟨hlength, hclosed⟩ := (hvalid.boundaries _ hboundary).resolve_left fun h => hnil h.2
  have hrings : (polygonRings part)[index]? = some (.new (dedupCoords ring) []) := by
    rw [polygonRings, ringsOf, List.getElem?_map, List.getElem?_zipIdx, hindex]
    simp [normalizedRing, hnil]
  refine Or.inr ⟨h.finite part hpart ring hring, hlength, hclosed, ?_⟩
  have hmeets := (List.pairwise_flatMap.1 hvalid.contacts).1 _ hboundary
  rw [boundarySegments_eq hnil, List.pairwise_map] at hmeets
  refine hmeets.imp ?_
  intro first second hmay hit hhit
  have hsame := hmay hit hhit
  rw [if_pos rfl] at hsame
  obtain ⟨hvertex, found, hfound, hfollows⟩ := hsame
  rw [hrings] at hfound
  cases hfound
  exact ⟨hvertex, hfollows⟩

/-! ### Squares with a hole -/

/-- Predicates of `touchingCrates` for which what is apart has no point in common. -/
def touchingPlane : GeoCrates :=
  { touchingCrates with
    relate := fun first second =>
      let meet : Bool := match boundsOf first, boundsOf second with
        | some firstRect, some secondRect =>
          (rectEnvelope secondRect).intersects (rectEnvelope firstRect)
        | _, _ => false
      ⟨fun position _ => if position ≠ .outside ∧ meet = false then .empty else .twoDimensional, true⟩ }

theorem min_finite (p q : ℚ) : (F64.finite p).min (.finite q) = .finite (min p q) := by
  simp only [F64.min, F64.isNan, Bool.false_eq_true, if_false, F64.lt_finite, decide_eq_true_iff]
  split_ifs with h
  · rw [min_eq_right h.le]
  · rw [min_eq_left (not_lt.1 h)]

theorem max_finite (p q : ℚ) : (F64.finite p).max (.finite q) = .finite (max p q) := by
  simp only [F64.max, F64.isNan, Bool.false_eq_true, if_false, F64.lt_finite, decide_eq_true_iff]
  split_ifs with h
  · rw [max_eq_right h.le]
  · rw [max_eq_left (not_lt.1 h)]

theorem exists_finite {x : F64} (h : x.isFinite = true) : ∃ q, x = .finite q := by
  cases x with
  | finite q => exact ⟨q, rfl⟩
  | nan => cases h
  | infinity negative => cases h

/-- The ordinates of a lower and an upper corner, in order. -/
def SortedCorners (low high : F64Coord) : Prop :=
  (∃ p q : ℚ, low.x = .finite p ∧ high.x = .finite q ∧ p ≤ q) ∧
    ∃ p q : ℚ, low.y = .finite p ∧ high.y = .finite q ∧ p ≤ q

theorem sortedCorners_foldl {low high : F64Coord} (h : SortedCorners low high) {coords : List F64Coord}
    (hcoords : FiniteRing coords) :
    SortedCorners (coords.foldl (fun low c => ⟨low.x.min c.x, low.y.min c.y⟩) low)
      (coords.foldl (fun high c => ⟨high.x.max c.x, high.y.max c.y⟩) high) := by
  induction coords generalizing low high with
  | nil => exact h
  | cons c coords ih =>
    obtain ⟨hx, hy⟩ := hcoords c List.mem_cons_self
    obtain ⟨x, hx⟩ := exists_finite hx
    obtain ⟨y, hy⟩ := exists_finite hy
    obtain ⟨⟨p, q, hp, hq, hpq⟩, p', q', hp', hq', hpq'⟩ := h
    refine ih ⟨⟨min p x, max q x, ?_, ?_, ?_⟩, min p' y, max q' y, ?_, ?_, ?_⟩
      fun other hother => hcoords other (List.mem_cons_of_mem _ hother)
    · simp only [hp, hx, min_finite]
    · simp only [hq, hx, max_finite]
    · exact (min_le_left p x).trans (hpq.trans (le_max_left q x))
    · simp only [hp', hy, min_finite]
    · simp only [hq', hy, max_finite]
    · exact (min_le_left p' y).trans (hpq'.trans (le_max_left q' y))

theorem exists_boundsOf {part : F64Polygon} (hfinite : FinitePolygon part) (hne : part.exterior ≠ []) :
    ∃ rect, boundsOf part = some rect ∧ FiniteEnvelope (rectEnvelope rect) := by
  obtain ⟨exterior, interiors⟩ := part
  cases exterior with
  | nil => exact absurd rfl hne
  | cons c coords =>
    have hring : FiniteRing (c :: coords) := hfinite _ List.mem_cons_self
    obtain ⟨hx, hy⟩ := hring c List.mem_cons_self
    obtain ⟨x, hx⟩ := exists_finite hx
    obtain ⟨y, hy⟩ := exists_finite hy
    obtain ⟨⟨p, q, hp, hq, hpq⟩, p', q', hp', hq', hpq'⟩ := sortedCorners_foldl
      ⟨⟨x, x, hx, hx, le_rfl⟩, y, y, hy, hy, le_rfl⟩
      fun other hother => hring other (List.mem_cons_of_mem _ hother)
    refine ⟨_, dif_pos ?_, ?_⟩
    · rw [hp, hq, hp', hq', F64.lt_finite, F64.lt_finite]
      exact ⟨decide_eq_false (not_lt.2 hpq), decide_eq_false (not_lt.2 hpq')⟩
    · simp only [FiniteEnvelope, FiniteCoord, rectEnvelope, hp, hq, hp', hq']
      exact ⟨⟨rfl, rfl⟩, rfl, rfl⟩

theorem intersects_of_within {a b : Envelope} {c : F64Coord}
    (ha : a.lower.x.le c.x = true ∧ c.x.le a.upper.x = true ∧ a.lower.y.le c.y = true ∧
      c.y.le a.upper.y = true)
    (hb : b.lower.x.le c.x = true ∧ c.x.le b.upper.x = true ∧ b.lower.y.le c.y = true ∧
      c.y.le b.upper.y = true) : a.intersects b = true := by
  simp only [Envelope.intersects, Bool.and_eq_true]
  exact ⟨⟨⟨F64.le_trans ha.1 hb.2.1, F64.le_trans hb.1 ha.2.1⟩, F64.le_trans ha.2.2.1 hb.2.2.2⟩,
    F64.le_trans hb.2.2.1 ha.2.2.2⟩

/-- The ends of a line are within its envelope. -/
theorem ends_within {line : F64Line} (h : FiniteLine line) {c : F64Coord}
    (hc : c = line.start ∨ c = line.finish) :
    (envelope line).lower.x.le c.x = true ∧ c.x.le (envelope line).upper.x = true ∧
      (envelope line).lower.y.le c.y = true ∧ c.y.le (envelope line).upper.y = true := by
  obtain ⟨⟨startX, startY⟩, finishX, finishY⟩ := line
  obtain ⟨⟨hstartX, hstartY⟩, hfinishX, hfinishY⟩ := h
  obtain ⟨_, rfl⟩ := exists_finite hstartX
  obtain ⟨_, rfl⟩ := exists_finite hstartY
  obtain ⟨_, rfl⟩ := exists_finite hfinishX
  obtain ⟨_, rfl⟩ := exists_finite hfinishY
  simp only [envelope, min_finite, max_finite]
  rcases hc with rfl | rfl
  · simp [F64.finite_le]
  · simp [F64.finite_le]

theorem within_of_onLine {c : F64Coord} {line : F64Line} (h : onLine c line = true) :
    (envelope line).lower.x.le c.x = true ∧ c.x.le (envelope line).upper.x = true ∧
      (envelope line).lower.y.le c.y = true ∧ c.y.le (envelope line).upper.y = true := by
  simp only [onLine, Bool.and_eq_true] at h
  obtain ⟨⟨⟨⟨-, hlowX⟩, hhighX⟩, hlowY⟩, hhighY⟩ := h
  exact ⟨hlowX, hhighX, hlowY, hhighY⟩

theorem boundsOf_empty {part : F64Polygon} (h : isEmptyPart part = true) : boundsOf part = none := by
  simp only [isEmptyPart, Bool.and_eq_true, List.isEmpty_iff] at h
  rw [boundsOf, h.1]

theorem touchingPlane_complete : touchingPlane.Complete where
  toLawful := ⟨touchingCrates_lawful.mem_of_mem_iter, touchingCrates_lawful.mem_of_mem_locate⟩
  mem_iter := id
  mem_locate _ _ hitem hmeets := List.mem_filter.2 ⟨hitem, hmeets⟩
  intersects_of_lineIntersection := by
    intro first second hit hfirst hsecond hhit
    replace hhit : touchingPoint first second = some hit := hhit
    unfold touchingPoint at hhit
    split_ifs at hhit with h₁ h₂ h₃ h₄
    · exact intersects_of_within (within_of_onLine h₁) (ends_within hfirst (Or.inl rfl))
    · exact intersects_of_within (within_of_onLine h₂) (ends_within hfirst (Or.inr rfl))
    · exact intersects_of_within (ends_within hsecond (Or.inl rfl)) (within_of_onLine h₃)
    · exact intersects_of_within (ends_within hsecond (Or.inr rfl)) (within_of_onLine h₄)
  isSome_boundingRect hfinite hne := by
    obtain ⟨rect, hrect, -⟩ := exists_boundsOf hfinite hne
    exact Option.isSome_iff_exists.2 ⟨rect, hrect⟩
  finite_boundingRect := by
    intro part rect hfinite hrect
    by_cases hne : part.exterior = []
    · rw [show touchingPlane.boundingRect part = boundsOf part from rfl, boundsOf, hne] at hrect
      cases hrect
    · obtain ⟨other, hother, hfiniteRect⟩ := exists_boundsOf hfinite hne
      obtain rfl := Option.some.inj (hother.symm.trans hrect)
      exact hfiniteRect
  relate_empty := by
    intro first second hempty position hposition
    rcases hempty with h | h
    · simp [touchingPlane, boundsOf_empty h, hposition]
    · simp [touchingPlane, boundsOf_empty h, hposition]
  relate_apart := by
    intro first second firstRect secondRect _ _ hfirst hsecond hapart position hposition
    rw [show touchingPlane.boundingRect first = boundsOf first from rfl] at hfirst
    rw [show touchingPlane.boundingRect second = boundsOf second from rfl] at hsecond
    simp [touchingPlane, hfirst, hsecond, hapart, hposition]

/-- The square with a hole that does not touch it. -/
def annulus : F64Polygon where
  exterior := doubleTouch.exterior
  interiors := [[⟨.finite 2, .finite 5⟩, ⟨.finite 5, .finite 2⟩, ⟨.finite 8, .finite 5⟩,
    ⟨.finite 5, .finite 8⟩, ⟨.finite 2, .finite 5⟩]]

/-- A triangle apart from the square. -/
def apartTriangle : F64Polygon where
  exterior := [⟨.finite 20, .finite 0⟩, ⟨.finite 30, .finite 0⟩, ⟨.finite 20, .finite 10⟩,
    ⟨.finite 20, .finite 0⟩]
  interiors := []

/-- A hole may lie in the square, and not cut it in two. -/
theorem validateMultiPolygon_iff_doubleTouch :
    ValidMultiPolygon touchingPlane [annulus, apartTriangle] ∧
      ¬ValidMultiPolygon touchingPlane [doubleTouch] := by
  rw [← (validateMultiPolygon_iff touchingPlane_complete [annulus, apartTriangle]).2,
    ← (validateMultiPolygon_iff touchingPlane_complete [doubleTouch]).2]
  exact ⟨by decide +kernel, by decide +kernel⟩

end Pourpoint.GeometryValidity
