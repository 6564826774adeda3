import Pourpoint.GeometryValidity

/-!
# Collected contacts

Every segment that `validate_polygon` collects belongs to a ring of at least four coordinates
(`safe_collectRings`), so the loops over candidates read segments and rings within range, and every contact
is a contact of rings of the polygon (`safe_collectContacts`).
-/

namespace Pourpoint.GeometryValidity

open Fallible Library

/-- The segments belong to rings of at least four coordinates. -/
def RingsOfSegments (state : List F64Polygon × List Segment) : Prop :=
  ∀ seg ∈ state.2, ∃ ring, state.1[seg.ring]? = some ring ∧ 4 ≤ ring.exterior.length

theorem length_le_closeRing (ring : List F64Coord) : ring.length ≤ (closeRing ring).length := by
  unfold closeRing
  split
  · split_ifs
    · exact le_rfl
    · rw [List.length_append]
      exact Nat.le_add_right _ _
  · exact le_rfl

/-- The step: a ring. -/
theorem safe_collectRing {state : List F64Polygon × List Segment} (h : RingsOfSegments state) (polygon : ℕ)
    (boundary : List F64Coord) :
    Safe (collectRing polygon state (boundary, state.1.length)) fun state' =>
      state'.1.length = state.1.length + 1 ∧ RingsOfSegments state' := by
  have hold : ∀ (ring : F64Polygon), ∀ seg ∈ state.2,
      ∃ other, (state.1 ++ [ring])[seg.ring]? = some other ∧ 4 ≤ other.exterior.length := by
    intro ring seg hseg
    obtain ⟨other, hother, hlength⟩ := h seg hseg
    have hlt := (List.getElem?_eq_some_iff.1 hother).1
    exact ⟨other, (List.getElem?_append_left hlt).trans hother, hlength⟩
  unfold collectRing
  split_ifs with hempty
  · exact safe_pure ⟨by rw [List.length_append]; rfl, hold _⟩
  · refine safe_failIf_bind fun hlong => safe_pure ⟨by rw [List.length_append]; rfl, ?_⟩
    rw [not_or, not_lt] at hlong
    intro seg hseg
    rcases List.mem_append.1 hseg with hseg | hseg
    · exact hold _ seg hseg
    · obtain ⟨line, -, rfl⟩ := List.mem_map.1 hseg
      refine ⟨_, List.getElem?_concat_length, hlong.1.trans ?_⟩
      exact length_le_closeRing _

theorem safe_foldlM_collectRing {state : List F64Polygon × List Segment} (h : RingsOfSegments state)
    (polygon : ℕ) (boundaries : List (List F64Coord)) :
    Safe ((boundaries.zipIdx state.1.length).foldlM (collectRing polygon) state) RingsOfSegments := by
  induction boundaries generalizing state with
  | nil => exact safe_pure h
  | cons boundary boundaries ih =>
    rw [List.zipIdx_cons, List.foldlM_cons]
    refine safe_bind (safe_collectRing h polygon boundary) fun state' hstate' => ?_
    rw [← hstate'.1]
    exact ih hstate'.2

theorem safe_collectRings (polygon : ℕ) (part : F64Polygon) :
    Safe (collectRings polygon part) RingsOfSegments :=
  safe_foldlM_collectRing (fun _ h => absurd h List.not_mem_nil) polygon _

/-- The contacts are contacts of the first `n` rings. -/
def ContactsOfRings (n : ℕ) (contacts : Contacts) : Prop :=
  ∀ contact ∈ contacts.entries, ∀ ring ∈ contact.2.keys, ring < n

theorem contactsOfRings_addContact {n : ℕ} {contacts : Contacts} (h : ContactsOfRings n contacts)
    {first second : Segment} (hfirst : first.ring < n) (hsecond : second.ring < n) (point : F64Coord) :
    ContactsOfRings n (addContact contacts point first second) := by
  intro contact hcontact ring hring
  rcases SortedMap.mem_insert_iff.1 hcontact with rfl | ⟨-, hold⟩
  · rcases SortedMap.mem_keys_insert.1 hring with rfl | hring
    · exact hsecond
    · rcases SortedMap.mem_keys_insert.1 hring with rfl | hring
      · exact hfirst
      · cases hget : contacts.get? (toLex (contactKey point.x, contactKey point.y)) with
        | none =>
          rw [hget] at hring
          exact absurd hring List.not_mem_nil
        | some incident =>
          rw [hget] at hring
          exact h _ (SortedMap.get?_eq_some_iff.1 hget) ring hring
  · exact h contact hold ring hring

section

variable {geo : GeoCrates} {rings : List F64Polygon} {segs : List Segment}

/-- The step: a segment and a candidate. -/
theorem safe_collectContact (hsegs : RingsOfSegments (rings, segs)) (polygon : ℕ) {first : Segment}
    (hfirst : first ∈ segs) {candidate : EnvelopeItem} (hcandidate : candidate ∈ segmentItems segs)
    {contacts : Contacts} (h : ContactsOfRings rings.length contacts) :
    Safe (collectContact geo polygon rings segs first contacts candidate)
      (ContactsOfRings rings.length) := by
  obtain ⟨seg, hseg, rfl⟩ := List.mem_map.1 hcandidate
  obtain ⟨second, index⟩ := seg
  have hsecond : segs[index]? = some second := by simpa [List.mem_zipIdx_iff_getElem?] using hseg
  have hrange : ∀ seg ∈ segs, seg.ring < rings.length := by
    intro seg hseg
    obtain ⟨ring, hring, -⟩ := hsegs seg hseg
    exact (List.getElem?_eq_some_iff.1 hring).1
  refine safe_lift_bind (readIndex_of_getElem? hsecond) ?_
  split
  · exact safe_pure h
  · next hit _ =>
    split_ifs with hsame
    · obtain ⟨ring, hring, hlength⟩ := hsegs first hfirst
      obtain ⟨next, hnext⟩ : ∃ next, adjacent first second (ring.exterior.length - 1) = .ok next := by
        unfold adjacent
        rw [subUnsigned_eq_ok (by omega), ok_bind]
        split_ifs
        exacts [⟨_, rfl⟩, ⟨_, rfl⟩, ⟨_, rfl⟩]
      refine safe_lift_bind (readIndex_of_getElem? hring) ?_
      refine safe_lift_bind (subUnsigned_eq_ok (by omega)) ?_
      refine safe_lift_bind hnext ?_
      exact safe_failIf_bind fun _ => safe_pure h
    · split
      · exact safe_pure (contactsOfRings_addContact h (hrange first hfirst)
          (hrange second (List.mem_of_getElem? hsecond)) _)
      · exact safe_fail _

theorem safe_collectContacts (hgeo : geo.Lawful) (hsegs : RingsOfSegments (rings, segs)) (polygon : ℕ) :
    Safe (collectContacts geo polygon rings segs) (ContactsOfRings rings.length) := by
  refine safe_foldlM (fun _ h => absurd h List.not_mem_nil) fun contacts first hfirst h => ?_
  refine safe_foldlM h fun contacts candidate hcandidate h => ?_
  refine safe_collectContact hsegs polygon (List.fst_mem_of_mem_zipIdx hfirst) ?_ h
  exact hgeo.mem_of_mem_locate (List.mem_filter.1 hcandidate).1

/-! ## Holes -/

theorem lt_of_mem_componentPairs (hgeo : geo.Lawful) {polygons : List F64Polygon}
    {visits : EnvelopeItem → Bool} {pair : EnvelopeItem × EnvelopeItem}
    (h : pair ∈ componentPairs geo polygons visits) :
    pair.1.index < polygons.length ∧ pair.2.index < polygons.length := by
  have hitems : ∀ item ∈ componentItems geo polygons, item.index < polygons.length := by
    intro item hitem
    obtain ⟨polygon, hpolygon, hitem⟩ := List.mem_filterMap.1 hitem
    obtain ⟨rect, -, rfl⟩ := Option.map_eq_some_iff.1 hitem
    exact (List.mem_zipIdx' hpolygon).1
  obtain ⟨item, hitem, hpair⟩ := List.mem_flatMap.1 h
  obtain ⟨other, hother, rfl⟩ := List.mem_map.1 hpair
  exact ⟨hitems _ (hgeo.mem_of_mem_iter (List.mem_filter.1 hitem).1),
    hitems _ (hgeo.mem_of_mem_locate (List.mem_filter.1 hother).1)⟩

theorem safe_checkHoles (hgeo : geo.Lawful) (polygon : ℕ) (rings : List F64Polygon) :
    Safe (checkHoles geo polygon rings) fun _ => True := by
  refine safe_bind (safe_forM fun ring hring => ?_) fun _ _ => safe_forM fun pair hpair => ?_
  · obtain ⟨hlow, hhigh⟩ := List.mem_range'_1.1 hring
    obtain ⟨hole, hhole⟩ := readIndex_eq_ok rings ring (by omega)
    obtain ⟨shell, hshell⟩ := readIndex_eq_ok rings 0 (by omega)
    refine safe_lift_bind hhole ?_
    split_ifs
    · exact safe_pure trivial
    · exact safe_lift_bind hshell (safe_failIf fun _ => trivial)
  · obtain ⟨hfirst, hsecond⟩ := lt_of_mem_componentPairs hgeo hpair
    obtain ⟨first, hfirst⟩ := readIndex_eq_ok rings _ hfirst
    obtain ⟨second, hsecond⟩ := readIndex_eq_ok rings _ hsecond
    exact safe_lift_bind hfirst (safe_lift_bind hsecond (safe_failIf fun _ => trivial))

end

end Pourpoint.GeometryValidity
