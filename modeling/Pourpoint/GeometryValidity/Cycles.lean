import Pourpoint.GeometryValidity.Contacts
import Pourpoint.Library.DisjointSets
import Pourpoint.Library.IncidenceGraph
import Pourpoint.Library.Success

/-!
# Cycles of contacts

The last pass of `validate_polygon` joins the rings of each contact by their parents. As long as no cycle
was found, the sets of rings are the components of the graph of the incidences that were visited
(`Joined`), so two rings of a contact that have one root close a cycle, and a ring that is joined closes
none. The pass fails iff the graph has a cycle (`outcome_connectRings`), in whatever order it visits the
contacts and their rings.
-/

namespace Pourpoint.GeometryValidity

open Fallible Library SimpleGraph

/-! ## Roots -/

/-- **`root` ends** with the root of the index, and keeps the sets. -/
theorem rootLoop_eq_ok {parents : List ℕ} (hforest : IsForest parents) {fuel d node r : ℕ}
    (h : Ascends parents d node r) (hfuel : d < fuel) :
    ∃ parents', rootLoop fuel parents node = .ok (parents', r) ∧ parents'.length = parents.length ∧
      IsForest parents' ∧ ∀ i s, Represents parents' i s ↔ Represents parents i s := by
  induction fuel generalizing parents d node with
  | zero => exact absurd hfuel (Nat.not_lt_zero d)
  | succ fuel ih =>
    cases h with
    | root hroot =>
      refine ⟨parents, ?_, rfl, hforest, fun _ _ => Iff.rfl⟩
      rw [rootLoop, readIndex_of_getElem? hroot, ok_bind, if_pos rfl]
    | @step d _ parent _ hparent hne hascends =>
      obtain ⟨grandparent, e, hgrandparent, he, hascends'⟩ := hascends.parent
      obtain ⟨hforest', hsame⟩ := hforest.halve hparent hne hgrandparent
      obtain ⟨e', he', hascends''⟩ := hascends'.halve hparent hne hgrandparent
      obtain ⟨parents', hrun, hlength, hforest'', hsame'⟩ := ih hforest' hascends'' (by omega)
      have hlt : node < parents.length := (List.getElem?_eq_some_iff.1 hparent).1
      refine ⟨parents', ?_, hlength.trans List.length_set, hforest'', fun i s =>
        (hsame' i s).trans (hsame i s)⟩
      rw [rootLoop, readIndex_of_getElem? hparent, ok_bind, if_neg hne,
        readIndex_of_getElem? hgrandparent, ok_bind, writeIndex_eq_ok hlt, ok_bind,
        readIndex_of_getElem? (List.getElem?_set_self hlt), ok_bind, hrun]

theorem root_eq_ok {parents : List ℕ} (hforest : IsForest parents) {node r : ℕ}
    (h : Represents parents node r) :
    ∃ parents', root parents node = .ok (parents', r) ∧ parents'.length = parents.length ∧
      IsForest parents' ∧ ∀ i s, Represents parents' i s ↔ Represents parents i s := by
  obtain ⟨d, hd⟩ := h
  exact rootLoop_eq_ok hforest hd hd.lt_length

/-! ## Components -/

/-- The sets of `n` rings are the components of the graph of the incidences, which has no cycle. -/
structure Joined {κ : Type} (n : ℕ) (E : Set (ℕ × κ)) (parents : List ℕ) : Prop where
  length_eq : parents.length = n
  isForest : IsForest parents
  acyclic : (incidenceGraph E).IsAcyclic
  sameSet_iff : ∀ i < n, ∀ j < n,
    (SameSet parents i j ↔ (incidenceGraph E).Reachable (.inl i) (.inl j))

section

variable {κ : Type} {n polygon : ℕ} {E : Set (ℕ × κ)} {parents : List ℕ}

theorem joined_range (n : ℕ) : Joined n (∅ : Set (ℕ × κ)) (List.range n) where
  length_eq := List.length_range
  isForest := fun i hi => ⟨i, represents_range (by rwa [List.length_range] at hi)⟩
  acyclic := by
    rw [incidenceGraph_empty]
    exact isAcyclic_bot
  sameSet_iff := by
    intro i hi j hj
    rw [incidenceGraph_empty, reachable_bot, Sum.inl.injEq,
      ← represents_iff_sameSet (represents_range hj)]
    constructor
    · intro h
      exact (represents_range hi).unique h
    · rintro rfl
      exact represents_range hi

/-- The first ring of a new contact hangs on it as a leaf. -/
theorem Joined.insert_leaf (h : Joined n E parents) {first : ℕ} {key : κ} (hnew : ∀ ring, (ring, key) ∉ E) :
    Joined n (insert (first, key) E) parents where
  length_eq := h.length_eq
  isForest := h.isForest
  acyclic := by
    refine (incidenceGraph_insert_isAcyclic_iff (hnew first)).2 ⟨h.acyclic, fun hreach => ?_⟩
    exact Sum.inl_ne_inr (eq_of_reachable_isolated hnew hreach)
  sameSet_iff := by
    intro i hi j hj
    have hleaf : ∀ ring : ℕ, ¬(incidenceGraph E).Reachable (.inl ring) (.inr key) := fun ring hreach =>
      Sum.inl_ne_inr (eq_of_reachable_isolated hnew hreach)
    rw [h.sameSet_iff i hi j hj, incidenceGraph_insert, reachable_sup_edge_iff Sum.inl_ne_inr]
    constructor
    · exact Or.inl
    · rintro (hreach | ⟨-, hreach⟩ | ⟨hreach, -⟩)
      · exact hreach
      · exact absurd hreach.symm (hleaf j)
      · exact absurd hreach (hleaf i)

theorem reachable_of_incident {first : ℕ} {key : κ} (hfirst : (first, key) ∈ E) {v : ℕ ⊕ κ} :
    (incidenceGraph E).Reachable v (.inr key) ↔ (incidenceGraph E).Reachable v (.inl first) := by
  have hadj : (incidenceGraph E).Reachable (.inl first) (.inr key) :=
    Adj.reachable (incidenceGraph_adj.2 hfirst)
  exact ⟨fun h => h.trans hadj.symm, fun h => h.trans hadj⟩

/-- Another ring of a contact is joined below the root of the first. -/
theorem Joined.link (h : Joined n E parents) {first second a b : ℕ} {key : κ} (hfirst : first < n)
    (hsecond : second < n) (hmem : (first, key) ∈ E) (hnew : (second, key) ∉ E)
    (ha : Represents parents first a) (hb : Represents parents second b) (hab : a ≠ b) :
    Joined n (insert (second, key) E) (parents.set b a) := by
  have hlength := h.length_eq
  obtain ⟨hforest, hsame⟩ := h.isForest.link ha.isRoot hb.isRoot hab
  refine ⟨List.length_set.trans hlength, hforest, ?_, fun i hi j hj => ?_⟩
  · refine (incidenceGraph_insert_isAcyclic_iff hnew).2 ⟨h.acyclic, fun hreach => hab ?_⟩
    rw [reachable_of_incident hmem, ← h.sameSet_iff second hsecond first hfirst] at hreach
    exact ((represents_iff_sameSet ha).2 hreach).unique hb
  · rw [hsame i (hlength ▸ hi) j (hlength ▸ hj), incidenceGraph_insert,
      reachable_sup_edge_iff Sum.inl_ne_inr, represents_iff_sameSet ha, represents_iff_sameSet hb,
      represents_iff_sameSet ha, represents_iff_sameSet hb, h.sameSet_iff i hi j hj,
      h.sameSet_iff i hi first hfirst, h.sameSet_iff j hj first hfirst, h.sameSet_iff i hi second hsecond,
      h.sameSet_iff j hj second hsecond, reachable_of_incident hmem,
      reachable_comm (u := Sum.inr key), reachable_of_incident hmem,
      reachable_comm (u := Sum.inl second) (v := Sum.inl j)]
    tauto

/-! ## The pass -/

/-- The code goes on with joined rings, or it found a cycle. -/
def Outcome (n polygon : ℕ) (E : Set (ℕ × κ)) (x : Fallible GeometryValidityError (List ℕ)) : Prop :=
  (∃ parents, x.run = .ok (.ok parents) ∧ Joined n E parents) ∨
    (x.run = .ok (.error (.disconnectedInterior polygon)) ∧ ¬(incidenceGraph E).IsAcyclic)

theorem outcome_bind {E' : Set (ℕ × κ)} {x : Fallible GeometryValidityError (List ℕ)}
    {f : List ℕ → Fallible GeometryValidityError (List ℕ)} (hx : Outcome n polygon E x) (hE : E ⊆ E')
    (hf : ∀ parents, Joined n E parents → Outcome n polygon E' (f parents)) :
    Outcome n polygon E' (x >>= f) := by
  rcases hx with ⟨parents, hrun, hjoined⟩ | ⟨hrun, hcycle⟩
  · unfold Outcome
    rw [bind_run_of_ok hrun]
    exact hf parents hjoined
  · exact Or.inr ⟨bind_run_of_error hrun f,
      fun hacyclic => hcycle (hacyclic.anti (incidenceGraph_mono hE))⟩

/-- The step: another ring of a contact. -/
theorem outcome_unite (h : Joined n E parents) {first second : ℕ} {key : κ} (hfirst : first < n)
    (hsecond : second < n) (hmem : (first, key) ∈ E) (hnew : (second, key) ∉ E) :
    Outcome n polygon (insert (second, key) E) (unite polygon first parents second) := by
  obtain ⟨a, ha⟩ := h.isForest first (h.length_eq ▸ hfirst)
  obtain ⟨b, hb⟩ := h.isForest second (h.length_eq ▸ hsecond)
  obtain ⟨parentsA, hrunA, hlengthA, hforestA, hsameA⟩ := root_eq_ok h.isForest ha
  obtain ⟨parentsB, hrunB, hlengthB, hforestB, hsameB⟩ := root_eq_ok hforestA ((hsameA _ _).2 hb)
  have hsame : ∀ i r, Represents parentsB i r ↔ Represents parents i r :=
    fun i r => (hsameB i r).trans (hsameA i r)
  have hjoined : Joined n E parentsB := by
    refine ⟨hlengthB.trans (hlengthA.trans h.length_eq), hforestB, h.acyclic, fun i hi j hj => ?_⟩
    simp only [SameSet, hsame]
    exact h.sameSet_iff i hi j hj
  have hb' := (hsame second b).2 hb
  have hrun : (unite polygon first parents second).run =
      if a = b then .ok (.error (.disconnectedInterior polygon)) else .ok (.ok (parentsB.set b a)) := by
    have hlt : b < parentsB.length := (List.getElem?_eq_some_iff.1 hb'.isRoot).1
    rw [unite, lift_bind_run hrunA, lift_bind_run hrunB, failIf]
    split_ifs with hab
    · rfl
    · rw [pure_bind, writeIndex_eq_ok hlt]
      rfl
  by_cases hab : a = b
  · rw [if_pos hab] at hrun
    refine Or.inr ⟨hrun, fun hacyclic => ?_⟩
    refine ((incidenceGraph_insert_isAcyclic_iff hnew).1 hacyclic).2 ?_
    rw [reachable_of_incident hmem, ← h.sameSet_iff second hsecond first hfirst]
    exact ⟨a, hab ▸ hb, ha⟩
  · rw [if_neg hab] at hrun
    exact Or.inl ⟨_, hrun, hjoined.link hfirst hsecond hmem hnew ((hsame first a).2 ha) hb' hab⟩

/-- The incidences of rings with one contact. -/
def ringsAt (incident : List ℕ) (key : κ) : Set (ℕ × κ) := {e | e.1 ∈ incident ∧ e.2 = key}

theorem union_ringsAt_nil (E : Set (ℕ × κ)) (key : κ) : E ∪ ringsAt [] key = E := by
  simp [ringsAt]

theorem insert_union_ringsAt (E : Set (ℕ × κ)) (ring : ℕ) (iter : List ℕ) (key : κ) :
    insert (ring, key) E ∪ ringsAt iter key = E ∪ ringsAt (ring :: iter) key := by
  ext ⟨other, otherKey⟩
  simp only [ringsAt, Set.mem_union, Set.mem_insert_iff, Set.mem_ofPred_eq, Prod.mk.injEq, List.mem_cons]
  tauto

/-- The run over the other rings of a contact. -/
theorem outcome_foldlM_unite (h : Joined n E parents) {first : ℕ} {key : κ} (hfirst : first < n)
    (hmem : (first, key) ∈ E) {iter : List ℕ} (hiter : ∀ ring ∈ iter, ring < n) (hnodup : iter.Nodup)
    (hnew : ∀ ring ∈ iter, (ring, key) ∉ E) :
    Outcome n polygon (E ∪ ringsAt iter key) (iter.foldlM (unite polygon first) parents) := by
  induction iter generalizing parents E with
  | nil =>
    rw [union_ringsAt_nil]
    exact Or.inl ⟨parents, rfl, h⟩
  | cons second iter ih =>
    obtain ⟨hnotMem, hnodup⟩ := List.nodup_cons.1 hnodup
    rw [List.foldlM_cons, ← insert_union_ringsAt]
    refine outcome_bind (outcome_unite h hfirst (hiter second List.mem_cons_self) hmem
      (hnew second List.mem_cons_self)) Set.subset_union_left fun parents' h' => ?_
    refine ih h' (Set.mem_insert_of_mem _ hmem) (fun ring hring => hiter ring (List.mem_cons_of_mem _ hring))
      hnodup fun ring hring hmem' => ?_
    rcases Set.mem_insert_iff.1 hmem' with heq | hmem'
    · exact hnotMem ((Prod.mk.inj heq).1 ▸ hring)
    · exact hnew ring (List.mem_cons_of_mem _ hring) hmem'

/-- A contact. -/
theorem outcome_uniteContact (h : Joined n E parents) {incident : List ℕ} {key : κ}
    (hincident : ∀ ring ∈ incident, ring < n) (hnodup : incident.Nodup)
    (hnew : ∀ ring, (ring, key) ∉ E) :
    Outcome n polygon (E ∪ ringsAt incident key) (uniteContact polygon parents incident) := by
  cases incident with
  | nil =>
    rw [union_ringsAt_nil]
    exact Or.inl ⟨parents, rfl, h⟩
  | cons first iter =>
    obtain ⟨hnotMem, hnodup⟩ := List.nodup_cons.1 hnodup
    rw [← insert_union_ringsAt]
    refine outcome_foldlM_unite (h.insert_leaf hnew) (hincident first List.mem_cons_self)
      (Set.mem_insert _ _) (fun ring hring => hincident ring (List.mem_cons_of_mem _ hring)) hnodup
      fun ring hring hmem => ?_
    rcases Set.mem_insert_iff.1 hmem with heq | hmem
    · exact hnotMem ((Prod.mk.inj heq).1 ▸ hring)
    · exact hnew ring hmem

/-- The incidences of contacts with their rings. -/
def incidences (visited : List (κ × List ℕ)) : Set (ℕ × κ) :=
  {e | ∃ incident, (e.2, incident) ∈ visited ∧ e.1 ∈ incident}

/-- The run over the contacts. -/
theorem outcome_foldlM_uniteContact (h : Joined n E parents) {visited : List (κ × List ℕ)}
    (hkeys : (visited.map (·.1)).Nodup)
    (hvisited : ∀ contact ∈ visited, contact.2.Nodup ∧ ∀ ring ∈ contact.2, ring < n)
    (hnew : ∀ contact ∈ visited, ∀ ring, (ring, contact.1) ∉ E) :
    Outcome n polygon (E ∪ incidences visited)
      ((visited.map (·.2)).foldlM (uniteContact polygon) parents) := by
  induction visited generalizing parents E with
  | nil =>
    refine Or.inl ⟨parents, rfl, ?_⟩
    have hempty : incidences ([] : List (κ × List ℕ)) = ∅ := by simp [incidences]
    rwa [hempty, Set.union_empty]
  | cons contact visited ih =>
    obtain ⟨key, incident⟩ := contact
    obtain ⟨hkey, hkeys⟩ := List.nodup_cons.1 hkeys
    obtain ⟨⟨hnodup, hrings⟩, hvisited⟩ := List.forall_mem_cons.1 hvisited
    obtain ⟨hnewHead, hnew⟩ := List.forall_mem_cons.1 hnew
    have hset : E ∪ ringsAt incident key ∪ incidences visited =
        E ∪ incidences ((key, incident) :: visited) := by
      ext ⟨ring, other⟩
      simp only [incidences, ringsAt, Set.mem_union, Set.mem_ofPred_eq, List.mem_cons, Prod.mk.injEq]
      grind
    rw [List.map_cons, List.foldlM_cons, ← hset]
    refine outcome_bind (outcome_uniteContact h hrings hnodup hnewHead) Set.subset_union_left
      fun parents' h' => ?_
    refine ih h' hkeys hvisited fun other hother ring hmem => ?_
    rcases hmem with hmem | ⟨-, heq⟩
    · exact hnew other hother ring hmem
    · exact hkey (List.mem_map.2 ⟨other, hother, heq⟩)

/-- **The last pass** reports a disconnected interior iff the incidences have a cycle. -/
theorem connectRings_run (polygon : ℕ) {visited : List (κ × List ℕ)} (hkeys : (visited.map (·.1)).Nodup)
    (hvisited : ∀ contact ∈ visited, contact.2.Nodup ∧ ∀ ring ∈ contact.2, ring < n) :
    ((connectRings polygon n (visited.map (·.2))).run = .ok (.ok ()) ∧
        (incidenceGraph (incidences visited)).IsAcyclic) ∨
      ((connectRings polygon n (visited.map (·.2))).run = .ok (.error (.disconnectedInterior polygon)) ∧
        ¬(incidenceGraph (incidences visited)).IsAcyclic) := by
  have houtcome : Outcome n polygon (∅ ∪ incidences visited)
      ((visited.map (·.2)).foldlM (uniteContact polygon) (List.range n)) :=
    outcome_foldlM_uniteContact (joined_range n) hkeys hvisited fun _ _ _ => Set.notMem_empty _
  rw [Set.empty_union] at houtcome
  rcases houtcome with ⟨parents, hrun, hjoined⟩ | ⟨hrun, hcycle⟩
  · exact Or.inl ⟨bind_run_of_ok hrun _, hjoined.acyclic⟩
  · exact Or.inr ⟨bind_run_of_error hrun _, hcycle⟩

end

/-! ## Polygons -/

/-- The graph between the rings of a polygon and the points where they meet. -/
def contactGraph (contacts : Contacts) : SimpleGraph (ℕ ⊕ (ℕ ×ₗ ℕ)) :=
  incidenceGraph {e | ∃ incident, (e.2, incident) ∈ contacts.entries ∧ e.1 ∈ incident.keys}

/-- A visit of the contacts in some order, and of the rings of each contact in some order. -/
structure Visits (contacts : Contacts) (visited : List ((ℕ ×ₗ ℕ) × List ℕ)) : Prop where
  perm : (visited.map (·.1)).Perm contacts.keys
  rings : ∀ contact ∈ visited, ∀ incident, (contact.1, incident) ∈ contacts.entries →
    contact.2.Perm incident.keys

section

variable {contacts : Contacts} {visited : List ((ℕ ×ₗ ℕ) × List ℕ)}

theorem Visits.exists_entry (h : Visits contacts visited) {contact : (ℕ ×ₗ ℕ) × List ℕ}
    (hcontact : contact ∈ visited) :
    ∃ incident, (contact.1, incident) ∈ contacts.entries ∧ contact.2.Perm incident.keys := by
  obtain ⟨incident, hmem⟩ := SortedMap.mem_keys.1 (h.perm.subset (List.mem_map_of_mem hcontact))
  exact ⟨incident, hmem, h.rings contact hcontact incident hmem⟩

theorem Visits.incidences (h : Visits contacts visited) :
    incidenceGraph (incidences visited) = contactGraph contacts := by
  refine congrArg incidenceGraph (Set.ext fun e => ?_)
  constructor
  · rintro ⟨order, hvisited, hring⟩
    obtain ⟨incident, hmem, hperm⟩ := h.exists_entry hvisited
    exact ⟨incident, hmem, hperm.subset hring⟩
  · rintro ⟨incident, hmem, hring⟩
    obtain ⟨⟨key, order⟩, hvisited, heq⟩ :=
      List.mem_map.1 (h.perm.symm.subset (SortedMap.mem_keys.2 ⟨incident, hmem⟩))
    obtain rfl : key = e.2 := heq
    exact ⟨order, hvisited, (h.rings _ hvisited incident hmem).symm.subset hring⟩

theorem Visits.keys_nodup (h : Visits contacts visited) : (visited.map (·.1)).Nodup :=
  h.perm.nodup_iff.2 (contacts.pairwise_keys.imp ne_of_lt)

theorem Visits.rings_lt {n : ℕ} (h : Visits contacts visited) (hrings : ContactsOfRings n contacts) :
    ∀ contact ∈ visited, contact.2.Nodup ∧ ∀ ring ∈ contact.2, ring < n := by
  intro contact hcontact
  obtain ⟨incident, hmem, hperm⟩ := h.exists_entry hcontact
  exact ⟨hperm.nodup_iff.2 (incident.pairwise_keys.imp ne_of_lt), fun ring hring =>
    hrings _ hmem ring (hperm.subset hring)⟩

end

/-- The order in which the source visits the contacts. -/
def Contacts.visited (contacts : Contacts) : List ((ℕ ×ₗ ℕ) × List ℕ) :=
  contacts.entries.map fun contact => (contact.1, contact.2.keys)

theorem Contacts.visits (contacts : Contacts) : Visits contacts contacts.visited where
  perm := by
    have hkeys : contacts.visited.map (·.1) = contacts.keys := by
      simp [Contacts.visited, SortedMap.keys]
    rw [hkeys]
  rings := by
    intro contact hcontact incident hmem
    obtain ⟨entry, hentry, rfl⟩ := List.mem_map.1 hcontact
    rw [SortedMap.eq_of_mem hentry hmem]

theorem Contacts.values_eq (contacts : Contacts) : contacts.values = contacts.visited.map (·.2) := by
  simp [Contacts.values, Contacts.visited]

/-- The graph has a cycle. -/
def ContainsCycle {V : Type} (G : SimpleGraph V) : Prop := ∃ v, ∃ cycle : G.Walk v v, cycle.IsCycle

theorem not_containsCycle_iff {V : Type} {G : SimpleGraph V} : ¬ContainsCycle G ↔ G.IsAcyclic := by
  simp [ContainsCycle, IsAcyclic]

section

variable {geo : GeoCrates} {part : F64Polygon} {polygon : ℕ} {rings : List F64Polygon}
  {segs : List Segment} {contacts : Contacts}

/-- `validate_polygon` returns. -/
theorem validatePolygon_safe (hgeo : geo.Lawful) (part : F64Polygon) (polygon : ℕ) :
    Safe (validatePolygon geo part polygon) fun _ => True := by
  unfold validatePolygon
  split_ifs
  · exact safe_pure trivial
  · refine safe_bind (safe_collectRings polygon part) fun collected hcollected => ?_
    refine safe_bind (safe_collectContacts hgeo hcollected polygon) fun contacts hcontacts => ?_
    refine safe_bind (safe_checkHoles hgeo polygon _) fun _ _ => ?_
    rw [Contacts.values_eq]
    rcases connectRings_run polygon contacts.visits.keys_nodup
      (contacts.visits.rings_lt hcontacts) with ⟨hrun, -⟩ | ⟨hrun, -⟩
    · exact ⟨_, hrun, fun _ _ => trivial⟩
    · exact ⟨_, hrun, fun _ _ => trivial⟩

/-- **The interior of a polygon.** The last pass on the contacts that were collected, in any order of the
contacts and of the rings of each, ends and reports a disconnected interior iff the graph of rings and
contacts has a cycle; with one contact it never does. So does `validate_polygon` where it comes to that
pass, and it always returns. -/
theorem connectedInterior_iff (hgeo : geo.Lawful)
    (hrings : (collectRings polygon part).run = .ok (.ok (rings, segs)))
    (hcontacts : (collectContacts geo polygon rings segs).run = .ok (.ok contacts)) :
    (∀ visited, Visits contacts visited →
      ((connectRings polygon rings.length (visited.map (·.2))).run =
          .ok (.error (.disconnectedInterior polygon)) ↔ ContainsCycle (contactGraph contacts)) ∧
      ((connectRings polygon rings.length (visited.map (·.2))).run = .ok (.ok ()) ↔
          ¬ContainsCycle (contactGraph contacts))) ∧
    (contacts.entries.length ≤ 1 → ¬ContainsCycle (contactGraph contacts)) ∧
    (∃ result, (validatePolygon geo part polygon).run = .ok result) ∧
    (isEmptyPart part = false → (checkHoles geo polygon rings).run = .ok (.ok ()) →
      ((validatePolygon geo part polygon).run = .ok (.error (.disconnectedInterior polygon)) ↔
        ContainsCycle (contactGraph contacts))) := by
  have hsegs : RingsOfSegments (rings, segs) := by
    obtain ⟨_, hrun, hP⟩ := safe_collectRings polygon part
    rw [hrings] at hrun
    exact hP _ (Except.ok.inj hrun).symm
  have hbound : ContactsOfRings rings.length contacts := by
    obtain ⟨_, hrun, hP⟩ := safe_collectContacts hgeo hsegs polygon
    rw [hcontacts] at hrun
    exact hP _ (Except.ok.inj hrun).symm
  have hpass : ∀ visited, Visits contacts visited →
      ((connectRings polygon rings.length (visited.map (·.2))).run =
          .ok (.error (.disconnectedInterior polygon)) ↔ ContainsCycle (contactGraph contacts)) ∧
      ((connectRings polygon rings.length (visited.map (·.2))).run = .ok (.ok ()) ↔
          ¬ContainsCycle (contactGraph contacts)) := by
    intro visited hvisits
    rw [not_containsCycle_iff, ← not_iff_not (b := ContainsCycle _), not_containsCycle_iff,
      ← hvisits.incidences]
    rcases connectRings_run polygon hvisits.keys_nodup (hvisits.rings_lt hbound) with
      ⟨hrun, hacyclic⟩ | ⟨hrun, hcycle⟩
    · simp [hrun, hacyclic]
    · simp [hrun, hcycle]
  refine ⟨hpass, fun hone => ?_, ?_, fun hpart hholes => ?_⟩
  · rw [not_containsCycle_iff]
    obtain ⟨key, hkey⟩ : ∃ key, ∀ contact ∈ contacts.entries, contact.1 = key := by
      match hentries : contacts.entries, hone with
      | [], _ => exact ⟨0, by simp⟩
      | [contact], _ => exact ⟨contact.1, by simp⟩
    refine incidenceGraph_star_isAcyclic (b := key) fun e he => ?_
    obtain ⟨incident, hmem, -⟩ := he
    exact hkey _ hmem
  · obtain ⟨result, hrun, -⟩ := validatePolygon_safe hgeo part polygon
    exact ⟨result, hrun⟩
  · have hrun : (validatePolygon geo part polygon).run =
        (connectRings polygon rings.length contacts.values).run := by
      rw [validatePolygon, hpart, if_neg Bool.false_ne_true, bind_run_of_ok hrings,
        bind_run_of_ok hcontacts, bind_run_of_ok hholes]
    rw [hrun, Contacts.values_eq]
    exact (hpass _ contacts.visits).1

/-! A square with a hole that touches it twice, and lines that meet at ends only. -/

def value : F64 → ℚ
  | .finite q => q
  | _ => 0

/-- The coordinate lies on the line. -/
def onLine (c : F64Coord) (line : F64Line) : Bool :=
  decide ((value line.finish.x - value line.start.x) * (value c.y - value line.start.y) =
    (value line.finish.y - value line.start.y) * (value c.x - value line.start.x)) &&
  (envelope line).lower.x.le c.x && c.x.le (envelope line).upper.x &&
  (envelope line).lower.y.le c.y && c.y.le (envelope line).upper.y

/-- The intersection of lines of which at most an end lies on the other one. -/
def touchingPoint (a b : F64Line) : Option LineIntersection :=
  if onLine a.start b then some (.singlePoint a.start false)
  else if onLine a.finish b then some (.singlePoint a.finish false)
  else if onLine b.start a then some (.singlePoint b.start false)
  else if onLine b.finish a then some (.singlePoint b.finish false)
  else none

/-- The rectangle around the coordinates of the exterior. -/
def boundsOf (polygon : F64Polygon) : Option F64Rect :=
  match polygon.exterior with
  | [] => none
  | c :: coords =>
    let low : F64Coord := coords.foldl (fun low c => ⟨low.x.min c.x, low.y.min c.y⟩) c
    let high : F64Coord := coords.foldl (fun high c => ⟨high.x.max c.x, high.y.max c.y⟩) c
    if h : high.x.lt low.x = false ∧ high.y.lt low.y = false then some ⟨low, high, h.1, h.2⟩ else none

def touchingCrates : GeoCrates where
  iter := id
  locateInEnvelopeIntersecting := fun items envelope => items.filter fun item =>
    item.envelope.lower.x.le envelope.upper.x && envelope.lower.x.le item.envelope.upper.x &&
    item.envelope.lower.y.le envelope.upper.y && envelope.lower.y.le item.envelope.upper.y
  lineIntersection := touchingPoint
  relate := fun _ _ => ⟨fun _ _ => .twoDimensional, true⟩
  boundingRect := boundsOf

theorem touchingCrates_lawful : touchingCrates.Lawful where
  mem_of_mem_iter := id
  mem_of_mem_locate := fun h => (List.mem_filter.1 h).1

/-- A square with a hole that touches it in two points. -/
def doubleTouch : F64Polygon where
  exterior := [⟨.finite 0, .finite 0⟩, ⟨.finite 10, .finite 0⟩, ⟨.finite 10, .finite 10⟩,
    ⟨.finite 0, .finite 10⟩, ⟨.finite 0, .finite 0⟩]
  interiors := [[⟨.finite 0, .finite 5⟩, ⟨.finite 5, .finite 2⟩, ⟨.finite 10, .finite 5⟩,
    ⟨.finite 5, .finite 8⟩, ⟨.finite 0, .finite 5⟩]]

/-- The contacts of the square and its hole have a cycle, and the polygon is refused. -/
theorem connectedInterior_iff_doubleTouch :
    ∃ rings segs contacts, (collectRings 0 doubleTouch).run = .ok (.ok (rings, segs)) ∧
      (collectContacts touchingCrates 0 rings segs).run = .ok (.ok contacts) ∧
      ContainsCycle (contactGraph contacts) ∧
      (validatePolygon touchingCrates doubleTouch 0).run = .ok (.error (.disconnectedInterior 0)) := by
  obtain ⟨rings, segs, hrings⟩ : ∃ rings segs,
      (collectRings 0 doubleTouch).run = .ok (.ok (rings, segs)) := ⟨_, _, rfl⟩
  have hrun : (validatePolygon touchingCrates doubleTouch 0).run =
      .ok (.error (.disconnectedInterior 0)) := by
    decide +kernel
  have hholes : (checkHoles touchingCrates 0 rings).run = .ok (.ok ()) := by
    cases hrings
    decide +kernel
  have hsome : ((collectContacts touchingCrates 0 rings segs).run.toOption.bind Except.toOption).isSome := by
    cases hrings
    decide +kernel
  obtain ⟨contacts, hcontacts⟩ := Option.isSome_iff_exists.1 hsome
  obtain ⟨result, hresult, hcontacts⟩ := Option.bind_eq_some_iff.1 hcontacts
  rw [toOption_eq_some_iff] at hresult hcontacts
  subst hcontacts
  refine ⟨rings, segs, contacts, hrings, hresult, ?_, hrun⟩
  exact ((connectedInterior_iff touchingCrates_lawful hrings hresult).2.2.2 (by decide) hholes).1 hrun

end

end Pourpoint.GeometryValidity
