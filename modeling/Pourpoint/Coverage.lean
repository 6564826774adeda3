import Pourpoint.HoleOwners

/-!
# Polygonize as a point set

`polygonize` succeeds on every mask, and its polygons are the exteriors with the holes they own
(`polygonize_eq`). Read as point sets they cover the mask exactly when no hole starts inside two
exteriors (`coversMask_iff`): a hole that is two deep goes to the outermost exterior around it, and
its cells stay covered by the exterior in between.
-/

namespace Pourpoint

open Lattice

/-! ## The polygons -/

/-- The exterior of a ring, as the owner search sees it. -/
def exteriorPoly (geo : GeoTransform) (t : Ring) : Polygon := Polygon.new (toGeoCoords t geo) []

/-- The holes of an exterior. -/
def ownedHoles (rings : List Ring) (t : Ring) : List Ring :=
  (rings.filter fun w => !isExterior w).filter fun w => decide (owner rings w = some t)

/-- The polygon of an exterior and the holes it owns. -/
def ringPolygon (rings : List Ring) (geo : GeoTransform) (t : Ring) : Polygon :=
  normalisePolygon (exteriorPoly geo t) ((ownedHoles rings t).map fun w => toGeoCoords w geo)

theorem modify_append_length {α : Type} (f : α → α) (xs : List α) (x : α) (ys : List α) :
    (xs ++ x :: ys).modify xs.length f = xs ++ f x :: ys := by
  induction xs with
  | nil => simp
  | cons a xs ih => simp [ih]

theorem modify_map_of_split {α β : Type} [DecidableEq α] {l as bs : List α} {a : α}
    (hsplit : l = as ++ a :: bs) (hn : l.Nodup) (F : α → List β) (b : β) :
    (l.map F).modify as.length (· ++ [b]) = l.map fun x => if x = a then F x ++ [b] else F x := by
  subst hsplit
  obtain ⟨-, hn', hd⟩ := List.nodup_append.1 hn
  have hleft : ∀ x ∈ as, x ≠ a := fun x hx => hd x hx a (by simp)
  have hright : ∀ x ∈ bs, x ≠ a := by
    rintro x hx rfl
    exact (List.nodup_cons.1 hn').1 hx
  have h1 : (as.map fun x => if x = a then F x ++ [b] else F x) = as.map F :=
    List.map_congr_left fun x hx => if_neg (hleft x hx)
  have h2 : (bs.map fun x => if x = a then F x ++ [b] else F x) = bs.map F :=
    List.map_congr_left fun x hx => if_neg (hright x hx)
  rw [List.map_append, List.map_append, List.map_cons, List.map_cons, h1, h2, if_pos rfl]
  have hlen : as.length = (as.map F).length := (List.length_map F).symm
  rw [hlen, modify_append_length]

section rings

variable {mask : CatchmentMask} {rings : List Ring} (h : MaskRings mask rings) {geo : GeoTransform}
  (hgeo : geo.NorthUp) {contains : Polygon → Coord → Bool} (hc : ContainsIsStrictInterior contains)

include h hgeo hc

/-- The owner search finds the position of the owner. -/
theorem MaskRings.holeOwner_eq {w : Ring} (hw : w ∈ rings) (hhole : isExterior w = false)
    {start : Vertex} (hstart : start ∈ w.head?) :
    ∃ t as bs, owner rings w = some t ∧ rings.filter isExterior = as ++ t :: bs ∧
      holeOwner contains ((rings.filter isExterior).map (exteriorPoly geo)) (cornerCoord geo start) =
        some as.length := by
  have htest : ∀ t ∈ rings.filter isExterior,
      contains (exteriorPoly geo t) (cornerCoord geo start) = decide (Inside (loop w) (loop t)) := by
    intro t ht
    obtain ⟨ht, hext⟩ := List.mem_filter.1 ht
    have := h.strictInterior_start_iff hgeo hw ht hhole hext hstart
    rw [Bool.eq_iff_iff, hc, exteriorPoly, this, decide_eq_true_eq]
  obtain ⟨t, ho⟩ := h.exists_owner hw hhole
  obtain ⟨hin, as, bs, hsplit, has⟩ := List.find?_eq_some_iff_append.1 ho
  refine ⟨t, as, bs, ho, hsplit, ?_⟩
  rw [holeOwner, List.findIdx?_map, List.findIdx?_eq_some_iff_getElem]
  refine ⟨by simp [hsplit], ?_, ?_⟩
  · have ht : t ∈ rings.filter isExterior := by simp [hsplit]
    simpa [hsplit, htest t ht] using hin
  · intro j hj
    have hlt : j < (rings.filter isExterior).length := by
      rw [hsplit, List.length_append]
      omega
    have hget : (rings.filter isExterior)[j] = as[j] := by
      simp only [hsplit]
      exact List.getElem_append_left hj
    have hmem : as[j] ∈ rings.filter isExterior := by
      rw [hsplit]
      exact List.mem_append_left _ (List.getElem_mem hj)
    simpa [hget, htest _ hmem] using has _ (List.getElem_mem hj)

/-- **No hole is dropped.** The loop over the holes gives each exterior the holes it owns. -/
theorem MaskRings.assignHoles_foldlM {holes : List Ring} (hholes : ∀ w ∈ holes, w ∈ rings)
    (hnot : ∀ w ∈ holes, isExterior w = false) (F : Ring → List LineString) :
    holes.foldlM (assignHole contains geo ((rings.filter isExterior).map (exteriorPoly geo)))
      ((rings.filter isExterior).map F) =
    .ok ((rings.filter isExterior).map fun t =>
      F t ++ (holes.filter fun w => decide (owner rings w = some t)).map fun w =>
        toGeoCoords w geo) := by
  induction holes generalizing F with
  | nil => simp; rfl
  | cons w holes ih =>
    have hw := hholes w (by simp)
    have hhole := hnot w (by simp)
    obtain ⟨start, hstart⟩ := h.exists_head hw
    obtain ⟨t, as, bs, ho, hsplit, hidx⟩ := h.holeOwner_eq hgeo hc hw hhole hstart
    have hhead : (toGeoCoords w geo).head? = some (cornerCoord geo start) := by
      rw [toGeoCoords, List.head?_map, Option.mem_def.1 hstart]
      rfl
    have hn : (rings.filter isExterior).Nodup := h.nodup.filter _
    rw [List.foldlM_cons, assignHole, hhead]
    simp only [hidx, ok_bind, modify_map_of_split hsplit hn]
    rw [ih (fun w hw => hholes w (by simp [hw])) (fun w hw => hnot w (by simp [hw]))]
    congr 1
    refine List.map_congr_left fun t' _ => ?_
    by_cases ht : t' = t
    · simp [ht, ho]
    · have : ¬t = t' := fun heq => ht heq.symm
      simp [ht, ho, this]

/-- **What `polygonize` returns.** -/
theorem MaskRings.polygonize_eq (hrun : assembleRings (extractEdges mask) = .ok rings)
    (hne : extractEdges mask ≠ []) : polygonize contains mask geo =
      .ok (some ((rings.filter isExterior).map (ringPolygon rings geo))) := by
  have hext : (rings.filter isExterior).isEmpty = false := by
    obtain ⟨t, ht⟩ := h.exists_exterior hne
    rw [Bool.eq_false_iff, ne_eq, List.isEmpty_iff]
    exact List.ne_nil_of_mem ht
  have hmem : ∀ w ∈ rings.filter fun w => !isExterior w, w ∈ rings := fun w hw =>
    (List.mem_filter.1 hw).1
  have hassign := h.assignHoles_foldlM hgeo hc hmem
    (fun w hw => by simpa using (List.mem_filter.1 hw).2) fun _ => []
  have hinit : List.replicate ((rings.filter isExterior).map (exteriorPoly geo)).length [] =
      (rings.filter isExterior).map fun _ => ([] : List LineString) := by
    rw [List.length_map, List.map_const']
  have hedges : (extractEdges mask).isEmpty = false := by simpa using hne
  have hpolys : ((rings.filter isExterior).map fun ext => Polygon.new (toGeoCoords ext geo) []) =
      (rings.filter isExterior).map (exteriorPoly geo) := rfl
  simp only [polygonize, hedges, hrun, ok_bind, hext, assignHoles, hpolys, hinit, hassign]
  simp only [Bool.false_eq_true, if_false, List.nil_append, List.zipWith_map,
    List.zipWith_self]
  rfl

end rings

/-- **`polygonize` returns polygons** for every mask with a cell, whatever the geo-transform and
the containment test. -/
theorem exists_polygonize (contains : Polygon → Coord → Bool) {mask : CatchmentMask}
    (geo : GeoTransform) (hne : extractEdges mask ≠ []) :
    ∃ polygons, polygonize contains mask geo = .ok (some polygons) := by
  obtain ⟨rings, hrun, h⟩ := exists_rings mask
  obtain ⟨t, ht⟩ := h.exists_exterior hne
  have hext : (rings.filter isExterior).isEmpty = false := by
    rw [Bool.eq_false_iff, ne_eq, List.isEmpty_iff]
    exact List.ne_nil_of_mem ht
  have hassign : ∀ (polys : List Polygon) (holes : List Ring) (acc : List (List LineString)),
      (∀ w ∈ holes, w ∈ rings) →
        ∃ acc', holes.foldlM (assignHole contains geo polys) acc = .ok acc' := by
    intro polys holes
    induction holes with
    | nil => exact fun acc _ => ⟨acc, rfl⟩
    | cons w holes ih =>
      intro acc hmem
      obtain ⟨start, hstart⟩ := h.exists_head (hmem w (by simp))
      have hhead : (toGeoCoords w geo).head? = some (cornerCoord geo start) := by
        rw [toGeoCoords, List.head?_map, Option.mem_def.1 hstart]
        rfl
      obtain ⟨acc', hstep⟩ : ∃ acc', assignHole contains geo polys acc w = .ok acc' := by
        simp only [assignHole, hhead]
        cases holeOwner contains polys (cornerCoord geo start) <;> exact ⟨_, rfl⟩
      rw [List.foldlM_cons, hstep, ok_bind]
      exact ih acc' fun w hw => hmem w (by simp [hw])
  obtain ⟨polygonHoles, hholes⟩ := hassign
    ((rings.filter isExterior).map fun ext => Polygon.new (toGeoCoords ext geo) [])
    (rings.filter fun w => !isExterior w)
    (List.replicate ((rings.filter isExterior).map fun ext =>
      Polygon.new (toGeoCoords ext geo) []).length [])
    fun w hw => (List.mem_filter.1 hw).1
  have hedges : (extractEdges mask).isEmpty = false := by simpa using hne
  refine ⟨List.zipWith normalisePolygon
    ((rings.filter isExterior).map fun ext => Polygon.new (toGeoCoords ext geo) []) polygonHoles, ?_⟩
  simp only [polygonize, hedges, hrun, ok_bind, hext, assignHoles, hholes]
  rfl

/-! ## Coverage -/

/-- The line string is the ring, in one of its two directions. -/
def Traces (geo : GeoTransform) (w : Ring) (ls : LineString) : Prop :=
  ls = toGeoCoords w geo ∨ ls = (toGeoCoords w geo).reverse

theorem Traces.evenOdd_eq {geo : GeoTransform} {w : Ring} {ls : LineString} (h : Traces geo w ls)
    (p : Coord) : ls.evenOdd p = (toGeoCoords w geo).evenOdd p := by
  rcases h with rfl | rfl
  · rfl
  · exact LineString.evenOdd_reverse _ p

theorem traces_close {geo : GeoTransform} {w : Ring} (hw : Closed w) (b : Prop) [Decidable b] :
    Traces geo w (LineString.close (if b then (toGeoCoords w geo).reverse else toGeoCoords w geo)) := by
  have hclosed : Closed (toGeoCoords w geo) := hw.map _
  split_ifs
  · exact Or.inr (LineString.close_of_closed hclosed.reverse)
  · exact Or.inl (LineString.close_of_closed hclosed)

theorem Traces.closed {geo : GeoTransform} {w : Ring} {ls : LineString} (h : Traces geo w ls)
    (hw : Closed w) : Closed ls := by
  have hclosed : Closed (toGeoCoords w geo) := hw.map _
  rcases h with rfl | rfl
  · exact hclosed
  · exact hclosed.reverse

section rings

variable {mask : CatchmentMask} {rings : List Ring} (h : MaskRings mask rings) (geo : GeoTransform)

include h

/-- A polygon traces its exterior and the holes it owns. -/
theorem MaskRings.ringPolygon_eq {t : Ring} (ht : t ∈ rings) :
    ∃ (ext : LineString) (g : Ring → LineString),
      ringPolygon rings geo t = ⟨ext, (ownedHoles rings t).map g⟩ ∧ Traces geo t ext ∧
        ∀ w ∈ ownedHoles rings t, Traces geo w (g w) := by
  have hext : (exteriorPoly geo t).exterior = toGeoCoords t geo :=
    LineString.close_of_closed ((h.closed t ht).map _)
  refine ⟨_, _, by rw [ringPolygon, normalisePolygon, Polygon.new, List.map_map, List.map_map],
    ?_, fun w hw => ?_⟩
  · rw [hext]
    exact traces_close (h.closed t ht) _
  · exact traces_close (h.closed w (List.mem_filter.1 (List.mem_filter.1 hw).1).1) _

variable {geo} (hgeo : geo.NorthUp)

include hgeo

theorem MaskRings.evenOdd_centre_iff {w : Ring} (hw : w ∈ rings) {ls : LineString}
    (hls : Traces geo w ls) (cell : GridCoord) :
    ls.evenOdd (cellCentre geo cell) = true ↔
      winding (segments (loop w)) (cell.row, cell.col) ≠ 0 := by
  rw [hls.evenOdd_eq, h.evenOdd_iff hw (seenFrom_centre hgeo cell)]

theorem MaskRings.ringPolygon_covers {t : Ring} (ht : t ∈ rings) (cell : GridCoord) :
    (ringPolygon rings geo t).covers (cellCentre geo cell) = true ↔
      winding (segments (loop t)) (cell.row, cell.col) ≠ 0 ∧
        ∀ w ∈ rings, isExterior w = false → owner rings w = some t →
          winding (segments (loop w)) (cell.row, cell.col) = 0 := by
  obtain ⟨ext, g, heq, hext, hholes⟩ := h.ringPolygon_eq geo ht
  rw [heq, Polygon.covers, Bool.and_eq_true, h.evenOdd_centre_iff hgeo ht hext]
  refine and_congr_right fun _ => ?_
  simp only [List.all_map, List.all_eq_true, Function.comp_apply, Bool.not_eq_true']
  constructor
  · intro hall w hw hhole ho
    have hown : w ∈ ownedHoles rings t := by simp [ownedHoles, hw, hhole, ho]
    by_contra hne
    have := hall w hown
    rw [(h.evenOdd_centre_iff hgeo hw (hholes w hown) cell).2 hne] at this
    cases this
  · intro hall w hown
    have hmem := List.mem_filter.1 hown
    obtain ⟨hw, hhole⟩ := List.mem_filter.1 hmem.1
    rw [Bool.eq_false_iff, ne_eq, h.evenOdd_centre_iff hgeo hw (hholes w hown), not_not]
    exact hall w hw (by simpa using hhole) (by simpa using hmem.2)

end rings

/-- Every cell centre inside the ring `inner` is inside the ring `outer`. -/
def Encloses (mask : CatchmentMask) (geo : GeoTransform) (outer inner : LineString) : Prop :=
  ∀ cell, mask.dims.Mem cell → inner.evenOdd (cellCentre geo cell) = true →
    outer.evenOdd (cellCentre geo cell) = true

/-- The polygons, read as point sets and united, are the mask. -/
structure CoversMask (mask : CatchmentMask) (geo : GeoTransform) (polygons : MultiPolygon) : Prop where
  covered : ∀ cell, mask.dims.Mem cell → mask.contains cell = true →
    ∃ poly ∈ polygons, poly.covers (cellCentre geo cell) = true
  uncovered : ∀ cell, mask.dims.Mem cell → mask.contains cell = false →
    ∀ poly ∈ polygons, poly.covers (cellCentre geo cell) = false
  unique : ∀ cell, mask.dims.Mem cell →
    polygons.countP (fun poly => poly.covers (cellCentre geo cell)) ≤ 1
  /-- The exterior of a hole's polygon encloses it, and no other exterior is in between. -/
  attached : ∀ poly ∈ polygons, ∀ hole ∈ poly.interiors, Encloses mask geo poly.exterior hole ∧
    ∀ poly' ∈ polygons, Encloses mask geo poly'.exterior hole →
      Encloses mask geo poly'.exterior poly.exterior

/-- No hole of the list is inside another one. -/
def NoNestedHoles (rings : List Ring) : Prop :=
  ∀ w ∈ rings, isExterior w = false → ∀ w' ∈ rings, isExterior w' = false → w ≠ w' →
    ¬Inside (loop w) (loop w')

section rings

variable {mask : CatchmentMask} {rings : List Ring} (h : MaskRings mask rings) {geo : GeoTransform}
  (hgeo : geo.NorthUp)

include h

/-- Without nested holes a cell is inside at most one hole. -/
theorem MaskRings.card_holesAt_le_one (hnone : NoNestedHoles rings) (x : Point) :
    (holesAt rings x).card ≤ 1 := by
  refine Finset.card_le_one.2 fun w hw w' hw' => ?_
  obtain ⟨hw, hhole, hx⟩ := mem_holesAt.1 hw
  obtain ⟨hw', hhole', hx'⟩ := mem_holesAt.1 hw'
  by_contra hne
  rcases h.laminar hw hw' hne hx hx' with hin | hin
  · exact hnone w hw hhole w' hw' hhole' hne hin
  · exact hnone w' hw' hhole' w hw hhole (Ne.symm hne) hin

theorem MaskRings.owner_mem_exteriorsAt {w t : Ring} {x : Point} (hw : w ∈ holesAt rings x)
    (ho : owner rings w = some t) : t ∈ exteriorsAt rings x := by
  obtain ⟨hw, hhole, hx⟩ := mem_holesAt.1 hw
  obtain ⟨ht, hext, hin⟩ := owner_eq_some ho
  exact mem_exteriorsAt.2
    ⟨ht, hext, h.winding_ne_zero_of_inside hw ht (ne_of_isExterior hhole hext) hin hx⟩

include hgeo

/-- **Coverage without nested holes.** Each cell of the mask is in one polygon, and no other cell
is. -/
theorem MaskRings.countP_covers (hnone : NoNestedHoles rings) {cell : GridCoord}
    (hcell : mask.dims.Mem cell) :
    (rings.filter isExterior).countP
      (fun t => (ringPolygon rings geo t).covers (cellCentre geo cell)) =
        if mask.contains cell then 1 else 0 := by
  have hcard := h.card_exteriorsAt (cell.row, cell.col)
  rw [mask.region_natCast hcell.1 hcell.2] at hcard
  have hset : (rings.filter isExterior).countP
      (fun t => (ringPolygon rings geo t).covers (cellCentre geo cell)) =
        ((exteriorsAt rings (cell.row, cell.col)).filter fun t =>
          ∀ w ∈ holesAt rings (cell.row, cell.col), owner rings w ≠ some t).card := by
    rw [List.countP_eq_length_filter, ← List.toFinset_card_of_nodup ((h.nodup.filter _).filter _)]
    congr 1
    ext t
    simp only [List.mem_toFinset, List.mem_filter, Finset.mem_filter, mem_exteriorsAt, mem_holesAt]
    constructor
    · rintro ⟨⟨ht, hext⟩, hcov⟩
      obtain ⟨hx, hall⟩ := (h.ringPolygon_covers hgeo ht cell).1 hcov
      exact ⟨⟨ht, hext, hx⟩, fun w ⟨hw, hhole, hwx⟩ ho => hwx (hall w hw hhole ho)⟩
    · rintro ⟨⟨ht, hext, hx⟩, hall⟩
      refine ⟨⟨ht, hext⟩, (h.ringPolygon_covers hgeo ht cell).2 ⟨hx, fun w hw hhole ho => ?_⟩⟩
      by_contra hwx
      exact hall w ⟨hw, hhole, hwx⟩ ho
  rw [hset]
  rcases Nat.le_one_iff_eq_zero_or_eq_one.1 (h.card_holesAt_le_one hnone (cell.row, cell.col)) with
    hzero | hone
  · rw [Finset.card_eq_zero] at hzero
    rw [hzero, Finset.filter_true_of_mem (by simp), hcard, hzero]
    simp
  · obtain ⟨w, hw⟩ := Finset.card_eq_one.1 hone
    have hwmem : w ∈ holesAt rings (cell.row, cell.col) := by rw [hw]; simp
    obtain ⟨hwr, hhole, -⟩ := mem_holesAt.1 hwmem
    obtain ⟨t, ho⟩ := h.exists_owner hwr hhole
    have hfilter : ((exteriorsAt rings (cell.row, cell.col)).filter fun t =>
        ∀ w ∈ holesAt rings (cell.row, cell.col), owner rings w ≠ some t) =
          (exteriorsAt rings (cell.row, cell.col)).erase t := by
      ext s
      rw [hw]
      simp [ho, and_comm, eq_comm]
    rw [hfilter, Finset.card_erase_of_mem (h.owner_mem_exteriorsAt hwmem ho), hcard, hone]
    simp

/-- **A nested hole is covered.** Its first cell is outside the mask and in some polygon. -/
theorem MaskRings.exists_covers_of_nested {w w' : Ring} (hw : w ∈ rings) (hw' : w' ∈ rings)
    (hhole : isExterior w = false) (hhole' : isExterior w' = false) (hne : w ≠ w')
    (hin : Inside (loop w) (loop w')) :
    ∃ cell, mask.dims.Mem cell ∧ mask.contains cell = false ∧
      ∃ t ∈ rings, isExterior t = true ∧
        (ringPolygon rings geo t).covers (cellCentre geo cell) = true := by
  obtain ⟨r, c, hr, hr', hc, hc', ⟨-, hM, hx⟩, -⟩ := h.hole_start hw hhole
  lift r to ℕ using hr
  lift c to ℕ using hc
  have hcell : mask.dims.Mem ⟨r, c⟩ := ⟨by exact_mod_cast hr', by exact_mod_cast hc'⟩
  rw [mask.region_natCast hcell.1 hcell.2] at hM
  refine ⟨⟨r, c⟩, hcell, hM, ?_⟩
  by_contra hno
  push Not at hno
  -- Otherwise every exterior around the cell owns a hole around it. There are as many exteriors as
  -- holes, but two of the holes have the same owner.
  have hcard := h.card_exteriorsAt (r, c)
  rw [mask.region_natCast hcell.1 hcell.2, hM] at hcard
  have hwmem : w ∈ holesAt rings (r, c) := mem_holesAt.2 ⟨hw, hhole, hx⟩
  have hw'mem : w' ∈ holesAt rings (r, c) :=
    mem_holesAt.2 ⟨hw', hhole', h.winding_ne_zero_of_inside hw hw' hne hin hx⟩
  have hsub : (exteriorsAt rings (r, c)).image some ⊆
      ((holesAt rings (r, c)).erase w).image (owner rings) := by
    intro o ho
    obtain ⟨t, ht, rfl⟩ := Finset.mem_image.1 ho
    obtain ⟨htr, hext, htx⟩ := mem_exteriorsAt.1 ht
    have hnot : ¬∀ v ∈ rings, isExterior v = false → owner rings v = some t →
        winding (segments (loop v)) ((r : ℤ), (c : ℤ)) = 0 := fun hall =>
      hno t htr hext ((h.ringPolygon_covers hgeo htr ⟨r, c⟩).2 ⟨htx, hall⟩)
    push Not at hnot
    obtain ⟨v, hv, hvhole, hvo, hvx⟩ := hnot
    rw [Finset.mem_image]
    by_cases hvw : v = w
    · subst hvw
      exact ⟨w', Finset.mem_erase.2 ⟨hne.symm, hw'mem⟩,
        h.owner_eq_of_inside hv hw' hvhole hhole' hin hvo⟩
    · exact ⟨v, Finset.mem_erase.2 ⟨hvw, mem_holesAt.2 ⟨hv, hvhole, hvx⟩⟩, hvo⟩
  have hle := (Finset.card_le_card hsub).trans Finset.card_image_le
  rw [Finset.card_image_of_injective _ (Option.some_injective _),
    Finset.card_erase_of_mem hwmem] at hle
  have hpos := Finset.card_pos.2 ⟨w, hwmem⟩
  simp at hcard
  omega

/-- **Holes are attached** to the exterior that immediately encloses them, when none is nested. -/
theorem MaskRings.encloses_owner (hnone : NoNestedHoles rings) {t : Ring} (ht : t ∈ rings)
    {hole : LineString} (hmem : hole ∈ (ringPolygon rings geo t).interiors) :
    Encloses mask geo (ringPolygon rings geo t).exterior hole ∧
      ∀ s ∈ rings, isExterior s = true →
        Encloses mask geo (ringPolygon rings geo s).exterior hole → s = t := by
  obtain ⟨ext, g, heq, hext, hholes⟩ := h.ringPolygon_eq geo ht
  rw [heq] at hmem ⊢
  obtain ⟨w, hown, rfl⟩ := List.mem_map.1 hmem
  simp only [ownedHoles, List.mem_filter, Bool.not_eq_true', decide_eq_true_eq] at hown
  obtain ⟨⟨hw, hhole⟩, ho⟩ := hown
  obtain ⟨-, htext, hin⟩ := owner_eq_some ho
  have heven := h.evenOdd_centre_iff hgeo hw (hholes w (by simp [ownedHoles, hw, hhole, ho]))
  constructor
  · intro cell _ hcov
    rw [h.evenOdd_centre_iff hgeo ht hext]
    exact h.winding_ne_zero_of_inside hw ht (ne_of_isExterior hhole htext) hin ((heven cell).1 hcov)
  · intro s hs hsext hsenc
    obtain ⟨r, c, hr, hr', hc, hc', ⟨hadj, -, hx⟩, -⟩ := h.hole_start hw hhole
    lift r to ℕ using hr
    lift c to ℕ using hc
    have hcell : mask.dims.Mem ⟨r, c⟩ := ⟨by exact_mod_cast hr', by exact_mod_cast hc'⟩
    obtain ⟨ext', g', heq', hext', -⟩ := h.ringPolygon_eq geo hs
    rw [heq'] at hsenc
    have hsx := (h.evenOdd_centre_iff hgeo hs hext' ⟨r, c⟩).1 (hsenc _ hcell ((heven ⟨r, c⟩).2 hx))
    have hsin := (h.inside_iff hw hs (ne_of_isExterior hhole hsext) hadj).2 hsx
    have hso := (h.oneDeep_iff hw hhole).2 (hnone w hw hhole) s hs hsext hsin
    rw [ho] at hso
    exact (Option.some.inj hso).symm

/-- **The polygons cover the mask exactly when no hole is nested.** -/
theorem MaskRings.coversMask_iff :
    CoversMask mask geo ((rings.filter isExterior).map (ringPolygon rings geo)) ↔
      NoNestedHoles rings := by
  constructor
  · intro hcov w hw hhole w' hw' hhole' hne hin
    obtain ⟨cell, hcell, hfalse, t, ht, hext, htcov⟩ :=
      h.exists_covers_of_nested hgeo hw hw' hhole hhole' hne hin
    have := hcov.uncovered cell hcell hfalse _
      (List.mem_map_of_mem (List.mem_filter.2 ⟨ht, hext⟩))
    rw [htcov] at this
    cases this
  · intro hnone
    have hcount : ∀ cell, mask.dims.Mem cell →
        ((rings.filter isExterior).map (ringPolygon rings geo)).countP
          (fun poly => poly.covers (cellCentre geo cell)) = if mask.contains cell then 1 else 0 := by
      intro cell hcell
      rw [List.countP_map, ← h.countP_covers hgeo hnone hcell]
      rfl
    refine ⟨?_, ?_, ?_, ?_⟩
    · intro cell hcell htrue
      refine List.countP_pos_iff.1 ?_
      rw [hcount cell hcell, if_pos htrue]
      exact Nat.one_pos
    · intro cell hcell hfalse poly hpoly
      have := hcount cell hcell
      rw [hfalse, if_neg (by simp), List.countP_eq_zero] at this
      simpa using this poly hpoly
    · intro cell hcell
      rw [hcount cell hcell]
      split_ifs <;> simp
    · intro poly hpoly hole hmem
      obtain ⟨t, ht, rfl⟩ := List.mem_map.1 hpoly
      obtain ⟨henc, huniq⟩ := h.encloses_owner hgeo hnone (List.mem_filter.1 ht).1 hmem
      refine ⟨henc, fun poly' hpoly' henc' => ?_⟩
      obtain ⟨s, hs, rfl⟩ := List.mem_map.1 hpoly'
      obtain ⟨hs, hsext⟩ := List.mem_filter.1 hs
      rw [huniq s hs hsext henc']
      exact fun _ _ h => h

end rings

/-! ## The contract -/

/-- `polygonize` returns the mask as a point set; `None` stands for the empty multipolygon. -/
def PolygonizeExact (contains : Polygon → Coord → Bool) (mask : CatchmentMask)
    (geo : GeoTransform) : Prop :=
  ∃ out, polygonize contains mask geo = .ok out ∧ CoversMask mask geo (out.getD [])

/-- The first vertex of the hole is strictly inside the exterior. -/
def StartsInside (geo : GeoTransform) (hole ext : Ring) : Prop :=
  ∃ start ∈ hole.head?, (exteriorPoly geo ext).StrictInterior (cornerCoord geo start)

/-- No hole that is traced along the boundary of the mask starts inside two exteriors. -/
def HolesOneDeep (mask : CatchmentMask) (geo : GeoTransform) : Prop :=
  ∀ rings, assembleRings (extractEdges mask) = .ok rings →
    ∀ hole ∈ rings, isExterior hole = false →
      ∀ s ∈ rings, ∀ t ∈ rings, isExterior s = true → isExterior t = true →
        StartsInside geo hole s → StartsInside geo hole t → s = t

theorem MaskRings.startsInside_iff {mask : CatchmentMask} {rings : List Ring}
    (h : MaskRings mask rings) {geo : GeoTransform} (hgeo : geo.NorthUp) {w t : Ring} (hw : w ∈ rings)
    (ht : t ∈ rings) (hhole : isExterior w = false) (hext : isExterior t = true) :
    StartsInside geo w t ↔ Inside (loop w) (loop t) := by
  constructor
  · rintro ⟨start, hstart, hint⟩
    exact (h.strictInterior_start_iff hgeo hw ht hhole hext hstart).1 hint
  · intro hin
    obtain ⟨start, hstart⟩ := h.exists_head hw
    exact ⟨start, hstart, (h.strictInterior_start_iff hgeo hw ht hhole hext hstart).2 hin⟩

theorem MaskRings.holesOneDeep_iff {mask : CatchmentMask} {rings : List Ring}
    (h : MaskRings mask rings) (hrun : assembleRings (extractEdges mask) = .ok rings)
    {geo : GeoTransform} (hgeo : geo.NorthUp) : HolesOneDeep mask geo ↔ NoNestedHoles rings := by
  constructor
  · intro hone w hw hhole
    refine (h.oneDeep_iff hw hhole).1 fun t ht hext hin => ?_
    obtain ⟨s, ho⟩ := h.exists_owner hw hhole
    obtain ⟨hs, hsext, hsin⟩ := owner_eq_some ho
    rw [ho, hone rings hrun w hw hhole s hs t ht hsext hext
      ((h.startsInside_iff hgeo hw hs hhole hsext).2 hsin)
      ((h.startsInside_iff hgeo hw ht hhole hext).2 hin)]
  · intro hnone rings' hrun' w hw hhole s hs t ht hsext hext hsin htin
    obtain rfl : rings = rings' := by
      rw [hrun] at hrun'
      exact Except.ok.inj hrun'
    have hown := (h.oneDeep_iff hw hhole).2 (hnone w hw hhole)
    have h1 := hown s hs hsext ((h.startsInside_iff hgeo hw hs hhole hsext).1 hsin)
    have h2 := hown t ht hext ((h.startsInside_iff hgeo hw ht hhole hext).1 htin)
    rw [h1] at h2
    exact Option.some.inj h2

/-- **`polygonize` is exact as a point set** if and only if no hole starts inside two exteriors. -/
theorem polygonizeExact_iff {contains : Polygon → Coord → Bool}
    (hc : ContainsIsStrictInterior contains) (mask : CatchmentMask) {geo : GeoTransform}
    (hgeo : geo.NorthUp) : PolygonizeExact contains mask geo ↔ HolesOneDeep mask geo := by
  obtain ⟨rings, hrun, h⟩ := exists_rings mask
  rw [h.holesOneDeep_iff hrun hgeo, ← h.coversMask_iff hgeo]
  by_cases hnil : extractEdges mask = []
  · -- No boundary: there are no rings, and no polygons.
    have hrings : rings = [] := by
      refine List.eq_nil_iff_forall_not_mem.2 fun w hw => ?_
      obtain ⟨e, he⟩ := List.exists_mem_of_ne_nil _ (h.nonempty w hw)
      have := h.mem_of_mem hw he
      simp [hnil] at this
    have hout : polygonize contains mask geo = .ok none := by
      simp [polygonize, hnil]
      rfl
    simp [PolygonizeExact, hout, hrings]
  · have hout := h.polygonize_eq hgeo hc hrun hnil
    constructor
    · rintro ⟨out, hok, hcov⟩
      rw [hout] at hok
      obtain rfl := Except.ok.inj hok
      exact hcov
    · exact fun hcov => ⟨_, hout, hcov⟩

/-- A ring of cells around one empty cell. -/
def donut : CatchmentMask where
  data := [true, true, true, true, false, true, true, true, true]
  rows := 3
  cols := 3
  length_eq := rfl

theorem polygonizeExact_donut : PolygonizeExact strictInterior donut ⟨0, 0, 1, -1⟩ := by
  refine (polygonizeExact_iff containsIsStrictInterior_strictInterior donut (by decide)).2 ?_
  intro rings hrun w hw hhole s hs t ht hsext htext _ _
  -- The mask has a single exterior.
  have hone : (match assembleRings (extractEdges donut) with
      | .ok rings => (rings.filter isExterior).length
      | .error _ => 0) = 1 := by decide +kernel
  rw [hrun] at hone
  obtain ⟨a, ha⟩ := List.length_eq_one_iff.1 hone
  have hs' : s ∈ rings.filter isExterior := List.mem_filter.2 ⟨hs, hsext⟩
  have ht' : t ∈ rings.filter isExterior := List.mem_filter.2 ⟨ht, htext⟩
  rw [ha, List.mem_singleton] at hs' ht'
  rw [hs', ht']

/-- An island with a hole, in the hole of another component. -/
def nestedIsland : CatchmentMask where
  data := ["1111111", "1000001", "1011101", "1010101", "1011101", "1000001", "1111111"].flatMap
    fun row => row.toList.map fun c => c == '1'
  rows := 7
  cols := 7
  length_eq := by decide

/-- The hole of the inner island goes to the outer component, so its centre stays covered. -/
theorem not_polygonizeExact_nestedIsland :
    ¬PolygonizeExact strictInterior nestedIsland ⟨0, 0, 1, -1⟩ := by
  rintro ⟨out, hout, hcov⟩
  have hbad : (match polygonize strictInterior nestedIsland ⟨0, 0, 1, -1⟩ with
      | .ok out => (out.getD []).any fun poly => poly.covers (cellCentre ⟨0, 0, 1, -1⟩ ⟨3, 3⟩)
      | .error _ => false) = true := by decide +kernel
  rw [hout] at hbad
  obtain ⟨poly, hpoly, hin⟩ := List.any_eq_true.1 hbad
  have := hcov.uncovered ⟨3, 3⟩ (by decide) (by decide) poly hpoly
  rw [hin] at this
  cases this

end Pourpoint
