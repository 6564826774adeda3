import Pourpoint.RingGeometry

/-!
# Owners of holes

The owner search gives a hole to the first exterior around it. Exteriors are listed in row-major
order of their first vertices, so that is the *outermost* exterior around the hole
(`MaskRings.owner_outermost`). It always exists (`MaskRings.exists_owner`).

A hole inside another hole therefore shares its owner (`MaskRings.owner_eq_of_inside`), and a hole
has two exteriors around it exactly when it is inside another hole
(`MaskRings.oneDeep_iff`).
-/

namespace Pourpoint

open Lattice

instance (w t : List Point) : Decidable (Inside w t) :=
  inferInstanceAs (Decidable (∃ e ∈ segments w, winding (segments t) (leftCell e) ≠ 0))

/-- The first exterior around a hole. -/
def owner (rings : List Ring) (hole : Ring) : Option Ring :=
  (rings.filter isExterior).find? fun ext => decide (Inside (loop hole) (loop ext))

/-- The exteriors around a cell. -/
def exteriorsAt (rings : List Ring) (x : Point) : Finset Ring :=
  rings.toFinset.filter fun t => isExterior t = true ∧ winding (segments (loop t)) x ≠ 0

/-- The holes around a cell. -/
def holesAt (rings : List Ring) (x : Point) : Finset Ring :=
  rings.toFinset.filter fun w => isExterior w = false ∧ winding (segments (loop w)) x ≠ 0

theorem mem_exteriorsAt {rings : List Ring} {x : Point} {t : Ring} : t ∈ exteriorsAt rings x ↔
    t ∈ rings ∧ isExterior t = true ∧ winding (segments (loop t)) x ≠ 0 := by
  simp [exteriorsAt]

theorem mem_holesAt {rings : List Ring} {x : Point} {w : Ring} : w ∈ holesAt rings x ↔
    w ∈ rings ∧ isExterior w = false ∧ winding (segments (loop w)) x ≠ 0 := by
  simp [holesAt]

theorem owner_eq_some {rings : List Ring} {w t : Ring} (h : owner rings w = some t) :
    t ∈ rings ∧ isExterior t = true ∧ Inside (loop w) (loop t) := by
  have hmem := List.mem_filter.1 (List.mem_of_find?_eq_some h)
  exact ⟨hmem.1, hmem.2, by simpa using List.find?_some h⟩

theorem ne_of_isExterior {w t : Ring} (hw : isExterior w = false) (ht : isExterior t = true) :
    w ≠ t := by
  rintro rfl
  simp [hw] at ht

section rings

variable {mask : CatchmentMask} {rings : List Ring} (h : MaskRings mask rings)

include h

/-! ## Nesting of rings -/

theorem MaskRings.nodup : rings.Nodup := by
  have hflat := h.perm.nodup_iff.2 (nodup_extractEdges mask)
  refine (List.nodup_flatMap.1 hflat).2.imp_of_mem fun {w t} hw _ hd heq => ?_
  subst heq
  obtain ⟨e, he⟩ := List.exists_mem_of_ne_nil _ (h.nonempty w hw)
  exact hd he he

theorem MaskRings.inside_iff {w t : Ring} (hw : w ∈ rings) (ht : t ∈ rings) (hne : w ≠ t)
    {x : Point} (hx : Adjacent (loop w) x) :
    Inside (loop w) (loop t) ↔ winding (segments (loop t)) x ≠ 0 :=
  ⟨fun hin => hin.winding_of_adjacent (h.isLoop hw) (h.isLoop ht) (h.disjoint hw ht hne) hx,
    inside_of_adjacent (h.isLoop hw) (h.isLoop ht) (h.disjoint hw ht hne) hx⟩

/-- The first vertex of the enclosing ring comes strictly before that of the enclosed one. -/
theorem MaskRings.start_lt_of_inside {w t : Ring} (hw : w ∈ rings) (ht : t ∈ rings) (hne : w ≠ t)
    (hin : Inside (loop w) (loop t)) {p q : Point} (hp : p ∈ (loop w).head?)
    (hq : q ∈ (loop t).head?) : Precedes q p ∧ q ≠ p :=
  hin.precedes (h.isLoop hw) (h.isLoop ht) (h.disjoint hw ht hne) hp (fun _ => h.precedes hw hp)
    fun _ => h.precedes ht hq

theorem MaskRings.exists_start {w : Ring} (hw : w ∈ rings) : ∃ p, p ∈ (loop w).head? := by
  have hne := (h.isLoop hw).nonempty
  cases hl : loop w with
  | nil => simp [hl] at hne
  | cons p l => exact ⟨p, rfl⟩

theorem MaskRings.exists_head {w : Ring} (hw : w ∈ rings) : ∃ start, start ∈ w.head? := by
  obtain ⟨p, hp⟩ := h.exists_start hw
  rw [loop, List.head?_map] at hp
  obtain ⟨start, hstart, -⟩ := Option.mem_map.1 hp
  exact ⟨start, hstart⟩

theorem MaskRings.not_inside_symm {w t : Ring} (hw : w ∈ rings) (ht : t ∈ rings) (hne : w ≠ t)
    (hin : Inside (loop w) (loop t)) : ¬Inside (loop t) (loop w) := by
  intro hin'
  obtain ⟨p, hp⟩ := h.exists_start hw
  obtain ⟨q, hq⟩ := h.exists_start ht
  have h1 := h.start_lt_of_inside hw ht hne hin hp hq
  have h2 := h.start_lt_of_inside ht hw hne.symm hin' hq hp
  exact h1.2 (precedes_antisymm h1.1 h2.1)

/-- Nested interiors are included in each other. -/
theorem MaskRings.winding_ne_zero_of_inside {w t : Ring} (hw : w ∈ rings) (ht : t ∈ rings)
    (hne : w ≠ t) (hin : Inside (loop w) (loop t)) {x : Point}
    (hx : winding (segments (loop w)) x ≠ 0) : winding (segments (loop t)) x ≠ 0 :=
  hin.winding_ne_zero (h.isLoop hw) (h.isLoop ht) (h.disjoint hw ht hne) mask.inQuadrant_region
    (h.not_inside_symm hw ht hne hin) hx

theorem MaskRings.inside_trans {w t s : Ring} (ht : t ∈ rings) (hs : s ∈ rings) (hne : t ≠ s)
    (hwt : Inside (loop w) (loop t)) (hts : Inside (loop t) (loop s)) :
    Inside (loop w) (loop s) := by
  obtain ⟨e, he, hx⟩ := hwt
  exact ⟨e, he, h.winding_ne_zero_of_inside ht hs hne hts hx⟩

theorem MaskRings.laminar {w t : Ring} (hw : w ∈ rings) (ht : t ∈ rings) (hne : w ≠ t) {x : Point}
    (hwx : winding (segments (loop w)) x ≠ 0) (htx : winding (segments (loop t)) x ≠ 0) :
    Inside (loop w) (loop t) ∨ Inside (loop t) (loop w) :=
  Lattice.laminar (h.isLoop hw) (h.isLoop ht) (h.disjoint hw ht hne) mask.inQuadrant_region hwx htx

/-- **Exteriors and holes around a cell** differ by one exactly on the mask. -/
theorem MaskRings.card_exteriorsAt (x : Point) :
    (exteriorsAt rings x).card = (holesAt rings x).card + if mask.region x then 1 else 0 := by
  have hsum := h.isDecomposition.sum_winding mask.inQuadrant_region x
  rw [List.map_map, ← List.sum_toFinset _ h.nodup] at hsum
  have hcount : ∑ w ∈ rings.toFinset, winding (segments (loop w)) x =
      ((exteriorsAt rings x).card : ℤ) - (holesAt rings x).card := by
    rw [exteriorsAt, holesAt, Finset.card_filter, Finset.card_filter]
    push_cast
    rw [← Finset.sum_sub_distrib]
    refine Finset.sum_congr rfl fun w hw => ?_
    rcases h.winding_eq (List.mem_toFinset.1 hw) x with h0 | h0
    · simp [h0]
    · cases hext : isExterior w <;> simp [h0, hext]
  simp only [Function.comp_def] at hsum
  rw [hcount] at hsum
  split_ifs at hsum ⊢ <;> omega

/-! ## The first cell of a hole -/

/-- A hole starts next to a cell of the mask, which it does not enclose, and encloses the cell below
and right of its first vertex, which is not in the mask. -/
theorem MaskRings.hole_start {w : Ring} (hw : w ∈ rings) (hhole : isExterior w = false) :
    ∃ r c : ℤ, 0 ≤ r ∧ r < mask.rows ∧ 0 ≤ c ∧ c < mask.cols ∧
      (Adjacent (loop w) (r, c) ∧ mask.region (r, c) = false ∧
        winding (segments (loop w)) (r, c) ≠ 0) ∧
      (Adjacent (loop w) (r, c - 1) ∧ mask.region (r, c - 1) = true ∧
        winding (segments (loop w)) (r, c - 1) = 0) := by
  obtain ⟨r, c, l, hl, hmin⟩ := h.inner_of_not_isExterior hw hhole
  obtain ⟨hfalse, hW, hN, -⟩ := h.inner_corner hw hl
  have hedge : ((r, c), (r + 1, c)) ∈ segments (loop w) := by simp [hl]
  obtain ⟨i, j, hi, hj, hij⟩ := mask.exists_cell_of_region hW
  obtain ⟨i', j', hi', hj', hij'⟩ := mask.exists_cell_of_region hN
  simp only [Prod.mk.injEq] at hij hij'
  refine ⟨r, c, by omega, by omega, by omega, by omega,
    ⟨⟨_, hedge, Or.inl (by simp)⟩, hfalse, ?_⟩, ⟨_, hedge, Or.inr (by simp)⟩, hW, ?_⟩
  · rw [Inner.winding_first hl hmin (h.isLoop hw)]
    decide
  · exact winding_eq_zero_of_precedes hmin (by omega)

/-! ## Owners -/

/-- **Every hole has an exterior around it.** -/
theorem MaskRings.exists_owner {w : Ring} (hw : w ∈ rings) (hhole : isExterior w = false) :
    ∃ t, owner rings w = some t := by
  obtain ⟨r, c, -, -, -, -, -, hadj, hM, -⟩ := h.hole_start hw hhole
  have hcard := h.card_exteriorsAt (r, c - 1)
  rw [if_pos hM] at hcard
  obtain ⟨t, ht⟩ : (exteriorsAt rings (r, c - 1)).Nonempty := Finset.card_pos.1 (by omega)
  obtain ⟨htmem, hext, hx⟩ := mem_exteriorsAt.1 ht
  have hin := (h.inside_iff hw htmem (ne_of_isExterior hhole hext) hadj).2 hx
  rw [← Option.isSome_iff_exists, owner, List.find?_isSome]
  exact ⟨t, List.mem_filter.2 ⟨htmem, hext⟩, by simpa using hin⟩

theorem MaskRings.exists_exterior (hne : extractEdges mask ≠ []) :
    ∃ t, t ∈ rings.filter isExterior := by
  obtain ⟨e, he⟩ := List.exists_mem_of_ne_nil _ hne
  obtain ⟨w, hw, -⟩ := List.mem_flatMap.1 (h.perm.symm.subset he)
  cases hw' : isExterior w with
  | true => exact ⟨w, List.mem_filter.2 ⟨hw, hw'⟩⟩
  | false =>
    obtain ⟨t, ho⟩ := h.exists_owner hw hw'
    exact ⟨t, List.mem_filter.2 ⟨(owner_eq_some ho).1, (owner_eq_some ho).2.1⟩⟩

/-- **The owner is the outermost exterior around the hole.** -/
theorem MaskRings.owner_outermost {w t t' : Ring} (hw : w ∈ rings) (hhole : isExterior w = false)
    (ho : owner rings w = some t) (ht' : t' ∈ rings) (hext' : isExterior t' = true)
    (hin' : Inside (loop w) (loop t')) (hne : t' ≠ t) : Inside (loop t') (loop t) := by
  obtain ⟨ht, hext, hin⟩ := owner_eq_some ho
  obtain ⟨r, c, -, -, -, -, ⟨hadj, -, -⟩, -⟩ := h.hole_start hw hhole
  have hx := (h.inside_iff hw ht (ne_of_isExterior hhole hext) hadj).1 hin
  have hx' := (h.inside_iff hw ht' (ne_of_isExterior hhole hext') hadj).1 hin'
  rcases h.laminar ht' ht hne hx' hx with hgood | hbad
  · exact hgood
  -- `t` is found before `t'`, so its first vertex is not after that of `t'`.
  obtain ⟨-, as, bs, hsplit, has⟩ := List.find?_eq_some_iff_append.1 ho
  have hmem : t' ∈ bs := by
    have : t' ∈ rings.filter isExterior := List.mem_filter.2 ⟨ht', hext'⟩
    rw [hsplit] at this
    rcases List.mem_append.1 this with ha | hb
    · have := has t' ha
      simp [hin'] at this
    · exact (List.mem_cons.1 hb).resolve_left hne
  have hsorted := h.sorted.filter isExterior
  rw [hsplit] at hsorted
  have hle := (List.pairwise_cons.1 (List.pairwise_append.1 hsorted).2.1).1 t' hmem
  obtain ⟨p, hp⟩ := h.exists_start ht
  obtain ⟨q, hq⟩ := h.exists_start ht'
  have hlt := h.start_lt_of_inside ht ht' hne.symm hbad hp hq
  rw [loop, List.head?_map] at hp hq
  obtain ⟨p', hp', rfl⟩ := Option.mem_map.1 hp
  obtain ⟨q', hq', rfl⟩ := Option.mem_map.1 hq
  exact absurd (precedes_antisymm hlt.1 (precedes_toPoint.2 (hle p' hp' q' hq'))) hlt.2

/-- **Nested holes share their owner.** -/
theorem MaskRings.owner_eq_of_inside {w w' t : Ring} (hw : w ∈ rings) (hw' : w' ∈ rings)
    (hhole : isExterior w = false) (hhole' : isExterior w' = false)
    (hin : Inside (loop w) (loop w')) (ho : owner rings w = some t) : owner rings w' = some t := by
  obtain ⟨t', ho'⟩ := h.exists_owner hw' hhole'
  by_contra hno
  have htt : t' ≠ t := by
    rintro rfl
    exact hno ho'
  obtain ⟨ht, hext, -⟩ := owner_eq_some ho
  obtain ⟨ht', hext', hin'⟩ := owner_eq_some ho'
  have hnot' := ne_of_isExterior hhole' hext'
  have hwt' := h.inside_trans hw' ht' hnot' hin hin'
  have htt' := h.owner_outermost hw hhole ho ht' hext' hwt' htt
  have hw't := h.inside_trans ht' ht htt hin' htt'
  exact h.not_inside_symm ht' ht htt htt'
    (h.owner_outermost hw' hhole' ho' ht hext hw't htt.symm)

/-! ## Holes that are one deep -/

/-- A hole with two exteriors around it is inside another hole, and conversely. -/
theorem MaskRings.oneDeep_iff {w : Ring} (hw : w ∈ rings) (hhole : isExterior w = false) :
    (∀ t ∈ rings, isExterior t = true → Inside (loop w) (loop t) → owner rings w = some t) ↔
      ∀ w' ∈ rings, isExterior w' = false → w ≠ w' → ¬Inside (loop w) (loop w') := by
  obtain ⟨t, ho⟩ := h.exists_owner hw hhole
  obtain ⟨ht, hext, hin⟩ := owner_eq_some ho
  obtain ⟨r, c, -, -, -, -, -, hadj, hM, hzero⟩ := h.hole_start hw hhole
  have hcard := h.card_exteriorsAt (r, c - 1)
  rw [if_pos hM] at hcard
  have htmem : t ∈ exteriorsAt rings (r, c - 1) := mem_exteriorsAt.2
    ⟨ht, hext, (h.inside_iff hw ht (ne_of_isExterior hhole hext) hadj).1 hin⟩
  constructor
  · intro hone w' hw' hhole' hne hin'
    have hsub : exteriorsAt rings (r, c - 1) ⊆ {t} := by
      intro s hs
      obtain ⟨hs, hsext, hsx⟩ := mem_exteriorsAt.1 hs
      have := hone s hs hsext ((h.inside_iff hw hs (ne_of_isExterior hhole hsext) hadj).2 hsx)
      rw [ho] at this
      simpa using this.symm
    have hw'mem : w' ∈ holesAt rings (r, c - 1) :=
      mem_holesAt.2 ⟨hw', hhole', (h.inside_iff hw hw' hne hadj).1 hin'⟩
    have h1 := Finset.card_le_card hsub
    have h2 := Finset.card_pos.2 ⟨w', hw'mem⟩
    rw [Finset.card_singleton] at h1
    omega
  · intro hnone s hs hsext hsin
    have hempty : holesAt rings (r, c - 1) = ∅ := by
      refine Finset.eq_empty_of_forall_notMem fun w' hw'mem => ?_
      obtain ⟨hw', hhole', hx⟩ := mem_holesAt.1 hw'mem
      have hne : w ≠ w' := by
        rintro rfl
        exact hx hzero
      exact hnone w' hw' hhole' hne ((h.inside_iff hw hw' hne hadj).2 hx)
    rw [hempty, Finset.card_empty] at hcard
    have hsmem : s ∈ exteriorsAt rings (r, c - 1) := mem_exteriorsAt.2
      ⟨hs, hsext, (h.inside_iff hw hs (ne_of_isExterior hhole hsext) hadj).1 hsin⟩
    rw [ho, Finset.card_le_one.1 hcard.le t htmem s hsmem]

end rings

end Pourpoint
