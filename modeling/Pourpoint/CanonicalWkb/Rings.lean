import Pourpoint.CanonicalWkb
import Pourpoint.Library.LeastRotation

/-!
# Canonical rings

A canonical ring depends on its vertices up to rotation, and on their direction only where the rounded area
is zero (`normalizeRing_eq_of_sameRing`); a canonical ring is its own canonical form
(`normalizeRing_intoLineString`).
-/

namespace Pourpoint.CanonicalWkb

open Library Std

/-! ## Orders -/

instance : TransOrd RoundedCoord :=
  inferInstanceAs (TransCmp (compareLex (compareOn RoundedCoord.x) (compareOn RoundedCoord.y)))

instance : LawfulEqOrd RoundedCoord where
  eq_of_compare h := by
    obtain ⟨hx, hy⟩ := compareLex_eq_eq.1 h
    exact RoundedCoord.ext (LawfulEqOrd.eq_of_compare hx) (LawfulEqOrd.eq_of_compare hy)

theorem compareCyclicSequence_eq (vertices : List RoundedCoord) (i j : ℕ) :
    compareCyclicSequence vertices i j =
      List.compareLex compare (vertices.rotate i) (vertices.rotate j) := by
  have hzip : (List.range vertices.length).map (fun offset =>
      compare vertices[(i + offset) % vertices.length]? vertices[(j + offset) % vertices.length]?) =
      List.zipWith compare (vertices.rotate i) (vertices.rotate j) := by
    refine List.ext_getElem (by simp) fun offset hoffset _ => ?_
    have hpos : 0 < vertices.length := by
      rw [List.length_map, List.length_range] at hoffset
      omega
    simp only [List.getElem_map, List.getElem_range, List.getElem_zipWith, List.getElem_rotate,
      List.getElem?_eq_getElem (Nat.mod_lt _ hpos), Nat.add_comm offset]
    rfl
  have hlength : compare vertices.length vertices.length = .eq := LawfulEqOrd.compare_eq_iff_eq.2 rfl
  rw [compareCyclicSequence, hzip, ← firstDifference_zipWith, List.length_rotate, List.length_rotate,
    hlength]

/-- **The least start.** -/
theorem isLeastRotation_rotateToTotalOrderStart (vertices : List RoundedCoord) :
    IsLeastRotation compare vertices (rotateToTotalOrderStart vertices) := by
  unfold rotateToTotalOrderStart
  split_ifs with hshort
  · refine ⟨.refl _, ?_⟩
    rintro r' ⟨n, rfl⟩
    have hrotate : vertices.rotate n = vertices := by
      match vertices, hshort with
      | [], _ => exact List.rotate_nil n
      | [v], _ => exact List.rotate_singleton v n
    have hself : List.compareLex compare vertices vertices = .eq := ReflCmp.compare_self
    rw [hrotate, hself]
    rfl
  · simp only [compareCyclicSequence_eq]
    have hne : vertices ≠ [] := by
      rintro rfl
      exact hshort (Nat.zero_le 1)
    obtain ⟨hmem, -⟩ := foldl_smallest (List.compareLex compare) vertices.rotate 0
      (List.range' 1 (vertices.length - 1))
    rw [List.mem_cons, List.mem_range'_1] at hmem
    rw [← List.rotate_eq_drop_append_take (by omega)]
    exact isLeastRotation_foldl hne

theorem rotateToTotalOrderStart_eq {vertices vertices' : List RoundedCoord}
    (h : vertices.IsRotated vertices') :
    rotateToTotalOrderStart vertices = rotateToTotalOrderStart vertices' :=
  (isLeastRotation_rotateToTotalOrderStart vertices).unique
    (isLeastRotation_rotateToTotalOrderStart vertices') h

/-! ## Areas -/

theorem signedAreaTwice_rotate (vertices : List RoundedCoord) (n : ℕ) :
    signedAreaTwice (vertices.rotate n) = signedAreaTwice vertices := by
  unfold signedAreaTwice
  rw [List.length_rotate]
  split_ifs
  · rfl
  · rw [List.rotate_rotate, Nat.add_comm n 1, ← List.rotate_rotate,
      ← List.zipWith_rotate_distrib cross vertices (vertices.rotate 1) n (by rw [List.length_rotate])]
    exact (List.rotate_perm _ n).sum_eq

theorem cross_swap (left right : RoundedCoord) : cross right left = -cross left right := by
  unfold cross
  ring

/-- The area of the other direction. -/
theorem signedAreaTwice_reverse (vertices : List RoundedCoord) :
    signedAreaTwice vertices.reverse = -signedAreaTwice vertices := by
  unfold signedAreaTwice
  rw [List.length_reverse]
  split_ifs
  · rfl
  · have hturn : List.zipWith cross (vertices.rotate 1) vertices =
        (List.zipWith cross vertices (vertices.rotate 1)).map (negAddMonoidHom : ℤ →+ ℤ) := by
      rw [List.map_zipWith, List.zipWith_comm]
      exact congrArg (fun f => List.zipWith f vertices (vertices.rotate 1))
        (funext fun left => funext fun right => cross_swap left right)
    have hrotate : (vertices.rotate (vertices.length - 1)).rotate 1 = vertices := by
      rw [List.rotate_rotate, Nat.sub_add_cancel (by omega), List.rotate_length]
    rw [List.rotate_reverse, Nat.mod_eq_of_lt (by omega), ← List.reverse_zipWith (by simp),
      List.sum_reverse, ← (List.rotate_perm _ 1).sum_eq,
      List.zipWith_rotate_distrib _ _ _ _ (by simp), hrotate, hturn, ← map_list_sum]
    rfl

theorem signedAreaTwice_eq {vertices vertices' : List RoundedCoord} (h : vertices.IsRotated vertices') :
    signedAreaTwice vertices = signedAreaTwice vertices' := by
  obtain ⟨n, rfl⟩ := h
  exact (signedAreaTwice_rotate vertices n).symm

theorem isRotated_orient {vertices vertices' : List RoundedCoord} (h : vertices.IsRotated vertices')
    (orientation : RingOrientation) :
    (orient orientation vertices).IsRotated (orient orientation vertices') := by
  unfold orient
  rw [signedAreaTwice_eq h]
  cases orientation with
  | exterior =>
    dsimp only
    split_ifs
    exacts [h.reverse, h]
  | hole =>
    dsimp only
    split_ifs
    exacts [h.reverse, h]

theorem orient_reverse {vertices : List RoundedCoord} (h : signedAreaTwice vertices ≠ 0)
    (orientation : RingOrientation) : orient orientation vertices.reverse = orient orientation vertices := by
  unfold orient
  rw [signedAreaTwice_reverse, List.reverse_reverse]
  cases orientation with
  | exterior =>
    dsimp only
    split_ifs <;> first | rfl | omega
  | hole =>
    dsimp only
    split_ifs <;> first | rfl | omega

theorem orient_orient (orientation : RingOrientation) (vertices : List RoundedCoord) :
    orient orientation (orient orientation vertices) = orient orientation vertices := by
  have hreverse := signedAreaTwice_reverse vertices
  unfold orient
  cases orientation with
  | exterior =>
    dsimp only
    split_ifs <;> first | rfl | omega
  | hole =>
    dsimp only
    split_ifs <;> first | rfl | omega

/-! ## Changes of a ring -/

/-- The closed ring of these vertices. -/
def ringOf (vertices : List Coord) : LineString := vertices ++ vertices.head?.toList

/-- A closed ring from another start, or a ring of some rounded area in the other direction. -/
inductive RingStep : LineString → LineString → Prop
  | rotate (vertices : List Coord) (n : ℕ) : RingStep (ringOf vertices) (ringOf (vertices.rotate n))
  | reverse {ring : LineString} : signedAreaTwice (ringVertices ring) ≠ 0 → RingStep ring ring.reverse

/-- The rings differ in their start and their direction. -/
def SameRing : LineString → LineString → Prop := Relation.ReflTransGen RingStep

theorem head?_closeVertices (vertices : List RoundedCoord) :
    (closeVertices vertices).head? = (closeVertices vertices).getLast? := by
  cases vertices with
  | nil => rfl
  | cons v vertices =>
    have hclose : closeVertices (v :: vertices) = (v :: vertices) ++ [v] := rfl
    rw [hclose, List.getLast?_concat]
    rfl

theorem ringVertices_eq {ring : LineString} {vertices : List RoundedCoord}
    (h : ring.map RoundedCoord.fromCoord = closeVertices vertices) : ringVertices ring = vertices := by
  unfold ringVertices
  rw [h, if_pos (head?_closeVertices vertices), dropLast_closeVertices]

theorem ringVertices_ringOf (vertices : List Coord) :
    ringVertices (ringOf vertices) = vertices.map RoundedCoord.fromCoord := by
  refine ringVertices_eq ?_
  cases vertices with
  | nil => rfl
  | cons c vertices => simp [ringOf, closeVertices]

/-- The other direction of a ring, up to its start. -/
theorem isRotated_ringVertices_reverse (ring : LineString) :
    (ringVertices ring.reverse).IsRotated (ringVertices ring).reverse := by
  unfold ringVertices
  simp only [List.map_reverse, List.head?_reverse, List.getLast?_reverse]
  split_ifs with hlast hfirst hfirst
  · rw [← List.tail_reverse]
    cases hring : ring.map RoundedCoord.fromCoord with
    | nil => exact .refl _
    | cons v vertices =>
      refine List.IsRotated.dropLast_tail (by simp) ?_
      rw [hring] at hlast
      have hhead := List.head?_eq_some_head (l := (v :: vertices).reverse) (by simp)
      have hgetLast := List.getLast?_eq_some_getLast (l := (v :: vertices).reverse) (by simp)
      rw [List.head?_reverse] at hhead
      rw [List.getLast?_reverse] at hgetLast
      rw [hhead, hgetLast] at hlast
      exact Option.some.inj hlast
  · exact absurd hlast.symm hfirst
  · exact absurd hfirst.symm hlast
  · exact .refl _

/-- The step: a change of a ring does not change its canonical form. -/
theorem RingStep.normalizeRing_eq {ring ring' : LineString} (h : RingStep ring ring')
    (orientation : RingOrientation) : normalizeRing ring orientation = normalizeRing ring' orientation := by
  have hvertices : (orient orientation (ringVertices ring)).IsRotated
      (orient orientation (ringVertices ring')) := by
    cases h with
    | rotate vertices n =>
      rw [ringVertices_ringOf, ringVertices_ringOf, List.map_rotate]
      exact isRotated_orient ⟨n, rfl⟩ orientation
    | reverse harea =>
      rw [← orient_reverse harea]
      exact isRotated_orient (isRotated_ringVertices_reverse ring).symm orientation
  simp only [normalizeRing, rotateToTotalOrderStart_eq hvertices]

/-- **Canonical rings.** -/
theorem normalizeRing_eq_of_sameRing {ring ring' : LineString} (h : SameRing ring ring')
    (orientation : RingOrientation) : normalizeRing ring orientation = normalizeRing ring' orientation := by
  induction h with
  | refl => rfl
  | tail _ hstep ih => exact ih.trans (hstep.normalizeRing_eq orientation)

/-! ## Rings that are canonical -/

theorem roundHalfAway_intCast (n : ℤ) : F64.roundHalfAway n = n := by
  have hfloor : ∀ m : ℤ, ⌊(m : ℚ) + 1 / 2⌋ = m := by
    intro m
    rw [Int.floor_intCast_add]
    norm_num
  unfold F64.roundHalfAway
  split_ifs
  · exact hfloor n
  · rw [← Int.cast_neg, hfloor, neg_neg]

theorem fromCoord_intoCoord (coord : RoundedCoord) :
    RoundedCoord.fromCoord coord.intoCoord = coord := by
  have hround : ∀ n : ℤ, roundCoordinate (n / coordinateScale) = n := by
    intro n
    rw [roundCoordinate, div_mul_cancel₀ _ (by norm_num [coordinateScale]), roundHalfAway_intCast]
  exact RoundedCoord.ext (hround coord.x) (hround coord.y)

/-- **A canonical ring** is its own canonical form. -/
theorem normalizeRing_intoLineString (ring : LineString) (orientation : RingOrientation) :
    normalizeRing (normalizeRing ring orientation).intoLineString orientation =
      normalizeRing ring orientation := by
  have hleast := isLeastRotation_rotateToTotalOrderStart (orient orientation (ringVertices ring))
  have hvertices : ringVertices (normalizeRing ring orientation).intoLineString =
      rotateToTotalOrderStart (orient orientation (ringVertices ring)) := by
    refine ringVertices_eq ?_
    rw [CanonicalRing.intoLineString, List.map_map]
    exact (List.map_congr_left fun coord _ => fromCoord_intoCoord coord).trans (List.map_id _)
  have horient : (orient orientation (ringVertices ring)).IsRotated
      (orient orientation (rotateToTotalOrderStart (orient orientation (ringVertices ring)))) := by
    have h := isRotated_orient hleast.1 orientation
    rwa [orient_orient] at h
  refine CanonicalRing.ext (congrArg closeVertices ?_)
  rw [hvertices, ← rotateToTotalOrderStart_eq horient]

end Pourpoint.CanonicalWkb
