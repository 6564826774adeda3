import Pourpoint.CanonicalWkb.Rings
import Pourpoint.Wkb

/-!
# Canonical multipolygons

The comparisons of rings and polygons are total orders in which ties are equal, so the sorts forget the
order of holes and polygons. With canonical rings this makes the output of `canonical_wkb_multi_polygon` one
for all writings of a multipolygon (`canonicalWkb_canonical`).
-/

namespace Pourpoint.CanonicalWkb

open Library Std

/-! ## Orders -/

instance : TransOrd RingBbox :=
  inferInstanceAs (TransCmp (compareLex (compareOn RingBbox.minX) (compareLex (compareOn RingBbox.minY)
    (compareLex (compareOn RingBbox.maxX) (compareOn RingBbox.maxY)))))

instance : Ord CanonicalRing := ⟨compareRing⟩

instance : TransOrd CanonicalRing :=
  inferInstanceAs (TransCmp (compareLex (compareOn CanonicalRing.bbox)
    (compareLex (compareOn CanonicalRing.signedAreaTwice) (compareOn CanonicalRing.openVertices))))

/-- Ties of `compare_ring` are equal. -/
instance : LawfulEqOrd CanonicalRing where
  compare_self := ReflCmp.compare_self
  eq_of_compare := by
    intro left right h
    have hopen : left.openVertices = right.openVertices :=
      LawfulEqOrd.eq_of_compare (Ordering.then_eq_eq.1 (Ordering.then_eq_eq.1 h).2).2
    refine CanonicalRing.ext ?_
    rw [← left.closed, ← right.closed]
    exact congrArg closeVertices hopen

theorem compareHoleSequences_eq (left right : List CanonicalRing) :
    compareHoleSequences left right = compare left right :=
  firstDifference_zipWith left right

theorem comparePolygon_eq : comparePolygon =
    compareLex (compareOn fun polygon => polygon.exterior.bbox)
      (compareLex (compareOn CanonicalPolygon.areaTwice)
        (compareLex (compareOn fun polygon => polygon.holes.length)
          (compareLex (compareOn fun polygon => polygon.exterior.openVertices)
            (compareOn CanonicalPolygon.holes)))) := by
  funext left right
  simp only [comparePolygon, compareHoleSequences_eq]
  rfl

instance : TransCmp comparePolygon := by
  rw [comparePolygon_eq]
  infer_instance

/-- Ties of `compare_polygon` are equal. -/
theorem eq_of_comparePolygon {left right : CanonicalPolygon} (h : comparePolygon left right = .eq) :
    left = right := by
  rw [comparePolygon_eq] at h
  obtain ⟨-, h⟩ := compareLex_eq_eq.1 h
  obtain ⟨-, h⟩ := compareLex_eq_eq.1 h
  obtain ⟨-, h⟩ := compareLex_eq_eq.1 h
  obtain ⟨hopen, hholes⟩ := compareLex_eq_eq.1 h
  obtain ⟨⟨vertices, hclosed⟩, holes⟩ := left
  obtain ⟨⟨vertices', hclosed'⟩, holes'⟩ := right
  have hvertices : vertices.dropLast = vertices'.dropLast := LawfulEqOrd.eq_of_compare hopen
  obtain rfl : vertices = vertices' := by rw [← hclosed, hvertices, hclosed']
  obtain rfl : holes = holes' := LawfulEqOrd.eq_of_compare hholes
  rfl

theorem sortBy_compareRing {rings rings' : List CanonicalRing} (h : rings.Perm rings') :
    sortBy compareRing rings = sortBy compareRing rings' := by
  have hties : ∀ a ∈ rings, ∀ b ∈ rings, compare a b = .eq → a = b :=
    fun _ _ _ _ => LawfulEqOrd.eq_of_compare
  exact (sortBy_eq_of_perm hties h).symm

theorem sortBy_comparePolygon {polygons polygons' : List CanonicalPolygon} (h : polygons.Perm polygons') :
    sortBy comparePolygon polygons = sortBy comparePolygon polygons' :=
  (sortBy_eq_of_perm (fun _ _ _ _ => eq_of_comparePolygon) h).symm

/-! ## Changes of a multipolygon -/

/-- The polygons differ in the order of their holes, and in the start and direction of their rings. -/
structure SamePolygon (polygon polygon' : Polygon) : Prop where
  exterior : SameRing polygon.exterior polygon'.exterior
  interiors : ∃ interiors, polygon.interiors.Perm interiors ∧
    List.Forall₂ SameRing interiors polygon'.interiors

/-- The multipolygons differ in the order of their polygons, and otherwise as `SamePolygon`. -/
def SameMultiPolygon (mp mp' : MultiPolygon) : Prop :=
  ∃ polygons, mp.Perm polygons ∧ List.Forall₂ SamePolygon polygons mp'

theorem map_eq_of_forall₂ {α β : Type} {R : α → α → Prop} {f : α → β} {l l' : List α}
    (hf : ∀ a b, R a b → f a = f b) (h : List.Forall₂ R l l') : l.map f = l'.map f := by
  induction h with
  | nil => rfl
  | cons hab _ ih => rw [List.map_cons, List.map_cons, hf _ _ hab, ih]

theorem normalizePolygon_eq {polygon polygon' : Polygon} (h : SamePolygon polygon polygon') :
    normalizePolygon polygon = normalizePolygon polygon' := by
  obtain ⟨interiors, hperm, hsame⟩ := h.interiors
  have hholes : interiors.map (fun ring => normalizeRing ring .hole) =
      polygon'.interiors.map fun ring => normalizeRing ring .hole :=
    map_eq_of_forall₂ (fun _ _ hring => normalizeRing_eq_of_sameRing hring .hole) hsame
  simp only [normalizePolygon, normalizeRing_eq_of_sameRing h.exterior,
    sortBy_compareRing (hperm.map fun ring => normalizeRing ring .hole), hholes]

/-- **One canonical form.** -/
theorem normalized_eq {mp mp' : MultiPolygon} (h : SameMultiPolygon mp mp') :
    normalized mp = normalized mp' := by
  obtain ⟨polygons, hperm, hsame⟩ := h
  have hmap : polygons.map normalizePolygon = mp'.map normalizePolygon :=
    map_eq_of_forall₂ (fun _ _ => normalizePolygon_eq) hsame
  rw [normalized, normalized, sortBy_comparePolygon (hperm.map normalizePolygon), hmap]

/-! ## Canonical multipolygons -/

theorem intoPolygon_eq (polygon : CanonicalPolygon) :
    polygon.intoPolygon = ⟨polygon.exterior.intoLineString,
      polygon.holes.map CanonicalRing.intoLineString⟩ := by
  have hclosed : ∀ ring : CanonicalRing, ring.intoLineString.close = ring.intoLineString := by
    intro ring
    refine LineString.close_of_closed ?_
    have hhead := head?_closeVertices ring.vertices.dropLast
    rw [ring.closed] at hhead
    rw [Lattice.Closed, CanonicalRing.intoLineString, List.head?_map, List.getLast?_map, hhead]
  simp only [CanonicalPolygon.intoPolygon, Polygon.new, hclosed, List.map_map, Function.comp_def]

/-- A canonical polygon is its own canonical form. -/
theorem normalizePolygon_intoPolygon (polygon : Polygon) :
    normalizePolygon (normalizePolygon polygon).intoPolygon = normalizePolygon polygon := by
  have hholes : (normalizePolygon polygon).holes.map (fun ring => normalizeRing ring.intoLineString .hole) =
      (normalizePolygon polygon).holes := by
    refine (List.map_congr_left fun hole hhole => ?_).trans (List.map_id _)
    obtain ⟨ring, -, rfl⟩ := List.mem_map.1 (perm_sortBy.mem_iff.1 hhole)
    exact normalizeRing_intoLineString ring .hole
  have hsorted : sortBy compareRing (normalizePolygon polygon).holes = (normalizePolygon polygon).holes :=
    sortBy_compareRing perm_sortBy
  rw [intoPolygon_eq]
  have hexterior : normalizeRing (normalizePolygon polygon).exterior.intoLineString .exterior =
      (normalizePolygon polygon).exterior := normalizeRing_intoLineString polygon.exterior .exterior
  rw [normalizePolygon, List.map_map]
  simp only [Function.comp_def, hexterior, hholes, hsorted]

/-- **A canonical multipolygon** is its own canonical form. -/
theorem normalized_normalized (mp : MultiPolygon) : normalized (normalized mp) = normalized mp := by
  have hpolygons : (sortBy comparePolygon (mp.map normalizePolygon)).map
      (normalizePolygon ∘ CanonicalPolygon.intoPolygon) =
      sortBy comparePolygon (mp.map normalizePolygon) := by
    refine (List.map_congr_left fun canonical hcanonical => ?_).trans (List.map_id _)
    obtain ⟨polygon, -, rfl⟩ := List.mem_map.1 (perm_sortBy.mem_iff.1 hcanonical)
    exact normalizePolygon_intoPolygon polygon
  have hsorted : sortBy comparePolygon (sortBy comparePolygon (mp.map normalizePolygon)) =
      sortBy comparePolygon (mp.map normalizePolygon) := sortBy_comparePolygon perm_sortBy
  simp only [normalized, List.map_map, hpolygons, hsorted]

section

variable {ε : Type} {encodeWkbMultiPolygon : MultiPolygon → Except ε (List UInt8)}
  {decode : List UInt8 → Option MultiPolygon}

/-- The encoding of a multipolygon is read back. -/
def ReadsBack (encodeWkbMultiPolygon : MultiPolygon → Except ε (List UInt8))
    (decode : List UInt8 → Option MultiPolygon) (mp : MultiPolygon) : Prop :=
  ∀ bytes, encodeWkbMultiPolygon mp = .ok bytes → decode bytes = some mp

/-- **Canonical WKB.** The bytes do not depend on the order of polygons and holes, on the start of a closed
ring, or on the direction of a ring around some rounded area; and where the encoding of a canonical
multipolygon is read back, the canonical WKB of what is read is the same. -/
theorem canonicalWkb_canonical (mp : MultiPolygon) :
    (∀ mp', SameMultiPolygon mp mp' → canonicalWkbMultiPolygon encodeWkbMultiPolygon mp' =
      canonicalWkbMultiPolygon encodeWkbMultiPolygon mp) ∧
    (ReadsBack encodeWkbMultiPolygon decode (normalized mp) →
      ∀ bytes, canonicalWkbMultiPolygon encodeWkbMultiPolygon mp = .ok bytes →
        ∃ decoded, decode bytes = some decoded ∧
          canonicalWkbMultiPolygon encodeWkbMultiPolygon decoded = .ok bytes) := by
  refine ⟨fun mp' hsame => ?_, fun hdecode bytes hbytes => ⟨normalized mp, hdecode bytes hbytes, ?_⟩⟩
  · rw [canonicalWkbMultiPolygon, canonicalWkbMultiPolygon, normalized_eq hsame]
  · rw [canonicalWkbMultiPolygon, normalized_normalized]
    exact hbytes

end

/-! ### A triangle, and its WKB -/

def positionOf (c : Coord) : Wkb.Position := ((F64.finite c.x).toBits, (F64.finite c.y).toBits)

def ringsOf (polygon : Polygon) : List (List Wkb.Position) :=
  (polygon.exterior :: polygon.interiors).map (·.map positionOf)

/-- The WKB of a multipolygon whose coordinates are doubles. -/
def wkbMultiPolygon (mp : MultiPolygon) : Except String (List UInt8) :=
  .ok (Wkb.writeMultiPolygon (mp.map ringsOf))

/-- The number with these bits, if it is one. -/
def numberOfBits (bits : ℕ) : Option ℚ :=
  match F64.ofBits bits with
  | .finite q => some q
  | _ => none

/-- A position whose two numbers are finite. -/
def coordOf (position : Wkb.Position) : Option Coord := do
  some ⟨← numberOfBits position.1, ← numberOfBits position.2⟩

def polygonOf : List (List Wkb.Position) → Option Polygon
  | [] => none
  | exterior :: interiors => do
    some ⟨← exterior.mapM coordOf, ← interiors.mapM (·.mapM coordOf)⟩

/-- The multipolygon that the bytes encode. -/
def readWkb (bytes : List UInt8) : Option MultiPolygon := do
  let (polygons, _) ← Wkb.readMultiPolygon bytes
  polygons.mapM polygonOf

def triangle : List Coord := [⟨2, 2⟩, ⟨0, 0⟩, ⟨2, 0⟩]

theorem readsBack_triangle : ReadsBack wkbMultiPolygon readWkb (normalized [⟨ringOf triangle, []⟩]) := by
  have hpolygons : (normalized [⟨ringOf triangle, []⟩]).map ringsOf =
      [[[(0, 0), (0x4000000000000000, 0), (0x4000000000000000, 0x4000000000000000), (0, 0)]]] := by
    decide +kernel
  have hfits : ∀ rings ∈ (normalized [⟨ringOf triangle, []⟩]).map ringsOf, Wkb.FitsPolygon rings := by
    rw [hpolygons]
    exact fun rings hrings => List.mem_singleton.1 hrings ▸ ⟨by decide, by decide, by decide⟩
  intro bytes hbytes
  cases hbytes
  have hread := Wkb.readMultiPolygon_write (by rw [hpolygons]; decide) hfits []
  rw [List.append_nil] at hread
  rw [readWkb, hread, hpolygons]
  decide +kernel

/-- The triangle from another start and in the other direction. -/
theorem canonicalWkb_canonical_triangle :
    canonicalWkbMultiPolygon wkbMultiPolygon [⟨(ringOf (triangle.rotate 1)).reverse, []⟩] =
        canonicalWkbMultiPolygon wkbMultiPolygon [⟨ringOf triangle, []⟩] ∧
      ∀ bytes, canonicalWkbMultiPolygon wkbMultiPolygon [⟨ringOf triangle, []⟩] = .ok bytes →
        ∃ decoded, readWkb bytes = some decoded ∧
          canonicalWkbMultiPolygon wkbMultiPolygon decoded = .ok bytes := by
  have harea : signedAreaTwice (ringVertices (ringOf (triangle.rotate 1))) ≠ 0 := by decide +kernel
  have hring : SameRing (ringOf triangle) (ringOf (triangle.rotate 1)).reverse :=
    (Relation.ReflTransGen.single (.rotate triangle 1)).tail (.reverse harea)
  have hsame : SameMultiPolygon [⟨ringOf triangle, []⟩] [⟨(ringOf (triangle.rotate 1)).reverse, []⟩] :=
    ⟨_, .refl _, .cons ⟨hring, [], .refl _, .nil⟩ .nil⟩
  obtain ⟨hbytes, hread⟩ := canonicalWkb_canonical [⟨ringOf triangle, []⟩]
  exact ⟨hbytes _ hsame, hread readsBack_triangle⟩

end Pourpoint.CanonicalWkb
