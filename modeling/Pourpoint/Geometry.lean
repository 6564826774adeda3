import Pourpoint.Lattice.Polyline

/-!
# Planar geometry

The geometry types of the source, over exact rational coordinates. A `LineString` is a list of
coordinates, a ring is a closed one, and a polygon is an exterior ring with interior rings.

`LineString.evenOdd` is the even-odd rule: it counts the segments crossed by the ray that leaves a
point to the left. `Polygon.covers` reads a polygon as its exterior minus its interior rings, and
`Polygon.StrictInterior` is the same without the boundary.
-/

namespace Pourpoint

open Lattice

/-- A planar coordinate (`geo::Coord<f64>`). -/
@[ext] structure Coord where
  x : ℚ
  y : ℚ
  deriving DecidableEq, Repr

/-- `geo::LineString<f64>`. -/
abbrev LineString := List Coord

/-- `LineString::close`: repeat the first coordinate at the end unless it is there. -/
def LineString.close (ls : LineString) : LineString :=
  if ls.head? = ls.getLast? then ls else ls ++ ls.head?.toList

/-- `geo::Polygon<f64>`. -/
structure Polygon where
  exterior : LineString
  interiors : List LineString
  deriving DecidableEq, Repr

/-- `Polygon::new` closes the rings it is given. -/
def Polygon.new (exterior : LineString) (interiors : List LineString) : Polygon :=
  ⟨exterior.close, interiors.map LineString.close⟩

/-- `geo::MultiPolygon<f64>`. -/
abbrev MultiPolygon := List Polygon

@[simp] theorem LineString.close_of_closed {ls : LineString} (h : Closed ls) : ls.close = ls :=
  if_pos h

/-! ## The even-odd rule -/

/-- Where the line of a segment meets the horizontal line at `y`. -/
def xAt (y : ℚ) (s : Coord × Coord) : ℚ :=
  s.1.x + (y - s.1.y) / (s.2.y - s.1.y) * (s.2.x - s.1.x)

/-- The ray from `p` to the left crosses the segment. A segment counts its lower end and not its
upper one, so a ray through a vertex is counted once. -/
def crossesLeft (p : Coord) (s : Coord × Coord) : Bool :=
  (decide (p.y < s.1.y) != decide (p.y < s.2.y)) && decide (xAt p.y s < p.x)

/-- The point is inside the ring under the even-odd rule. -/
def LineString.evenOdd (ls : LineString) (p : Coord) : Bool :=
  (segments ls).countP (crossesLeft p) % 2 = 1

/-- The point lies on the segment. -/
def OnSegment (p : Coord) (s : Coord × Coord) : Prop :=
  (s.2.x - s.1.x) * (p.y - s.1.y) = (s.2.y - s.1.y) * (p.x - s.1.x) ∧
    min s.1.x s.2.x ≤ p.x ∧ p.x ≤ max s.1.x s.2.x ∧ min s.1.y s.2.y ≤ p.y ∧ p.y ≤ max s.1.y s.2.y

instance (p : Coord) (s : Coord × Coord) : Decidable (OnSegment p s) :=
  inferInstanceAs (Decidable (_ ∧ _))

/-- The point lies on the ring. -/
def LineString.OnBoundary (ls : LineString) (p : Coord) : Prop := ∃ s ∈ segments ls, OnSegment p s

instance (ls : LineString) (p : Coord) : Decidable (ls.OnBoundary p) :=
  inferInstanceAs (Decidable (∃ s ∈ segments ls, OnSegment p s))

/-- The polygon as a point set: its exterior minus its own interior rings. -/
def Polygon.covers (poly : Polygon) (p : Coord) : Bool :=
  poly.exterior.evenOdd p && poly.interiors.all fun hole => !hole.evenOdd p

/-- The point is in the interior of the polygon, off all of its rings. -/
def Polygon.StrictInterior (poly : Polygon) (p : Coord) : Prop :=
  poly.covers p = true ∧ ¬poly.exterior.OnBoundary p ∧ ∀ hole ∈ poly.interiors, ¬hole.OnBoundary p

instance (poly : Polygon) (p : Coord) : Decidable (poly.StrictInterior p) :=
  inferInstanceAs (Decidable (_ ∧ _))

/-- What the source relies on of `Polygon::contains`. -/
def ContainsIsStrictInterior (contains : Polygon → Coord → Bool) : Prop :=
  ∀ poly p, contains poly p = true ↔ poly.StrictInterior p

/-- The interior test itself. -/
def strictInterior (poly : Polygon) (p : Coord) : Bool := decide (poly.StrictInterior p)

theorem containsIsStrictInterior_strictInterior : ContainsIsStrictInterior strictInterior :=
  fun _ _ => decide_eq_true_iff

/-! ## Reversal -/

theorem xAt_swap {y : ℚ} {s : Coord × Coord} (h : s.1.y ≠ s.2.y) : xAt y s.swap = xAt y s := by
  have h1 : s.2.y - s.1.y ≠ 0 := sub_ne_zero.2 (Ne.symm h)
  have h2 : s.1.y - s.2.y ≠ 0 := sub_ne_zero.2 h
  simp only [xAt, Prod.fst_swap, Prod.snd_swap]
  field_simp
  ring

theorem crossesLeft_swap (p : Coord) (s : Coord × Coord) :
    crossesLeft p s.swap = crossesLeft p s := by
  by_cases h : s.1.y = s.2.y
  · simp [crossesLeft, h]
  · unfold crossesLeft
    rw [xAt_swap h, Prod.fst_swap, Prod.snd_swap, bne_comm]

@[simp] theorem LineString.evenOdd_reverse (ls : LineString) (p : Coord) :
    LineString.evenOdd ls.reverse p = LineString.evenOdd ls p := by
  unfold LineString.evenOdd
  rw [segments_reverse, List.countP_map, List.countP_reverse]
  simp only [Function.comp_def, crossesLeft_swap]

end Pourpoint
