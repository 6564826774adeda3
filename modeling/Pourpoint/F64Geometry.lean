import Pourpoint.F64

/-!
# Rectangles of doubles

Coordinates and rectangles with every value of `f64`. A rectangle keeps its corners sorted by `<`, so a
rectangle inside another meets it, also where an ordinate is `NaN`.
-/

namespace Pourpoint

/-- `geo::Coord<f64>` with every value of `f64`. -/
structure F64Coord where
  x : F64
  y : F64
  deriving DecidableEq

/-- `geo::Rect<f64>`, whose constructor sorts the corners by `<`. -/
structure F64Rect where
  min : F64Coord
  max : F64Coord
  x_sorted : max.x.lt min.x = false
  y_sorted : max.y.lt min.y = false
  deriving DecidableEq

namespace F64Rect

/-- `rect_contains_inclusive`. -/
def containsInclusive (container candidate : F64Rect) : Bool :=
  container.min.x.le candidate.min.x && container.min.y.le candidate.min.y &&
    candidate.max.x.le container.max.x && candidate.max.y.le container.max.y

/-- `rects_intersect_inclusive`. -/
def intersectInclusive (a b : F64Rect) : Bool :=
  a.min.x.le b.max.x && b.min.x.le a.max.x && a.min.y.le b.max.y && b.min.y.le a.max.y

/-- A contained rectangle meets its container, as its corners are sorted. -/
theorem intersectInclusive_of_containsInclusive {container candidate : F64Rect}
    (h : container.containsInclusive candidate = true) :
    container.intersectInclusive candidate = true := by
  simp only [containsInclusive, intersectInclusive, Bool.and_eq_true] at *
  obtain ⟨⟨⟨hminx, hminy⟩, hmaxx⟩, hmaxy⟩ := h
  have hx : candidate.min.x.le candidate.max.x = true :=
    F64.le_of_lt_eq_false (F64.isNan_right_of_le hminx) (F64.isNan_left_of_le hmaxx)
      candidate.x_sorted
  have hy : candidate.min.y.le candidate.max.y = true :=
    F64.le_of_lt_eq_false (F64.isNan_right_of_le hminy) (F64.isNan_left_of_le hmaxy)
      candidate.y_sorted
  exact ⟨⟨⟨F64.le_trans hminx hx, F64.le_trans hx hmaxx⟩, F64.le_trans hminy hy⟩,
    F64.le_trans hy hmaxy⟩

end F64Rect

end Pourpoint
