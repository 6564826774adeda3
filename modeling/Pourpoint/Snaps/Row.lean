import Pourpoint.Catchment.Row
import Pourpoint.F64Geometry
import Pourpoint.FloatCast
import Pourpoint.Library.Parts
import Pourpoint.Validation

/-!
# Rows of a snap file

`extractSnapTarget` is the body of the loop of `extract_snap_targets_from_batch`: it validates a row,
decides whether the filter keeps it and builds the target. A row may come without a bounding box; then
that of its geometry stands in.

Outlet resolution filters by a box that has an extent on both axes: `snapBbox` moves one side of a
degenerate axis by one float step. Extraction filters by the geometry.
-/

namespace Pourpoint

open Library

def snapArtifact : String := "snap.parquet"

/-! ## Targets -/

inductive StemRole where
  | mainstem
  | other (name : String)
  deriving DecidableEq, Repr

/-- `hfx::SnapTarget`. -/
structure SnapTarget where
  id : ℤ
  unitId : UnitId
  weight : F32
  stemRole : Option StemRole
  bbox : Option UnitBox
  geometry : List UInt8
  deriving DecidableEq, Repr

/-- Supplied bounds, which may be degenerate. -/
structure SnapBounds where
  xmin : F32
  ymin : F32
  xmax : F32
  ymax : F32
  deriving DecidableEq, Repr

/-- A target with its supplied bounds. -/
structure SnapTargetRow where
  target : SnapTarget
  bbox : Option SnapBounds
  deriving DecidableEq, Repr

/-! ## Stored rows -/

/-- The leaves of a `bbox` struct that is not null. -/
structure BboxLeaves where
  xmin : Option F32
  ymin : Option F32
  xmax : Option F32
  ymax : Option F32
  deriving DecidableEq, Repr

/-- The cells of a row, `none` where null. The `stem_role` and the `bbox` of a file without these columns
are null. -/
structure SnapRow where
  id : Option ℤ
  unitId : Option ℤ
  weight : Option F32
  stemRole : Option String
  bbox : Option BboxLeaves
  geometry : Option (List UInt8)
  deriving DecidableEq, Repr

/-- A decoded geometry by its coordinates. -/
inductive SnapGeometry where
  | point (coord : F64Coord)
  | lineString (coords : List F64Coord)
  | other (typeName : String) (coords : List F64Coord)
  deriving DecidableEq

/-- `coords_iter`. -/
def SnapGeometry.coords : SnapGeometry → List F64Coord
  | point coord => [coord]
  | lineString coords => coords
  | other _ coords => coords

/-- The checks of the `hfx` constructors that a row goes through, each the text of the error if there is
one, the reading of a stem role, the decoder of `geozero`, the bounding rectangle and the intersection
test of `geo`, and the text of a number. -/
structure SnapReader where
  snapId : ℤ → Option String
  unitId : ℤ → Option String
  weight : F32 → Option String
  boundingBox : F32 → F32 → F32 → F32 → Option String
  wkbGeometry : List UInt8 → Option String
  stemRole : String → Option StemRole
  toGeo : List UInt8 → Except String SnapGeometry
  boundingRect : SnapGeometry → Option F64Rect
  intersects : SnapGeometry → F64Rect → Bool
  display : F32 → String

/-- The errors of a read of rows. -/
inductive SnapReadError where
  | session (source : SessionError)
  | snapGeometryInvalid (row : ℕ) (reason : String)
  | invalidStemRole (row : ℕ) (value : String)
  deriving DecidableEq, Repr

def invalidSnapRow {α : Type} (row : ℕ) (reason : String) : Except SnapReadError α :=
  .error (.session (.invalidRow snapArtifact row reason))

/-! ## Bounds -/

/-- `180.0_f32`. -/
def degrees180 : F32 := ⟨false, 0x43340000⟩

/-- `90.0_f32`. -/
def degrees90 : F32 := ⟨false, 0x42B40000⟩

/-- The closure of `snap_bbox`: a degenerate axis is padded inwards at the limit, outwards elsewhere. -/
def padAxis (min max limit : F32) : F32 × F32 :=
  if !min.eq max then (min, max)
  else if max.eq limit then (min.nextDown, max)
  else (min, max.nextUp)

/-- `SnapBounds::new`. -/
def checkSnapBounds (reader : SnapReader) (bounds : SnapBounds) (row : ℕ) :
    Except SnapReadError SnapBounds :=
  if ¬(bounds.xmin.isFinite ∧ bounds.ymin.isFinite ∧ bounds.xmax.isFinite ∧ bounds.ymax.isFinite) ∨
      bounds.xmin.lt degrees180.neg ∨ degrees180.lt bounds.xmax ∨
      bounds.ymin.lt degrees90.neg ∨ degrees90.lt bounds.ymax ∨
      bounds.xmax.lt bounds.xmin ∨ bounds.ymax.lt bounds.ymin then
    invalidSnapRow row ("invalid supplied snap bbox [" ++ ", ".intercalate
      ([bounds.xmin, bounds.ymin, bounds.xmax, bounds.ymax].map reader.display) ++ "]")
  else .ok bounds

section

variable (reader : SnapReader)

/-- The box of `snap_bbox`. -/
def paddedBox (bounds : SnapBounds) : UnitBox :=
  let x := padAxis bounds.xmin bounds.xmax degrees180
  let y := padAxis bounds.ymin bounds.ymax degrees90
  ⟨x.1, y.1, x.2, y.2⟩

/-- `snap_bbox`. A degenerate axis is padded. -/
def snapBbox (bounds : SnapBounds) (row : ℕ) : Except SnapReadError UnitBox :=
  let box := paddedBox bounds
  match reader.boundingBox box.minx box.miny box.maxx box.maxy with
  | none => .ok box
  | some e => invalidSnapRow row ("invalid snap bbox: " ++ e)

/-- `bbox_from_snap_geometry`. -/
def bboxFromSnapGeometry (geometry : SnapGeometry) (row : ℕ) : Except SnapReadError UnitBox :=
  match reader.boundingRect geometry with
  | none => .error (.snapGeometryInvalid row "geometry has no finite bounding rectangle")
  | some rect =>
    snapBbox reader ⟨rect.min.x.toF32, rect.min.y.toF32, rect.max.x.toF32, rect.max.y.toF32⟩ row

/-! ## Scopes -/

/-- The four bounds of an extent are finite EPSG:4326 values with west below east and south below
north. -/
def ExtentValid (west south east north : F64) : Prop :=
  (∀ v ∈ [west, south, east, north], v.isFinite = true) ∧
    west.lt (.finite (-180)) = false ∧ (F64.finite 180).lt east = false ∧
    south.lt (.finite (-90)) = false ∧ (F64.finite 90).lt north = false ∧
    east.le west = false ∧ north.le south = false

instance (west south east north : F64) : Decidable (ExtentValid west south east north) :=
  inferInstanceAs (Decidable (_ ∧ _ ∧ _ ∧ _ ∧ _ ∧ _ ∧ _))

/-- A rectangle in degrees. -/
structure SnapExtent where
  west : F64
  south : F64
  east : F64
  north : F64
  valid : ExtentValid west south east north

/-- `SnapScope`. -/
inductive SnapScope where
  | all
  | bbox (extent : SnapExtent)

theorem lt_eq_false_of_le_eq_false {a b : F64} (ha : a.isFinite = true) (hb : b.isFinite = true)
    (h : b.le a = false) : b.lt a = false := by
  have hnan : ∀ x : F64, x.isFinite = true → x.isNan = false := by
    intro x hx
    cases x <;> first | rfl | cases hx
  simp only [F64.le, F64.lt, hnan a ha, hnan b hb, Bool.not_false, Bool.true_and,
    decide_eq_false_iff_not] at *
  exact fun hlt => h hlt.le

/-- The rectangle of an extent. -/
def SnapExtent.rect (extent : SnapExtent) : F64Rect where
  min := ⟨extent.west, extent.south⟩
  max := ⟨extent.east, extent.north⟩
  x_sorted := lt_eq_false_of_le_eq_false (extent.valid.1 _ (by simp)) (extent.valid.1 _ (by simp))
    extent.valid.2.2.2.2.2.1
  y_sorted := lt_eq_false_of_le_eq_false (extent.valid.1 _ (by simp)) (extent.valid.1 _ (by simp))
    extent.valid.2.2.2.2.2.2

/-- `SnapScope::intersects`. -/
def SnapScope.intersects (geometry : SnapGeometry) : SnapScope → Bool
  | all => true
  | bbox extent => reader.intersects geometry extent.rect

/-- `SnapScope::may_intersect`. -/
def SnapScope.mayIntersect (box : UnitBox) : SnapScope → Bool
  | all => true
  | bbox extent =>
    box.minx.nextDown.toF64.le extent.east && extent.west.le box.maxx.nextUp.toF64 &&
      box.miny.nextDown.toF64.le extent.north && extent.south.le box.maxy.nextUp.toF64

/-! ## Extraction -/

/-- Which rows a read keeps. -/
inductive SnapRowFilter where
  | boundingBox (query : UnitBox)
  | geometry (scope : SnapScope)

/-- `validate_snap_geometry`. -/
def validateSnapGeometry (wkb : List UInt8) (row : ℕ) : Except SnapReadError SnapGeometry :=
  match reader.toGeo wkb with
  | .error reason => .error (.snapGeometryInvalid row ("WKB decoding failed: " ++ reason))
  | .ok decoded =>
    if decoded.coords.any fun c => !c.x.isFinite || !c.y.isFinite ||
        !((F64.finite (-180)).le c.x && c.x.le (.finite 180)) ||
        !((F64.finite (-90)).le c.y && c.y.le (.finite 90)) then
      .error (.snapGeometryInvalid row "coordinates must be finite EPSG:4326 values")
    else
      match decoded with
      | .lineString coords =>
        if coords.length < 2 then
          .error (.snapGeometryInvalid row "LineString must contain at least two coordinates")
        else .ok decoded
      | .point _ => .ok decoded
      | .other typeName _ =>
        .error (.snapGeometryInvalid row ("expected Point or LineString, got " ++ typeName))

/-- The supplied bounds of a row. -/
def suppliedBounds (bbox : Option BboxLeaves) (row : ℕ) : Except SnapReadError (Option SnapBounds) :=
  match bbox with
  | none => .ok none
  | some ⟨some xmin, some ymin, some xmax, some ymax⟩ =>
    some <$> checkSnapBounds reader ⟨xmin, ymin, xmax, ymax⟩ row
  | some _ => invalidSnapRow row "non-null bbox has null leaves"

/-- A cell that must not be null. -/
def requireCell {α : Type} (name : String) (row : ℕ) : Option α → Except SnapReadError α
  | some a => .ok a
  | none => invalidSnapRow row ("null value in non-nullable column \"" ++ name ++ "\"")

/-- The check of a constructor. -/
def checkCell (label : String) (row : ℕ) : Option String → Except SnapReadError Unit
  | none => .ok ()
  | some e => invalidSnapRow row (label ++ " error: " ++ e)

/-- The strict box of a row, for the box filter. -/
def rowBox (filter : SnapRowFilter) (supplied : Option SnapBounds) (geometry : SnapGeometry)
    (row : ℕ) : Except SnapReadError (Option UnitBox) :=
  match filter with
  | .boundingBox _ => some <$> match supplied with
    | some bounds => snapBbox reader bounds row
    | none => bboxFromSnapGeometry reader geometry row
  | .geometry _ => .ok none

/-- Whether the filter keeps the row. -/
def filterMatches (filter : SnapRowFilter) (box : Option UnitBox) (geometry : SnapGeometry) : Bool :=
  match filter with
  | .boundingBox query => box.any (·.intersects query)
  | .geometry scope => scope.intersects reader geometry

/-- The optional stem role. -/
def readStemRole (cell : Option String) (row : ℕ) : Except SnapReadError (Option StemRole) :=
  match cell with
  | none => .ok none
  | some value =>
    match reader.stemRole value with
    | some role => .ok (some role)
    | none => .error (.invalidStemRole row value)

/-- One row of `extract_snap_targets_from_batch`: nothing when the filter drops it. -/
def extractSnapTarget (filter : SnapRowFilter) (row : SnapRow) (absoluteRow : ℕ) :
    Except SnapReadError (Option SnapTargetRow) := do
  let id ← requireCell "id" absoluteRow row.id
  let unitId ← requireCell "unit_id" absoluteRow row.unitId
  let weight ← requireCell "weight" absoluteRow row.weight
  let wkb ← requireCell "geometry" absoluteRow row.geometry
  checkCell "geometry" absoluteRow (reader.wkbGeometry wkb)
  let geometry ← validateSnapGeometry reader wkb absoluteRow
  let supplied ← suppliedBounds reader row.bbox absoluteRow
  let box ← rowBox reader filter supplied geometry absoluteRow
  if !filterMatches reader filter box geometry then
    .ok none
  else
    checkCell "id" absoluteRow (reader.snapId id)
    checkCell "unit_id" absoluteRow (reader.unitId unitId)
    checkCell "weight" absoluteRow (reader.weight weight)
    let stemRole ← readStemRole reader row.stemRole absoluteRow
    .ok (some ⟨⟨id, unitId, weight, stemRole, box, wkb⟩, supplied⟩)

/-- `extract_snap_targets_from_batch`. -/
def extractSnapTargetsFromBatch (filter : SnapRowFilter) (batch : List SnapRow) (rowOffset : ℕ) :
    Except SnapReadError (List SnapTargetRow) := do
  let rows ← (batch.zipIdx rowOffset).mapM fun row => extractSnapTarget reader filter row.1 row.2
  .ok rows.reduceOption

end

end Pourpoint
