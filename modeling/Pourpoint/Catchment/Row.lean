import Pourpoint.F32
import Pourpoint.Manifest
import Pourpoint.Upstream
import Pourpoint.Library.Success

/-!
# Rows of the catchments file

A row of `catchments.parquet` is read by column name, from whatever columns the reader projected.
`rowUnit` is the body of `extract_units_from_batch` and `rowGeometry` that of
`extract_decoded_geometries_from_batch`. An absent optional column reads as its default, so what a row
gives depends on the projection: two projections that agree on every column that is read give the same
unit up to its labels (`rowUnit_map_withoutLabels`).
-/

namespace Pourpoint

open Library

/-- The leaf columns of the file that the readers know. Further columns are left out: a reader takes the
first leaf with the name that it looks for, so they matter only where one of them is a struct with such a
leaf. -/
inductive CatchmentColumn where
  | id
  | level
  | parentId
  | areaKm2
  | upAreaKm2
  | outletLon
  | outletLat
  | bboxXmin
  | bboxYmin
  | bboxXmax
  | bboxYmax
  | geometry
  | sourceId
  | levelLabel
  deriving DecidableEq, Repr

namespace CatchmentColumn

/-- The dotted path of a leaf. -/
def path : CatchmentColumn → String
  | id => "id"
  | level => "level"
  | parentId => "parent_id"
  | areaKm2 => "area_km2"
  | upAreaKm2 => "up_area_km2"
  | outletLon => "outlet_lon"
  | outletLat => "outlet_lat"
  | bboxXmin => "bbox.xmin"
  | bboxYmin => "bbox.ymin"
  | bboxXmax => "bbox.xmax"
  | bboxYmax => "bbox.ymax"
  | geometry => "geometry"
  | sourceId => "source_id"
  | levelLabel => "level_label"

/-- The values of a column. Outlet coordinates are `f64` bits. -/
@[reducible]
def Cell : CatchmentColumn → Type
  | id | level | parentId => ℤ
  | areaKm2 | upAreaKm2 | bboxXmin | bboxYmin | bboxXmax | bboxYmax => F32
  | outletLon | outletLat => BitVec 64
  | geometry => List UInt8
  | sourceId | levelLabel => String

end CatchmentColumn

/-- A stored row: its cells, `none` where null. -/
def CatchmentRow := (column : CatchmentColumn) → Option column.Cell

namespace CatchmentRow

/-- The cell of a projected row. A column that is not projected reads as null. -/
def cell (row : CatchmentRow) (columns : List CatchmentColumn) (column : CatchmentColumn) :
    Option column.Cell :=
  if column ∈ columns then row column else none

end CatchmentRow

/-- `hfx::BoundingBox` of a unit. -/
structure UnitBox where
  minx : F32
  miny : F32
  maxx : F32
  maxy : F32
  deriving DecidableEq, Repr

namespace UnitBox

/-- Overlap of closed boxes. -/
def intersects (a b : UnitBox) : Bool :=
  a.minx.le b.maxx && b.minx.le a.maxx && a.miny.le b.maxy && b.miny.le a.maxy

/-- Every side of the other box is inside. -/
structure Covers (a b : UnitBox) : Prop where
  minx : a.minx.le b.minx = true
  miny : a.miny.le b.miny = true
  maxx : b.maxx.le a.maxx = true
  maxy : b.maxy.le a.maxy = true

theorem Covers.intersects {a b q : UnitBox} (h : a.Covers b) (hq : b.intersects q = true) :
    a.intersects q = true := by
  simp only [UnitBox.intersects, Bool.and_eq_true] at *
  obtain ⟨⟨⟨h₁, h₂⟩, h₃⟩, h₄⟩ := hq
  exact ⟨⟨⟨F32.le_trans h.minx h₁, F32.le_trans h₂ h.maxx⟩, F32.le_trans h.miny h₃⟩,
    F32.le_trans h₄ h.maxy⟩

end UnitBox

/-- `hfx::OutletCoord`. -/
structure OutletCoord where
  lon : BitVec 64
  lat : BitVec 64
  deriving DecidableEq, Repr

/-- `hfx::CatchmentUnit`. -/
structure CatchmentUnit where
  id : UnitId
  level : Level
  parentId : Option UnitId
  area : F32
  upstreamArea : Option F32
  outlet : OutletCoord
  bbox : UnitBox
  geometry : List UInt8
  sourceId : Option String
  levelLabel : Option String
  deriving DecidableEq, Repr

/-- The checks of the `hfx` constructors that a row goes through, each the text of the error if there
is one, and the midpoint of two `f32` as `f64`. -/
structure HfxUnit where
  unitId : ℤ → Option String
  level : ℤ → Option String
  areaKm2 : F32 → Option String
  outletCoord : BitVec 64 → BitVec 64 → Option String
  boundingBox : F32 → F32 → F32 → F32 → Option String
  wkbGeometry : List UInt8 → Option String
  midpoint : F32 → F32 → BitVec 64

/-! ## Units -/

def nonNull {α : Type} (column : CatchmentColumn) : Option α → Except String α
  | some a => .ok a
  | none => .error s!"null value in non-nullable column \"{column.path}\""

theorem nonNull_eq_ok {α : Type} {column : CatchmentColumn} {value : Option α} {a : α} :
    nonNull column value = .ok a ↔ value = some a := by
  cases value with
  | none => simp [nonNull]
  | some b => simp [nonNull]

/-- A constructor's error under the name of the field. -/
def checked (field : String) : Option String → Except String Unit
  | none => .ok ()
  | some error => .error s!"{field}: {error}"

theorem checked_eq_ok {field : String} {error : Option String} {u : Unit} :
    checked field error = .ok u ↔ error = none := by
  cases error with
  | none => simp [checked]
  | some e => simp [checked]

/-- A value that is checked when it is there. -/
def checkedOption {α : Type} (field : String) (check : α → Option String) :
    Option α → Except String (Option α)
  | none => .ok none
  | some a => do
    checked field (check a)
    .ok (some a)

/-- The value in the slot of a null, which the reader pads with zeros. -/
def slotValue (value : Option F32) : F32 := value.getD ⟨false, 0⟩

/-- The level, zero when the column is absent. -/
def levelValue (columns : List CatchmentColumn) (value : Option ℤ) : Except String Level :=
  if .level ∈ columns then nonNull .level value else .ok 0

/-- An outlet coordinate, the middle of the bbox when the column is absent. -/
def outletValue (hfx : HfxUnit) (columns : List CatchmentColumn) (column : CatchmentColumn)
    (value : Option (BitVec 64)) (low high : Option F32) : Except String (BitVec 64) :=
  if column ∈ columns then nonNull column value
  else .ok (hfx.midpoint (slotValue low) (slotValue high))

/-- The unit of one row of `extract_units_from_batch`, or why the row is invalid. -/
def rowUnit (hfx : HfxUnit) (columns : List CatchmentColumn) (row : CatchmentRow) :
    Except String CatchmentUnit := do
  let id ← nonNull .id (row.cell columns .id)
  checked "id" (hfx.unitId id)
  let level ← levelValue columns (row.cell columns .level)
  checked (if .level ∈ columns then "level" else "level default") (hfx.level level)
  let parentId ← checkedOption "parent_id" hfx.unitId (row.cell columns .parentId)
  let area ← nonNull .areaKm2 (row.cell columns .areaKm2)
  checked "area_km2" (hfx.areaKm2 area)
  let upstreamArea ← checkedOption "up_area_km2" hfx.areaKm2 (row.cell columns .upAreaKm2)
  let lon ← outletValue hfx columns .outletLon (row.cell columns .outletLon)
    (row.cell columns .bboxXmin) (row.cell columns .bboxXmax)
  let lat ← outletValue hfx columns .outletLat (row.cell columns .outletLat)
    (row.cell columns .bboxYmin) (row.cell columns .bboxYmax)
  checked "outlet" (hfx.outletCoord lon lat)
  let minx ← nonNull .bboxXmin (row.cell columns .bboxXmin)
  let miny ← nonNull .bboxYmin (row.cell columns .bboxYmin)
  let maxx ← nonNull .bboxXmax (row.cell columns .bboxXmax)
  let maxy ← nonNull .bboxYmax (row.cell columns .bboxYmax)
  checked "bbox" (hfx.boundingBox minx miny maxx maxy)
  let geometry ← nonNull .geometry (row.cell columns .geometry)
  checked "geometry" (hfx.wkbGeometry geometry)
  .ok { id, level, parentId, area, upstreamArea, outlet := ⟨lon, lat⟩,
        bbox := ⟨minx, miny, maxx, maxy⟩, geometry,
        sourceId := row.cell columns .sourceId, levelLabel := row.cell columns .levelLabel }

/-! ## Geometries -/

/-- A decoded `geo` geometry. A multi-polygon is its list of polygons. -/
inductive GeoGeometry (Polygon : Type) where
  | polygon (p : Polygon)
  | multiPolygon (ps : List Polygon)
  | other (typeName : String)

inductive WkbDecodeError where
  | decodeFailed (reason : String)
  | unexpectedType (expected : String) (actual : String)
  deriving DecidableEq, Repr

variable {Polygon : Type}

/-- `decode_wkb_multi_polygon_bytes`, over the decoder of `geozero`. -/
def decodeWkbMultiPolygonBytes (toGeo : List UInt8 → Except String (GeoGeometry Polygon))
    (wkb : List UInt8) : Except WkbDecodeError (List Polygon) :=
  match toGeo wkb with
  | .error reason => .error (.decodeFailed reason)
  | .ok (.polygon p) => .ok [p]
  | .ok (.multiPolygon ps) => .ok ps
  | .ok (.other typeName) => .error (.unexpectedType "Polygon or MultiPolygon" typeName)

/-- `DecodedCatchmentGeometryRow`. -/
structure DecodedCatchmentGeometryRow (Polygon : Type) where
  id : UnitId
  geometry : List Polygon
  deriving DecidableEq

/-- Why a row has no geometry. -/
inductive GeometryRowError where
  | invalidRow (reason : String)
  | decode (unitId : UnitId) (source : WkbDecodeError)
  deriving DecidableEq, Repr

/-- One row of `extract_decoded_geometries_from_batch`: nothing when its unit is not requested. -/
def rowGeometry (hfx : HfxUnit) (toGeo : List UInt8 → Except String (GeoGeometry Polygon))
    (columns : List CatchmentColumn) (requestedIds : List UnitId) (row : CatchmentRow) :
    Except GeometryRowError (Option (DecodedCatchmentGeometryRow Polygon)) := do
  let id ← (nonNull .id (row.cell columns .id)).mapError .invalidRow
  (checked "id" (hfx.unitId id)).mapError .invalidRow
  if id ∉ requestedIds then
    .ok none
  else
    let wkb ← (nonNull .geometry (row.cell columns .geometry)).mapError .invalidRow
    let geometry ← (decodeWkbMultiPolygonBytes toGeo wkb).mapError (.decode id)
    .ok (some ⟨id, geometry⟩)

theorem rowGeometry_eq_ok_iff {hfx : HfxUnit}
    {toGeo : List UInt8 → Except String (GeoGeometry Polygon)} {columns : List CatchmentColumn}
    {requestedIds : List UnitId} {row : CatchmentRow}
    {found : Option (DecodedCatchmentGeometryRow Polygon)} :
    rowGeometry hfx toGeo columns requestedIds row = .ok found ↔
      ∃ id, row.cell columns .id = some id ∧ hfx.unitId id = none ∧
        if id ∈ requestedIds then ∃ wkb, row.cell columns .geometry = some wkb ∧
          ∃ geometry, decodeWkbMultiPolygonBytes toGeo wkb = .ok geometry ∧ found = some ⟨id, geometry⟩
        else found = none := by
  unfold rowGeometry
  simp only [bind_eq_ok_iff, mapError_eq_ok_iff, nonNull_eq_ok, exists_const, checked_eq_ok]
  refine exists_congr fun id => and_congr_right fun _ => and_congr_right fun _ => ?_
  by_cases hid : id ∈ requestedIds
  · rw [if_neg (not_not.2 hid), if_pos hid]
    simp only [bind_eq_ok_iff, mapError_eq_ok_iff, nonNull_eq_ok, Except.ok.injEq,
      eq_comm (b := found)]
  · rw [if_pos hid, if_neg hid, Except.ok.injEq, eq_comm]

/-! ## Projections -/

namespace CatchmentUnit

/-- The unit without the two texts that only some projections read. -/
def withoutLabels (unit : CatchmentUnit) : CatchmentUnit :=
  { unit with sourceId := none, levelLabel := none }

@[simp]
theorem withoutLabels_id (unit : CatchmentUnit) : unit.withoutLabels.id = unit.id := rfl

theorem withoutLabels_eq_self_iff {unit : CatchmentUnit} :
    unit.withoutLabels = unit ↔ unit.sourceId = none ∧ unit.levelLabel = none := by
  obtain ⟨⟩ := unit
  simp [withoutLabels, eq_comm]

end CatchmentUnit

/-- The columns that a unit is read from, apart from its labels. -/
def unitColumns : List CatchmentColumn :=
  [.id, .level, .parentId, .areaKm2, .upAreaKm2, .outletLon, .outletLat, .bboxXmin, .bboxYmin,
    .bboxXmax, .bboxYmax, .geometry]

section

variable {hfx : HfxUnit} {columns projected : List CatchmentColumn} {row : CatchmentRow}

theorem CatchmentRow.cell_congr {column : CatchmentColumn}
    (h : column ∈ projected ↔ column ∈ columns) :
    row.cell projected column = row.cell columns column := by
  unfold CatchmentRow.cell
  simp only [h]

/-- **Agreeing projections.** A projection without the labels that agrees on the other columns gives
the unit without its labels, or the same error. -/
theorem rowUnit_map_withoutLabels
    (h : ∀ column ∈ unitColumns, column ∈ projected ↔ column ∈ columns)
    (hsource : .sourceId ∉ projected) (hlabel : .levelLabel ∉ projected) :
    rowUnit hfx projected row = CatchmentUnit.withoutLabels <$> rowUnit hfx columns row := by
  have hcell : ∀ column ∈ unitColumns, row.cell projected column = row.cell columns column :=
    fun column hcolumn => CatchmentRow.cell_congr (h column hcolumn)
  have hnone : ∀ column, column ∉ projected → row.cell projected column = none :=
    fun column hcolumn => if_neg hcolumn
  have hlevel : ∀ value, levelValue projected value = levelValue columns value := by
    intro value
    simp only [levelValue, h .level (by decide)]
  have hlon : ∀ value low high, outletValue hfx projected .outletLon value low high =
      outletValue hfx columns .outletLon value low high := by
    intro value low high
    simp only [outletValue, h .outletLon (by decide)]
  have hlat : ∀ value low high, outletValue hfx projected .outletLat value low high =
      outletValue hfx columns .outletLat value low high := by
    intro value low high
    simp only [outletValue, h .outletLat (by decide)]
  unfold rowUnit
  simp only [hcell .id (by decide), hcell .level (by decide), hcell .parentId (by decide),
    hcell .areaKm2 (by decide), hcell .upAreaKm2 (by decide), hcell .outletLon (by decide),
    hcell .outletLat (by decide), hcell .bboxXmin (by decide), hcell .bboxYmin (by decide),
    hcell .bboxXmax (by decide), hcell .bboxYmax (by decide), hcell .geometry (by decide),
    hnone _ hsource, hnone _ hlabel, h .level (by decide), hlevel, hlon, hlat, map_bind]
  rfl

/-- The cells that a unit was read from. -/
structure CatchmentUnit.ReadFrom (hfx : HfxUnit) (columns : List CatchmentColumn) (row : CatchmentRow)
    (unit : CatchmentUnit) : Prop where
  id : row.cell columns .id = some unit.id
  checked : hfx.unitId unit.id = none
  minx : row.cell columns .bboxXmin = some unit.bbox.minx
  miny : row.cell columns .bboxYmin = some unit.bbox.miny
  maxx : row.cell columns .bboxXmax = some unit.bbox.maxx
  maxy : row.cell columns .bboxYmax = some unit.bbox.maxy
  geometry : row.cell columns .geometry = some unit.geometry
  sourceId : row.cell columns .sourceId = unit.sourceId
  levelLabel : row.cell columns .levelLabel = unit.levelLabel

theorem readFrom_of_rowUnit {unit : CatchmentUnit} (h : rowUnit hfx columns row = .ok unit) :
    unit.ReadFrom hfx columns row := by
  unfold rowUnit at h
  simp only [bind_eq_ok_iff] at h
  obtain ⟨id, hid, _, hcheck, level, -, _, -, parentId, -, area, -, _, -, upstreamArea, -, lon, -, lat, -,
    _, -, minx, hminx, miny, hminy, maxx, hmaxx, maxy, hmaxy, _, -, wkb, hwkb, _, -, heq⟩ := h
  cases heq
  exact {
    id := nonNull_eq_ok.1 hid
    checked := checked_eq_ok.1 hcheck
    minx := nonNull_eq_ok.1 hminx
    miny := nonNull_eq_ok.1 hminy
    maxx := nonNull_eq_ok.1 hmaxx
    maxy := nonNull_eq_ok.1 hmaxy
    geometry := nonNull_eq_ok.1 hwkb
    sourceId := rfl
    levelLabel := rfl }

end

end Pourpoint
