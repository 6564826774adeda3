import Pourpoint.Catchment.Row
import Pourpoint.Library.DebugText
import Pourpoint.Library.Sorted
import Pourpoint.Validation

/-!
# The catchment store

`catchments.parquet` is a list of row groups, read in batches. A query selects row groups, by the bbox
statistics or by the id index, reads the selected groups in file order through a projection of the
columns, and filters the rows.
-/

namespace Pourpoint

open Library

def catchmentsArtifact : String := "catchments.parquet"

/-! ## The file -/

/-- The statistics of the bbox columns of a row group: the minima of `xmin` and `ymin` and the maxima of
`xmax` and `ymax`, where the writer stored them. -/
structure RowGroupStatistics where
  minx : Option F32
  miny : Option F32
  maxx : Option F32
  maxy : Option F32
  deriving DecidableEq, Repr

/-- A row group, as the batches in which it is read. -/
structure RowGroup where
  batches : List (List CatchmentRow)
  statistics : RowGroupStatistics

namespace RowGroup

def rows (rowGroup : RowGroup) : List CatchmentRow := rowGroup.batches.flatten

def numRows (rowGroup : RowGroup) : ℕ := rowGroup.rows.length

end RowGroup

/-- The catchments file: its columns in order and its row groups. -/
structure CatchmentFile where
  columns : List CatchmentColumn
  rowGroups : List RowGroup

namespace CatchmentFile

/-- The rows of the file in file order. -/
def rows (file : CatchmentFile) : List CatchmentRow := file.rowGroups.flatMap RowGroup.rows

end CatchmentFile

/-- `extract_row_group_bbox`. -/
def extractRowGroupBbox (hfx : HfxUnit) (statistics : RowGroupStatistics) : Option UnitBox := do
  let minx ← statistics.minx
  let miny ← statistics.miny
  let maxx ← statistics.maxx
  let maxy ← statistics.maxy
  if hfx.boundingBox minx miny maxx maxy = none then some ⟨minx, miny, maxx, maxy⟩ else none

/-! ## Opening -/

/-- A row group that is pruned by its box. -/
structure RowGroupBbox where
  index : ℕ
  bbox : UnitBox
  deriving DecidableEq, Repr

/-- The state of an open store. The id index names row groups of the file. -/
structure CatchmentStore where
  file : CatchmentFile
  rowGroups : List RowGroupBbox
  groupsWithoutStats : List ℕ
  idRowGroups : UnitId → Option (Fin file.rowGroups.length)

/-- `require_column` of a column of its expected type. -/
def requireColumn (file : CatchmentFile) (column : CatchmentColumn) : Except SessionError Unit :=
  failWhen (column ∉ file.columns)
    (.parquetSchema catchmentsArtifact s!"missing required column {debugStr column.path}")

/-- The leaves of the `bbox` struct. -/
def bboxColumns : List CatchmentColumn := [.bboxXmin, .bboxYmin, .bboxXmax, .bboxYmax]

/-- `validate_bbox_struct_field`. -/
def validateBboxStructField (file : CatchmentFile) : Except SessionError Unit := do
  failWhen (∀ column ∈ bboxColumns, column ∉ file.columns)
    (.missingBboxColumn catchmentsArtifact "bbox")
  failWhen (∃ column ∈ bboxColumns, column ∉ file.columns)
    (.parquetSchema catchmentsArtifact "column \"bbox\" must contain xmin, ymin, xmax, ymax")

/-- The row-group metadata pass and the index of the file. -/
def openObject (hfx : HfxUnit) (file : CatchmentFile)
    (idRowGroups : UnitId → Option (Fin file.rowGroups.length)) :
    Except SessionError CatchmentStore := do
  requireColumn file .id
  requireColumn file .areaKm2
  requireColumn file .upAreaKm2
  validateBboxStructField file
  requireColumn file .geometry
  .ok {
    file
    rowGroups := file.rowGroups.zipIdx.filterMap fun rowGroup =>
      (extractRowGroupBbox hfx rowGroup.1.statistics).map (⟨rowGroup.2, ·⟩)
    groupsWithoutStats := file.rowGroups.zipIdx.filterMap fun rowGroup =>
      if extractRowGroupBbox hfx rowGroup.1.statistics = none then some rowGroup.2 else none
    idRowGroups }

/-! ## Projections -/

/-- `named_column_index`, and `id_column_index` for the id. -/
def namedColumnIndex (columns : List CatchmentColumn) (column : CatchmentColumn) :
    Except SessionError ℕ :=
  require (.parquetSchema catchmentsArtifact s!"missing column \"{column.path}\"")
    (columns.idxOf? column)

/-- `bbox_struct_leaf_indices`, with the error of its callers when there is no leaf. -/
def bboxStructLeafIndices (columns : List CatchmentColumn) : Except SessionError (List ℕ) := do
  let indices := bboxColumns.map columns.idxOf?
  failWhen (indices.all Option.isNone) (.missingBboxColumn catchmentsArtifact "bbox")
  require (.parquetSchema catchmentsArtifact "bbox struct must contain xmin, ymin, xmax, ymax leaves")
    (indices.mapM id)

/-- `full_projection_indices`. The labels are left out. -/
def fullProjectionIndices (columns : List CatchmentColumn) : Except SessionError (List ℕ) := do
  let idIndex ← namedColumnIndex columns .id
  let optional : List CatchmentColumn := [.level, .parentId, .outletLon, .outletLat]
  let bboxIndices ← bboxStructLeafIndices columns
  let areaIndex ← namedColumnIndex columns .areaKm2
  let upAreaIndex ← namedColumnIndex columns .upAreaKm2
  let geometryIndex ← namedColumnIndex columns .geometry
  .ok (idIndex :: optional.filterMap columns.idxOf? ++ [areaIndex, upAreaIndex] ++ bboxIndices ++
    [geometryIndex])

/-- `geometry_projection_indices`. -/
def geometryProjectionIndices (columns : List CatchmentColumn) : Except SessionError (List ℕ) := do
  let idIndex ← namedColumnIndex columns .id
  let geometryIndex ← namedColumnIndex columns .geometry
  .ok [idIndex, geometryIndex]

/-- `ProjectionMask::leaves`: the columns at the indices, in file order. -/
def projectLeaves (columns : List CatchmentColumn) (indices : List ℕ) : List CatchmentColumn :=
  (columns.zipIdx.filter fun column => column.2 ∈ indices).map (·.1)

/-! ## Reading row groups -/

/-- The absolute row at which each selected row group starts. -/
def absoluteRowStarts (selected : List ℕ) : List RowGroup → ℕ → ℕ → List ℕ
  | [], _, _ => []
  | rowGroup :: rowGroups, index, cumulative =>
    (if index ∈ selected then [cumulative] else []) ++
      absoluteRowStarts selected rowGroups (index + 1) (cumulative + rowGroup.numRows)

section Read

variable {ε β : Type}

/-- The batches of a row group in order, each with its absolute row. -/
def readBatches (extract : List CatchmentRow → ℕ → Except ε (List β)) :
    List (List CatchmentRow) → ℕ → Except ε (List β)
  | [], _ => .ok []
  | batch :: batches, row => do
    let found ← extract batch row
    let rest ← readBatches extract batches (row + batch.length)
    .ok (found ++ rest)

/-- One row group from its absolute start. -/
def readRowGroup (lift : SessionError → ε) (extract : List CatchmentRow → ℕ → Except ε (List β))
    (rowGroups : List RowGroup) (index start : ℕ) : Except ε (List β) :=
  match rowGroups[index]? with
  | some rowGroup => readBatches extract rowGroup.batches start
  | none => .error (lift (.rowGroupReadError catchmentsArtifact index))

/-- The selected row groups in order. -/
def readRowGroups (lift : SessionError → ε) (extract : List CatchmentRow → ℕ → Except ε (List β))
    (rowGroups : List RowGroup) (selected : List ℕ) : Except ε (List β) := do
  let results ← (selected.zip (absoluteRowStarts selected rowGroups 0 0)).mapM fun start =>
    readRowGroup lift extract rowGroups start.1 start.2
  .ok results.flatten

end Read

/-! ## Queries -/

/-- The columns that `extract_units_from_batch` looks up before it reads rows. -/
def checkUnitColumns (columns : List CatchmentColumn) : Except SessionError Unit := do
  let missing (name : String) : SessionError :=
    .parquetSchema catchmentsArtifact s!"missing column \"{name}\""
  failWhen (.id ∉ columns) (missing "id")
  failWhen (.areaKm2 ∉ columns) (missing "area_km2")
  failWhen (.upAreaKm2 ∉ columns) (missing "up_area_km2")
  failWhen (∀ column ∈ bboxColumns, column ∉ columns) (missing "bbox")
  bboxColumns.forM fun column => failWhen (column ∉ columns)
    (.parquetSchema catchmentsArtifact s!"{column.path} leaf missing or wrong type")
  failWhen (.geometry ∉ columns) (missing "geometry")

/-- `extract_units_from_batch`. -/
def extractUnitsFromBatch (hfx : HfxUnit) (columns : List CatchmentColumn) (batch : List CatchmentRow)
    (rowOffset : ℕ) : Except SessionError (List CatchmentUnit) := do
  checkUnitColumns columns
  (batch.zipIdx rowOffset).mapM fun row =>
    (rowUnit hfx columns row.1).mapError (.invalidRow catchmentsArtifact row.2)

/-- Errors of geometry-only queries. -/
inductive CatchmentGeometryQueryError where
  | read (source : SessionError)
  | decode (unitId : UnitId) (source : WkbDecodeError)
  deriving DecidableEq, Repr

/-- A row's error with the absolute row. -/
def GeometryRowError.atRow (row : ℕ) : GeometryRowError → CatchmentGeometryQueryError
  | .invalidRow reason => .read (.invalidRow catchmentsArtifact row reason)
  | .decode unitId source => .decode unitId source

section Geometry

variable {Polygon : Type}

/-- `extract_decoded_geometries_from_batch`. -/
def extractDecodedGeometriesFromBatch (hfx : HfxUnit)
    (toGeo : List UInt8 → Except String (GeoGeometry Polygon)) (columns : List CatchmentColumn)
    (requestedIds : List UnitId) (batch : List CatchmentRow) (rowOffset : ℕ) :
    Except CatchmentGeometryQueryError (List (DecodedCatchmentGeometryRow Polygon)) := do
  let missing (name : String) : SessionError :=
    .parquetSchema catchmentsArtifact s!"missing column \"{name}\""
  (failWhen (.id ∉ columns) (missing "id")).mapError .read
  (failWhen (.geometry ∉ columns) (missing "geometry")).mapError .read
  let rows ← (batch.zipIdx rowOffset).mapM fun row =>
    (rowGeometry hfx toGeo columns requestedIds row.1).mapError (GeometryRowError.atRow row.2)
  .ok rows.reduceOption

end Geometry

namespace CatchmentStore

variable (hfx : HfxUnit) (store : CatchmentStore)

/-- The row groups that a bbox query scans. -/
def matchingRowGroups (queryBbox : UnitBox) : List ℕ :=
  sortDedup (((store.rowGroups.filter (·.bbox.intersects queryBbox)).map (·.index)) ++
    store.groupsWithoutStats)

/-- `query_by_bbox`. Row groups without a box are always read. -/
def queryByBbox (queryBbox : UnitBox) : Except SessionError (List CatchmentUnit) :=
  let selected := store.matchingRowGroups queryBbox
  if selected.isEmpty then .ok []
  else readRowGroups id (fun batch row => do
      let units ← extractUnitsFromBatch hfx store.file.columns batch row
      .ok (units.filter (·.bbox.intersects queryBbox)))
    store.file.rowGroups selected

/-- `selected_row_groups_for_ids`. -/
def selectedRowGroupsForIds (ids : List UnitId) : List ℕ :=
  sortDedup (ids.filterMap fun id => (store.idRowGroups id).map (·.val))

/-- `query_by_ids`. Only row groups with a requested id are read. -/
def queryByIds (ids : List UnitId) : Except SessionError (List CatchmentUnit) :=
  let selected := store.selectedRowGroupsForIds ids
  if ids.isEmpty || selected.isEmpty then .ok []
  else do
    let projection := projectLeaves store.file.columns (← fullProjectionIndices store.file.columns)
    readRowGroups id (fun batch row => do
        let units ← extractUnitsFromBatch hfx projection batch row
        .ok (units.filter (·.id ∈ ids)))
      store.file.rowGroups selected

/-- `query_geometries_by_ids`. -/
def queryGeometriesByIds {Polygon : Type} (toGeo : List UInt8 → Except String (GeoGeometry Polygon))
    (ids : List UnitId) :
    Except CatchmentGeometryQueryError (List (DecodedCatchmentGeometryRow Polygon)) :=
  let selected := store.selectedRowGroupsForIds ids
  if ids.isEmpty || selected.isEmpty then .ok []
  else do
    let projection := projectLeaves store.file.columns
      (← (geometryProjectionIndices store.file.columns).mapError .read)
    readRowGroups .read (extractDecodedGeometriesFromBatch hfx toGeo projection ids)
      store.file.rowGroups selected

/-- `contains_id`. -/
def containsId (id : UnitId) : Bool := (store.idRowGroups id).isSome

end CatchmentStore

end Pourpoint
