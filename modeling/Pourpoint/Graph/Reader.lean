import Pourpoint.Catchment.Row
import Pourpoint.Library.DebugText

/-!
# The graph file and its reader

`graph.parquet` is read in record batches into a drainage graph. The cells of a row are found by
column name and downcast in every batch, and a row is numbered by its place in the file.
`levels_from_row_group_statistics` reads the footer alone.
-/

namespace Pourpoint

open Library

/-! ## The file -/

/-- Column types, as far as the reader tells them apart. -/
inductive GraphType where
  | int64
  | int16
  | list (inner : GraphType)
  | largeList (inner : GraphType)
  | other
  deriving DecidableEq, Repr

/-- A field of the schema, with the debug text of its type and the number of its leaf columns in the
file. -/
structure GraphField where
  name : String
  dataType : GraphType
  debug : String
  leaves : ℕ
  deriving DecidableEq, Repr

/-- The values of one list cell. An `Int64` buffer has a value in the slot of a null as well. -/
inductive ListValues where
  | int64 (slots : List ℤ)
  | other
  deriving DecidableEq, Repr

/-- A column of a batch: its cells, `none` where null. -/
inductive GraphArray where
  | int64 (cells : List (Option ℤ))
  | int16 (cells : List (Option Int16))
  | list (cells : List (Option ListValues))
  | largeList (cells : List (Option ListValues))
  | other (length : ℕ)
  deriving DecidableEq

namespace GraphArray

def length : GraphArray → ℕ
  | int64 cells => cells.length
  | int16 cells => cells.length
  | list cells => cells.length
  | largeList cells => cells.length
  | other length => length

/-- The array is one of the given type. -/
def HasType : GraphArray → GraphType → Prop
  | int64 _, .int64 => True
  | int16 _, .int16 => True
  | list cells, .list inner =>
    inner = .int64 → ∀ values, some values ∈ cells → ∃ slots, values = .int64 slots
  | largeList cells, .largeList inner =>
    inner = .int64 → ∀ values, some values ∈ cells → ∃ slots, values = .int64 slots
  | other _, .other => True
  | _, _ => False

end GraphArray

/-- A record batch, whose columns have one length. -/
structure GraphBatch where
  numRows : ℕ
  columns : List (String × GraphArray)
  length_eq : ∀ column ∈ columns, column.2.length = numRows

/-- The statistics of a leaf column in a row group. -/
inductive ColumnStatistics where
  | int32 (min max : Option ℤ)
  | other
  deriving DecidableEq, Repr

/-- One row of the file. -/
structure GraphRow where
  id : Option ℤ
  level : Option Int16
  upstreamIds : Option (List ℤ)
  deriving DecidableEq

/-- A row group, as the rows that it holds and the metadata of its leaf columns. -/
structure GraphRowGroup where
  rows : List GraphRow
  statistics : ℕ → Option ColumnStatistics

/-- The file. A batch that cannot be read is `none`. -/
structure GraphFile where
  schema : List GraphField
  batches : List (Option GraphBatch)
  rowGroups : List GraphRowGroup

/-! ## Errors -/

/-- `hfx::GraphError`. -/
inductive GraphError where
  | duplicateUnitId (id : UnitId) (first second : ℕ)
  | other (text : String)
  deriving DecidableEq, Repr

/-- The session errors of the reader. -/
inductive GraphReadError where
  | parquetParse
  | graphSchema (detail : String)
  | graphMissingBboxColumn (column : String)
  | invalidRow (row : ℕ) (reason : String)
  | graphReferentialIntegrity (reason : String)
  | graphDomain (source : GraphError)
  | parquetSchema (detail : String)
  deriving DecidableEq, Repr

/-- The error for a graph that the domain rejects. -/
def GraphReadError.ofGraph : GraphError → GraphReadError
  | .duplicateUnitId id first second =>
    .graphReferentialIntegrity s!"duplicate graph unit {id} at rows {first} and {second}"
  | source => .graphDomain source

/-! ## Schema validation -/

/-- A list of 64-bit integers, of either offset width. -/
def GraphType.isListInt64 : GraphType → Bool
  | .list .int64 => true
  | .largeList .int64 => true
  | _ => false

/-- `Schema::field_with_name`. -/
def fieldWithName (schema : List GraphField) (name : String) : Option GraphField :=
  schema.find? (·.name = name)

/-- `require_graph_column`, with the debug text of the expected type. -/
def requireGraphColumn (schema : List GraphField) (name : String) (expected : GraphType)
    (debug : String) : Except GraphReadError Unit :=
  match fieldWithName schema name with
  | some field =>
    if field.dataType = expected then .ok ()
    else .error (.graphSchema s!"column {debugStr name} has type {field.debug}, expected {debug}")
  | none =>
    .error (.graphSchema s!"missing required column {debugStr name} (expected {debug})")

/-- The list of upstream ids is required. -/
def requireUpstreamColumn (schema : List GraphField) : Except GraphReadError Unit :=
  match fieldWithName schema "upstream_ids" with
  | some field =>
    if field.dataType.isListInt64 then .ok ()
    else .error (.graphSchema
      s!"column \"upstream_ids\" has type {field.debug}, expected List(Int64) or LargeList(Int64)")
  | none =>
    .error (.graphSchema "missing required column \"upstream_ids\" (expected List(Int64))")

def graphBboxColumns : List String := ["bbox_minx", "bbox_miny", "bbox_maxx", "bbox_maxy"]

/-- A bound is required; its type is not checked. -/
def requireBboxColumn (schema : List GraphField) (column : String) : Except GraphReadError Unit :=
  if fieldWithName schema column = none then .error (.graphMissingBboxColumn column) else .ok ()

/-- `validate_schema` of the graph. -/
def validateGraphSchema (schema : List GraphField) : Except GraphReadError Unit := do
  requireGraphColumn schema "id" .int64 "Int64"
  requireGraphColumn schema "level" .int16 "Int16"
  requireUpstreamColumn schema
  graphBboxColumns.forM (requireBboxColumn schema)

/-! ## Reading -/

/-- The reason for an invalid row, under the row's number. -/
def atRow {α : Type} (row : ℕ) (x : Except String α) : Except GraphReadError α :=
  x.mapError (.invalidRow row)

def nonNullCell {α : Type} (column : String) : Option α → Except String α
  | some a => .ok a
  | none => .error s!"null value in non-nullable column \"{column}\""

section reader

variable (hfx : HfxUnit)

/-- One upstream unit id. -/
def upstreamId (raw : ℤ) : Except String UnitId := do
  checked s!"invalid upstream unit id {raw}" (hfx.unitId raw)
  .ok raw

/-- `convert_upstream_values`. -/
def convertUpstreamValues (slots : List ℤ) (row : ℕ) : Except GraphReadError (List UnitId) :=
  slots.mapM fun raw => atRow row (upstreamId hfx raw)

/-- The two branches of `extract_upstream` for a list array. -/
def extractList (cells : List (Option ListValues)) (i row : ℕ) :
    Except GraphReadError (List UnitId) := do
  match ← atRow row (nonNullCell "upstream_ids" (cells.getD i none)) with
  | .int64 slots => convertUpstreamValues hfx slots row
  | .other => .error (.graphSchema "inner values of \"upstream_ids\" are not Int64")

/-- `extract_upstream`. -/
def extractUpstream (array : GraphArray) (i row : ℕ) : Except GraphReadError (List UnitId) :=
  match array with
  | .list cells => extractList hfx cells i row
  | .largeList cells => extractList hfx cells i row
  | _ => .error (.graphSchema "upstream_ids column has unexpected type after schema validation")

def GraphArray.asInt64 : Option GraphArray → Except GraphReadError (List (Option ℤ))
  | some (.int64 cells) => .ok cells
  | _ => .error (.graphSchema "column \"id\" is not Int64")

def GraphArray.asInt16 : Option GraphArray → Except GraphReadError (List (Option Int16))
  | some (.int16 cells) => .ok cells
  | _ => .error (.graphSchema "column \"level\" is not Int16")

def upstreamColumn : Option GraphArray → Except GraphReadError GraphArray
  | some array => .ok array
  | none => .error (.graphSchema "column \"upstream_ids\" missing from record batch")

/-- The body of the loop over the rows of a batch. -/
def readGraphRow (ids : List (Option ℤ)) (levels : List (Option Int16)) (upstream : GraphArray)
    (start i : ℕ) : Except GraphReadError AdjacencyRow := do
  let rawId ← atRow (start + i) (nonNullCell "id" (ids.getD i none))
  let rawLevel ← atRow (start + i) (nonNullCell "level" (levels.getD i none))
  atRow (start + i) (checked s!"invalid unit id {rawId}" (hfx.unitId rawId))
  atRow (start + i) (checked s!"invalid level {rawLevel.toInt}" (hfx.level rawLevel.toInt))
  let upstreamIds ← extractUpstream hfx upstream i (start + i)
  .ok ⟨rawId, rawLevel.toInt, upstreamIds⟩

/-- The body of the loop over the batches. -/
def readGraphBatch (batch : GraphBatch) (start : ℕ) : Except GraphReadError (List AdjacencyRow) := do
  let ids ← GraphArray.asInt64 (batch.columns.lookup "id")
  let levels ← GraphArray.asInt16 (batch.columns.lookup "level")
  let upstream ← upstreamColumn (batch.columns.lookup "upstream_ids")
  (List.range batch.numRows).mapM (readGraphRow hfx ids levels upstream start)

/-- Batch after batch, with the rows before each counted. -/
def readGraphBatches : List (Option GraphBatch) → ℕ → Except GraphReadError (List AdjacencyRow)
  | [], _ => .ok []
  | none :: _, _ => .error .parquetParse
  | some batch :: batches, start => do
    let rows ← readGraphBatch hfx batch start
    let rest ← readGraphBatches batches (start + batch.numRows)
    .ok (rows ++ rest)

/-- `read_graph_from_builder`. `newGraph` is `DrainageGraph::new`. -/
def readGraph (newGraph : List AdjacencyRow → Except GraphError DrainageGraph) (file : GraphFile) :
    Except GraphReadError DrainageGraph := do
  validateGraphSchema file.schema
  let rows ← readGraphBatches hfx file.batches 0
  (newGraph rows).mapError GraphReadError.ofGraph

/-! ## Statistics -/

/-- `level_from_stat`. -/
def levelFromStat (raw : ℤ) : Except GraphReadError Level :=
  if -2 ^ 15 ≤ raw ∧ raw < 2 ^ 15 then do
    (checked s!"invalid row-group level statistic {raw}" (hfx.level raw)).mapError .parquetSchema
    .ok raw
  else .error (.parquetSchema s!"row-group level statistic {raw} does not fit Int16")

/-- `transpose` of a converted statistic. -/
def optionalLevel : Option ℤ → Except GraphReadError (List Level)
  | none => .ok []
  | some raw => do
    let level ← levelFromStat hfx raw
    .ok [level]

/-- `int16_stat_min` and then `int16_stat_max`. -/
def statisticsLevels : Option ColumnStatistics → Except GraphReadError (List Level)
  | some (.int32 min max) => do
    let low ← optionalLevel hfx min
    let high ← optionalLevel hfx max
    .ok (low ++ high)
  | _ => .ok []

/-- `BTreeSet::insert`. -/
def insertLevel (levels : List Level) (level : Level) : List Level :=
  if level ∈ levels then levels else levels.orderedInsert (· ≤ ·) level

/-- `levels_from_row_group_statistics`. The column of the metadata is looked up by the place of the
field in the schema. -/
def levelsFromRowGroupStatistics (file : GraphFile) : Except GraphReadError (List Level) := do
  validateGraphSchema file.schema
  match file.schema.findIdx? (·.name = "level") with
  | none => .error (.graphSchema "missing required column \"level\"")
  | some levelCol => do
    let found ← file.rowGroups.mapM fun rowGroup => statisticsLevels hfx (rowGroup.statistics levelCol)
    .ok (found.flatten.foldl insertLevel [])

/-- `max_level_from_row_group_statistics`. -/
def maxLevelFromRowGroupStatistics (file : GraphFile) : Except GraphReadError (Option Level) := do
  let levels ← levelsFromRowGroupStatistics hfx file
  .ok levels.max?

end reader

end Pourpoint
