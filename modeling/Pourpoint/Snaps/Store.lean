import Pourpoint.Library.DebugText
import Pourpoint.Snaps.Row

/-!
# The snap store

A snap file has columns in any order and its rows in row groups. Opening checks the columns that the
reader needs and keeps the boxes of the row groups from the statistics of the `bbox` leaves; a group with
a null leaf, or without the number of nulls, is kept aside and never pruned.

A box query and a visit select row groups, read them in file order and filter the rows. The membership
read goes through all row groups with a projection to two columns.
-/

namespace Pourpoint

open Library

/-! ## The file -/

/-- The types of columns that the reader tells apart. -/
inductive ColumnType where
  | int64
  | float32
  | utf8
  | binary
  | largeBinary
  /-- A struct of primitive fields: their names, and whether they are `Float32`. -/
  | struct (fields : List (String × Bool))
  /-- Any other type, by the names of its leaf columns. -/
  | other (leaves : List String)
  deriving DecidableEq, Repr

/-- A root column. `typeText` is the `Debug` text of its type. -/
structure RootColumn where
  name : String
  nullable : Bool
  type : ColumnType
  typeText : String
  deriving DecidableEq, Repr

/-- The names of the leaf columns below a root column. -/
def RootColumn.leaves (column : RootColumn) : List String :=
  match column.type with
  | .struct fields => fields.map (·.1)
  | .other leaves => leaves
  | _ => [column.name]

/-- The schema of a file. Root columns have different names. -/
structure SnapSchema where
  columns : List RootColumn
  nodup : (columns.map (·.name)).Nodup

namespace SnapSchema

/-- `SchemaDescriptor::columns`: the leaf columns by the last part of their path. -/
def leaves (schema : SnapSchema) : List String := schema.columns.flatMap RootColumn.leaves

/-- `field_with_name`. -/
def column? (schema : SnapSchema) (name : String) : Option RootColumn :=
  schema.columns.find? (·.name = name)

end SnapSchema

/-- The statistics of a leaf: the extreme value that is of interest and the number of nulls, where the
writer stored them. -/
structure LeafStatistics where
  extreme : Option F32
  nullCount : Option ℕ
  deriving DecidableEq, Repr

/-- The statistics of the leaves of the `bbox` struct: minima of `xmin` and `ymin`, maxima of `xmax` and
`ymax`. -/
structure SnapStatistics where
  minx : LeafStatistics
  miny : LeafStatistics
  maxx : LeafStatistics
  maxy : LeafStatistics
  deriving DecidableEq, Repr

/-- A row group, and the batches in which the reader returns its rows for a batch size. -/
structure SnapRowGroup where
  rows : List SnapRow
  batches : ℕ → List (List SnapRow)
  flatten_batches : ∀ size, (batches size).flatten = rows
  statistics : SnapStatistics

/-- The snap file: its schema and row groups. -/
structure SnapFile where
  schema : SnapSchema
  rowGroups : List SnapRowGroup

namespace SnapFile

/-- The rows of the row groups. -/
def parts (file : SnapFile) : List (List SnapRow) := file.rowGroups.map (·.rows)

/-- The rows of the file in file order. -/
def rows (file : SnapFile) : List SnapRow := file.parts.flatten

/-- `num_rows` of the row groups. -/
def rowCounts (file : SnapFile) : List ℕ := file.rowGroups.map (·.rows.length)

end SnapFile

/-! ## Opening -/

/-- A row group that is pruned by its box. -/
structure SnapRowGroupBbox where
  index : ℕ
  bbox : UnitBox
  deriving DecidableEq, Repr

/-- The state of an open store. -/
structure SnapStore where
  file : SnapFile
  rowGroups : List SnapRowGroupBbox
  groupsWithoutStats : List ℕ

/-- `extract_row_group_bbox`. -/
def SnapStatistics.bbox (reader : SnapReader) (statistics : SnapStatistics) : Option UnitBox := do
  let minx ← statistics.minx.extreme
  let miny ← statistics.miny.extreme
  let maxx ← statistics.maxx.extreme
  let maxy ← statistics.maxy.extreme
  if reader.boundingBox minx miny maxx maxy = none then some ⟨minx, miny, maxx, maxy⟩ else none

/-- No leaf of the group is null. -/
def SnapStatistics.withoutNulls (statistics : SnapStatistics) : Bool :=
  [statistics.minx, statistics.miny, statistics.maxx, statistics.maxy].all fun leaf =>
    leaf.nullCount = some 0

/-- The box by which a row group is pruned, when the file has the `bbox` leaves. -/
def rowGroupBox (reader : SnapReader) (hasBbox : Bool) (statistics : SnapStatistics) :
    Option UnitBox :=
  if hasBbox && statistics.withoutNulls then statistics.bbox reader else none

/-- An error about the schema of the snap file. -/
def snapSchemaError (detail : String) : SessionError := .parquetSchema snapArtifact detail

/-- `require_column`. -/
def requireSnapColumn (schema : SnapSchema) (name : String) (expected : ColumnType)
    (expectedText : String) : Except SessionError Unit := do
  let column ← require (snapSchemaError s!"missing required column {debugStr name}") (schema.column? name)
  failWhen (column.type ≠ expected ∧ ¬(column.type = .largeBinary ∧ expected = .binary))
    (snapSchemaError
      s!"column {debugStr name} has type {column.typeText}, expected {expectedText}")

/-- `validate_bbox_struct_field` of a nullable column that exists. -/
def validateSnapBbox (column : RootColumn) : Except SessionError Unit := do
  failWhen (column.nullable = false)
    (snapSchemaError "column \"bbox\" has nullable=false, expected nullable=true")
  match column.type with
  | .struct fields =>
    failWhen (fields.length ≠ 4)
      (snapSchemaError "column \"bbox\" must contain xmin, ymin, xmax, ymax")
    failWhen (fields ≠ [("xmin", true), ("ymin", true), ("xmax", true), ("ymax", true)])
      (snapSchemaError "column \"bbox\" must be struct<xmin,ymin,xmax,ymax: Float32>")
  | _ =>
    .error (snapSchemaError "column \"bbox\" must be struct<xmin,ymin,xmax,ymax: Float32>")

/-- The schema checks of `open_object`. -/
def checkSnapSchema (schema : SnapSchema) : Except SessionError Unit := do
  requireSnapColumn schema "id" .int64 "Int64"
  requireSnapColumn schema "unit_id" .int64 "Int64"
  requireSnapColumn schema "weight" .float32 "Float32"
  match schema.column? "stem_role" with
  | some column =>
    failWhen (column.type ≠ .utf8)
      (snapSchemaError "column \"stem_role\" must be Utf8 when present")
  | none => .ok ()
  match schema.column? "bbox" with
  | some column => validateSnapBbox column
  | none => .ok ()
  requireSnapColumn schema "geometry" .binary "Binary"

namespace SnapStore

/-- The row-group index of `open_object`. -/
def openObject (reader : SnapReader) (file : SnapFile) : Except SessionError SnapStore := do
  checkSnapSchema file.schema
  let box (rowGroup : SnapRowGroup) : Option UnitBox :=
    rowGroupBox reader (file.schema.column? "bbox").isSome rowGroup.statistics
  .ok {
    file
    rowGroups := file.rowGroups.zipIdx.filterMap fun rowGroup =>
      (box rowGroup.1).map (⟨rowGroup.2, ·⟩)
    groupsWithoutStats := file.rowGroups.zipIdx.filterMap fun rowGroup =>
      if box rowGroup.1 = none then some rowGroup.2 else none }

/-! ## Queries -/

section

variable (reader : SnapReader) (store : SnapStore)

/-- The candidate row groups, for a test of the boxes. -/
def candidates (meets : UnitBox → Bool) : List ℕ :=
  ((store.rowGroups.filter fun rowGroup => meets rowGroup.bbox).map (·.index) ++
    store.groupsWithoutStats).insertionSort (· ≤ ·)

/-- One row group in batches of a size, from its absolute start. -/
def readRowGroup {ε β : Type} (size : ℕ) (missing : ℕ → ε)
    (extract : List SnapRow → ℕ → Except ε (List β)) (index start : ℕ) : Except ε (List β) :=
  match store.file.rowGroups[index]? with
  | some rowGroup => readChunks extract (rowGroup.batches size) start
  | none => .error (missing index)

/-- The error of a row group that cannot be read. -/
def missingRowGroup (index : ℕ) : SnapReadError := .session (.rowGroupReadError snapArtifact index)

/-- The rows of selected row groups that a filter keeps. -/
def readTargets (size : ℕ) (filter : SnapRowFilter) (selected : List ℕ) :
    Except SnapReadError (List SnapTargetRow) :=
  readParts (store.readRowGroup size missingRowGroup (extractSnapTargetsFromBatch reader filter))
    selected store.file.rowCounts

/-- `query_by_bbox`, in batches of the default size. -/
def queryByBbox (queryBbox : UnitBox) : Except SnapReadError (List SnapTarget) :=
  let selected := store.candidates (·.intersects queryBbox)
  if selected = [] then .ok []
  else do
    let rows ← store.readTargets reader 1024 (.boundingBox queryBbox) selected
    .ok (rows.map (·.target))

/-! ## Visits -/

/-- How a visit ends that does not complete. -/
inductive VisitError (E : Type) where
  | read (source : SnapReadError)
  | callback (source : E)

variable {E S : Type}

/-- The targets to which the callback is applied, in order, and the result with the state that the
callback has left. -/
abbrev Visited (E S : Type) := List SnapTargetRow × Except (VisitError E) S

/-- Continue with another part of the visit. -/
def Visited.andThen (first : Visited E S) (rest : S → Visited E S) : Visited E S :=
  match first.2 with
  | .ok s => (first.1 ++ (rest s).1, (rest s).2)
  | .error e => (first.1, .error e)

/-- The callback on the targets of a batch. -/
def callEach (callback : S → SnapTargetRow → Except E S) : List SnapTargetRow → S → Visited E S
  | [], s => ([], .ok s)
  | target :: targets, s =>
    match callback s target with
    | .ok s => Visited.andThen ([target], .ok s) (callEach callback targets)
    | .error e => ([target], .error (.callback e))

/-- The batches of a row group. -/
def visitBatches (scope : SnapScope) (callback : S → SnapTargetRow → Except E S) :
    List (List SnapRow) → ℕ → S → Visited E S
  | [], _, s => ([], .ok s)
  | batch :: batches, offset, s =>
    match extractSnapTargetsFromBatch reader (.geometry scope) batch offset with
    | .error e => ([], .error (.read e))
    | .ok targets => (callEach callback targets s).andThen
        (visitBatches scope callback batches (offset + batch.length))

/-- The row groups with their absolute starts. -/
def visitRowGroups (scope : SnapScope) (callback : S → SnapTargetRow → Except E S) :
    List (ℕ × ℕ) → S → Visited E S
  | [], s => ([], .ok s)
  | (index, start) :: rest, s =>
    match store.file.rowGroups[index]? with
    | none => ([], .error (.read (.session (snapSchemaError
        "selected row group missing from stream"))))
    | some rowGroup => (visitBatches reader scope callback (rowGroup.batches 8192) start s).andThen
        (visitRowGroups scope callback rest)

/-- `visit`. The callback is a function of the state that it has left itself. -/
def visit (scope : SnapScope) (callback : S → SnapTargetRow → Except E S) (s : S) : Visited E S :=
  let selected := store.candidates scope.mayIntersect
  store.visitRowGroups reader scope callback
    (selected.zip (partStarts selected store.file.rowCounts 0 0)) s

end

/-! ## Membership -/

section

variable (reader : SnapReader)

/-- The columns of a batch: those of the schema that the projection keeps. -/
def projectedColumns (schema : SnapSchema) (mask : List ℕ) : List RootColumn :=
  (schema.columns.zipIdx.filter fun column => column.2 ∈ mask).map (·.1)

/-- One row of the membership read. -/
def membershipRow (row : SnapRow) (absoluteRow : ℕ) : Except SnapReadError SnapRef := do
  let id ← match row.id with
    | some id => .ok id
    | none => invalidSnapRow absoluteRow "null id"
  let unitId ← match row.unitId with
    | some unitId => .ok unitId
    | none => invalidSnapRow absoluteRow "null unit_id"
  match reader.snapId id with
  | some e => invalidSnapRow absoluteRow ("invalid id: " ++ e)
  | none =>
    match reader.unitId unitId with
    | some e => invalidSnapRow absoluteRow ("invalid unit_id: " ++ e)
    | none => .ok ⟨id, unitId⟩

/-- An `Int64` column of a batch by its name. -/
def int64Column (columns : List RootColumn) (name : String) : Except SnapReadError Unit :=
  match columns.find? (·.name = name) with
  | some ⟨_, _, .int64, _⟩ => .ok ()
  | _ => .error (.session (snapSchemaError (name ++ " column is not Int64")))

/-- One batch of the membership read. -/
def membershipBatch (columns : List RootColumn) (batch : List SnapRow) (start : ℕ) :
    Except SnapReadError (List SnapRef) := do
  int64Column columns "id"
  int64Column columns "unit_id"
  (batch.zipIdx start).mapM fun row => membershipRow reader row.1 row.2

/-- `read_all_snap_membership_refs_from_store`. `roots` is `ProjectionMask::roots`: the root columns that
it selects for some positions. It need not accept a position past the last root column. -/
def readAllSnapMembershipRefs (roots : SnapSchema → List ℕ → Option (List ℕ)) (store : SnapStore) :
    Except SnapReadError (Option (List SnapRef)) := do
  let schema := store.file.schema
  let idColIdx ← match schema.leaves.idxOf? "id" with
    | some i => .ok i
    | none => .error (.session (snapSchemaError "missing column \"id\""))
  let unitIdColIdx ← match schema.leaves.idxOf? "unit_id" with
    | some i => .ok i
    | none => .error (.session (snapSchemaError "missing column \"unit_id\""))
  match roots schema [idColIdx, unitIdColIdx] with
  | none => .ok none
  | some mask =>
    let selected := List.range store.file.rowGroups.length
    let refs ← readParts (store.readRowGroup 8192 missingRowGroup
      (membershipBatch reader (projectedColumns schema mask))) selected store.file.rowCounts
    .ok (some refs)

end

end SnapStore

end Pourpoint
