import Pourpoint.Export.RowGroups
import Pourpoint.Export.Spatial
import Pourpoint.Library.StableSort

/-!
# Sorted tables

Both writers sort their rows by a spatial key, take the bounds of all rows for the footer, cut the rows
into row groups and hand them to Parquet. What a successful write puts into the file is every row once,
in order (`writeTable_run_eq_ok`).
-/

namespace Pourpoint

open Library Fallible

/-! ## Sort keys -/

/-- `BasinSpatialSortKey` and `UnitBundleSpatialSortKey`, by the type of the identity. -/
structure SpatialSortKey (Id : Type) where
  hilbertIndex : ℕ
  id : Id
  delineation : DelineationLabel
  deriving DecidableEq

abbrev BasinSpatialSortKey := SpatialSortKey BasinId

abbrev UnitBundleSpatialSortKey := SpatialSortKey UnitId

/-- The derived order of the keys. -/
def BasinSpatialSortKey.order (key : BasinSpatialSortKey) : ℕ ×ₗ String ×ₗ String :=
  toLex (key.hilbertIndex, toLex (key.id.value, key.delineation.value))

/-- The key as a lexicographic triple. -/
def UnitBundleSpatialSortKey.order (key : UnitBundleSpatialSortKey) : ℕ ×ₗ ℤ ×ₗ String :=
  toLex (key.hilbertIndex, toLex (key.id, key.delineation.value))

/-- `from_geometry` of both keys. -/
def SpatialSortKey.fromGeometry {Polygon Id : Type} (geo : GeometryReads Polygon) (id : Id)
    (delineation : DelineationLabel) (geometry : List Polygon) :
    Fallible ExportError (SpatialSortKey Id) := do
  let centroid ← mapError (fun error => error) (basinCentroid geo geometry)
  let hilbertIndex ← liftM (hilbertIndexOf centroid)
  pure ⟨hilbertIndex, id, delineation⟩

theorem SpatialSortKey.of_fromGeometry {Polygon Id : Type} {geo : GeometryReads Polygon} {id : Id}
    {delineation : DelineationLabel} {geometry : List Polygon} {key : SpatialSortKey Id}
    (h : (SpatialSortKey.fromGeometry geo id delineation geometry).run = .ok (.ok key)) :
    key.id = id ∧ key.delineation = delineation := by
  unfold SpatialSortKey.fromGeometry at h
  obtain ⟨centroid, -, h⟩ := bind_run_eq_ok h
  obtain ⟨hilbertIndex, -, h⟩ := bind_run_eq_ok h
  obtain rfl := pure_run_eq_ok_iff.1 h
  exact ⟨rfl, rfl⟩

theorem SpatialSortKey.total_fromGeometry {Polygon Id : Type} {geo : GeometryReads Polygon} {id : Id}
    {delineation : DelineationLabel} {geometry : List Polygon} :
    Total (SpatialSortKey.fromGeometry geo id delineation geometry) := by
  refine total_bind (total_mapError _ _) fun centroid _ => ?_
  obtain ⟨index, -, hindex⟩ := exists_hilbertIndexOf centroid
  exact total_bind (total_lift hindex) fun _ _ => total_pure _

/-- `delineation_label` of both writers. -/
def delineationLabel (labelOverride : Option DelineationLabel) (identity : FabricIdentity)
    (method : ExportMethod) : Except ExportError DelineationLabel :=
  match labelOverride with
  | some label => .ok label
  | none => DelineationLabel.fromFabricIdentity identity method

/-! ## Files -/

/-- `dataset_bbox`, from the bounds of the rows. -/
def datasetBbox (boxes : List BasinBbox) : BasinBbox :=
  boxes.foldl (fun acc box =>
    ⟨acc.minx.min box.minx, acc.miny.min box.miny, acc.maxx.max box.maxx, acc.maxy.max box.maxy⟩)
    ⟨.infinity false, .infinity false, .infinity true, .infinity true⟩

/-- What a writer hands to Parquet: the columns, the properties, and the batch of each row group. -/
structure ParquetFile (Record : Type) where
  columns : List String
  maxRowGroupRowCount : ℕ
  keyValueMetadata : List (String × Option String)
  batches : List (List Record)
  deriving DecidableEq

/-- What the writers use of other crates: the JSON text of the footer, and Arrow and Parquet with the
sink, which give the key-value metadata of the closed file. -/
structure TableSink (Record : Type) where
  geoFooterJson : BasinBbox → String
  close : ParquetFile Record → Except ExportError (List (String × Option String))

/-- `footer_has_geo`. -/
def footerHasGeo (metadata : List (String × Option String)) : Bool :=
  ((metadata.find? fun entry => entry.1 = "geo").bind (·.2)).isSome

section

variable {Row Record : Type}

/-- The common part of both `write`, from the sorted rows. It gives the file that was written. -/
def writeTable (sink : TableSink Record) (columns : List String) (targetRowGroupSize : ℕ)
    (trueBbox : Row → BasinBbox) (record : Row → Record) (rows : List Row) :
    Fallible ExportError (ParquetFile Record) := do
  let sizes ← mapError (fun error => error) (planRowGroups rows.length)
  let batches ← liftM (rowGroupSlices rows sizes 0)
  let file : ParquetFile Record :=
    { columns
      maxRowGroupRowCount := targetRowGroupSize
      keyValueMetadata := [("geo", some (sink.geoFooterJson (datasetBbox (rows.map trueBbox))))]
      batches := batches.map (List.map record) }
  let metadata ← mapError (fun error => error) (sink.close file)
  failIf (footerHasGeo metadata = false) (.footerMetadataFailure
    "missing geo key in file-level key_value_metadata after close")
  pure file

theorem sum_planRowGroups {rowCount : ℕ} {sizes : List ℕ} (h : planRowGroups rowCount = .ok sizes) :
    sizes.sum = rowCount := by
  unfold planRowGroups at h
  by_cases hzero : rowCount = 0
  · rw [if_pos hzero] at h
    cases h
  have hgroups : 0 < divCeil rowCount targetRowGroupSize := by
    rw [lt_divCeil (by decide), Nat.zero_mul]
    exact Nat.pos_of_ne_zero hzero
  rw [if_neg hzero] at h
  dsimp only at h
  by_cases hsmall : rowCount < minBalancedRowGroupSize
  · rw [if_pos hsmall, if_pos (Or.inl hsmall)] at h
    cases h
    exact List.sum_singleton
  · rw [if_neg hsmall] at h
    split_ifs at h
    cases h
    exact sum_balancedSizes hgroups

/-- Fewer rows than a machine word counts are cut without an overflow. -/
theorem total_writeTable {sink : TableSink Record} {columns : List String} {targetRowGroupSize : ℕ}
    {trueBbox : Row → BasinBbox} {record : Row → Record} {rows : List Row}
    (hmachine : rows.length < 2 ^ 64) :
    Total (writeTable sink columns targetRowGroupSize trueBbox record rows) := by
  refine total_bind (total_mapError _ _) fun sizes hsizes => ?_
  have hplan : planRowGroups rows.length = .ok sizes := mapError_run_eq_ok_iff.1 hsizes
  have hrows : 0 < rows.length := by
    refine Nat.pos_of_ne_zero fun hzero => ?_
    rw [planRowGroups, if_pos hzero] at hplan
    cases hplan
  obtain ⟨_, hother, -, -, -, -, hslices⟩ := planRowGroups_spec hrows
  obtain rfl := Except.ok.inj (hplan.symm.trans hother)
  obtain ⟨batches, hbatches, -, -⟩ := hslices Row rows rfl hmachine
  refine total_bind (total_lift hbatches) fun _ _ => ?_
  refine total_bind (total_mapError _ _) fun _ _ => ?_
  exact total_bind (total_failIf _ _) fun _ _ => total_pure _

/-- What the loop has cut lies next to each other. -/
theorem flatten_rowGroupSlices {rows : List Row} {sizes : List ℕ} {start : ℕ}
    {batches : List (List Row)} (h : rowGroupSlices rows sizes start = .ok batches) :
    batches.flatten = (rows.drop start).take sizes.sum := by
  induction sizes generalizing start batches with
  | nil =>
    cases h
    rfl
  | cons size sizes ih =>
    rw [rowGroupSlices] at h
    obtain ⟨stop, hstop, h⟩ := bind_eq_ok h
    obtain ⟨batch, hbatch, h⟩ := bind_eq_ok h
    obtain ⟨rest, hrest, h⟩ := bind_eq_ok h
    cases h
    obtain rfl : stop = start + size := addU64_of_ok hstop
    rw [List.flatten_cons, ih hrest, readSlice_of_ok hbatch, List.sum_cons, List.take_add,
      List.drop_drop]

/-- **What is written** is every row once, in order. -/
theorem writeTable_run_eq_ok {sink : TableSink Record} {columns : List String}
    {targetRowGroupSize : ℕ} {trueBbox : Row → BasinBbox} {record : Row → Record} {rows : List Row}
    {file : ParquetFile Record}
    (h : (writeTable sink columns targetRowGroupSize trueBbox record rows).run = .ok (.ok file)) :
    file.batches.flatten = rows.map record := by
  unfold writeTable at h
  obtain ⟨sizes, hsizes, h⟩ := bind_run_eq_ok h
  obtain ⟨batches, hbatches, h⟩ := bind_run_eq_ok h
  obtain ⟨metadata, -, h⟩ := bind_run_eq_ok h
  obtain ⟨-, -, h⟩ := bind_run_eq_ok h
  obtain rfl := pure_run_eq_ok_iff.1 h
  have hflatten := flatten_rowGroupSlices (lift_run_eq_ok hbatches)
  rw [sum_planRowGroups (mapError_run_eq_ok_iff.1 hsizes), List.drop_zero, List.take_length] at hflatten
  rw [← List.map_flatten, hflatten]

end

end Pourpoint
