import Pourpoint.Engine.Staged
import Pourpoint.Export.BasinWriter

/-!
# The unit-bundle writer

The writer goes through the bundles and through the units of each bundle with one set of seen keys. Both
loops accept what is compatible with the rows so far, so the writer of bundles is as independent of their
order as the basin writer (`UnitBundleGeoParquetWriter.write_order`). Together they are `export_spec`.
-/

namespace Pourpoint

open Library Fallible

variable {Polygon : Type}

/-! ## Inputs and rows -/

/-- `UnitBundleExportOptions`. -/
structure UnitBundleExportOptions where
  targetRowGroupSize : ℕ
  delineationLabelOverride : Option DelineationLabel
  deriving DecidableEq

namespace UnitBundleExportOptions

def default : UnitBundleExportOptions := ⟨8192, none⟩

def withDelineationLabelOverride (options : UnitBundleExportOptions) (label : DelineationLabel) :
    UnitBundleExportOptions :=
  { options with delineationLabelOverride := some label }

end UnitBundleExportOptions

/-- The units of a delineation and what they are labelled with. -/
structure UnitBundleExportInput (Polygon : Type) where
  units : PreMergeDrainageUnits Polygon
  identity : FabricIdentity
  method : ExportMethod
  refinement : TerminalRefinement Polygon

/-- A row and what it is sorted by. -/
structure MaterializedUnitRow where
  sortKey : UnitBundleSpatialSortKey
  unitId : ℤ
  level : ℤ
  areaKm2 : F64
  upAreaKm2 : Option F64
  outletLon : BitVec 64
  outletLat : BitVec 64
  geometry : List UInt8
  trueBbox : BasinBbox
  bbox : OutwardF32Bbox
  terminalUnitId : ℤ
  delineation : DelineationLabel
  refinementStatus : String
  deriving DecidableEq

/-- A row of a record batch. -/
structure UnitRecord where
  unitId : ℤ
  level : ℤ
  areaKm2 : F64
  upAreaKm2 : Option F64
  outletLon : BitVec 64
  outletLat : BitVec 64
  geometry : List UInt8
  bbox : OutwardF32Bbox
  terminalUnitId : ℤ
  delineation : String
  refinementStatus : String
  deriving DecidableEq

/-- The turn of `build_record_batch`. -/
def MaterializedUnitRow.record (row : MaterializedUnitRow) : UnitRecord where
  unitId := row.unitId
  level := row.level
  areaKm2 := row.areaKm2
  upAreaKm2 := row.upAreaKm2
  outletLon := row.outletLon
  outletLat := row.outletLat
  geometry := row.geometry
  bbox := row.bbox
  terminalUnitId := row.terminalUnitId
  delineation := row.delineation.value
  refinementStatus := row.refinementStatus

/-- The `row_key` of a row. -/
def MaterializedUnitRow.rowKey (row : MaterializedUnitRow) : ℤ × String :=
  (row.unitId, row.delineation.value)

/-- The columns of `unit_bundle_export_schema`. -/
def unitBundleExportSchema : List String :=
  ["unit_id", "level", "area_km2", "up_area_km2", "outlet_lon", "outlet_lat", "geometry", "bbox_minx",
    "bbox_miny", "bbox_maxx", "bbox_maxy", "terminal_unit_id", "delineation", "refinement_status"]

/-- `refinement_status`. -/
def TerminalRefinement.status : TerminalRefinement Polygon → String
  | applied _ _ _ => "applied"
  | bestEffortSkipped _ => "best_effort_skipped"
  | disabled => "disabled"

/-! ## Materialization -/

section

variable (geo : GeometryReads Polygon) (options : UnitBundleExportOptions)

/-- The row of a unit of a bundle with the label. -/
def materializeUnitRow (input : UnitBundleExportInput Polygon) (delineation : DelineationLabel)
    (unit : PreMergeDrainageUnit Polygon) : Fallible ExportError MaterializedUnitRow := do
  let trueBbox ← mapError (fun error => error) (basinBbox geo unit.geometry)
  let sortKey ← SpatialSortKey.fromGeometry geo unit.id delineation unit.geometry
  let geometry ← mapError (ExportError.unitGeometryEncodingFailure unit.id) (geo.encodeWkb unit.geometry)
  pure
    { sortKey
      unitId := unit.id
      level := unit.level
      areaKm2 := unit.area.toF64
      upAreaKm2 := unit.upstreamArea.map F32.toF64
      outletLon := unit.outlet.lon
      outletLat := unit.outlet.lat
      geometry
      trueBbox
      bbox := outwardF32Bbox trueBbox
      terminalUnitId := input.units.terminal
      delineation
      refinementStatus := input.refinement.status }

/-- The turn of the inner loop. -/
def unitStep (input : UnitBundleExportInput Polygon) (delineation : DelineationLabel)
    (seenRows : List (ℤ × String)) (unit : PreMergeDrainageUnit Polygon) :
    Fallible ExportError (List (ℤ × String) × MaterializedUnitRow) := do
  failIf ((unit.id, delineation.value) ∈ seenRows) (.duplicateUnitBundleRow unit.id delineation.value)
  let row ← materializeUnitRow geo input delineation unit
  pure ((unit.id, delineation.value) :: seenRows, row)

/-- The inner loop of `materialize_rows`. -/
def unitLoop (input : UnitBundleExportInput Polygon) (delineation : DelineationLabel) :
    List (ℤ × String) → List (PreMergeDrainageUnit Polygon) →
      Fallible ExportError (List (ℤ × String) × List MaterializedUnitRow)
  | seenRows, [] => pure (seenRows, [])
  | seenRows, unit :: units => do
    let (seenRows, row) ← unitStep geo input delineation seenRows unit
    let (seenRows, rows) ← unitLoop input delineation seenRows units
    pure (seenRows, row :: rows)

/-- The turn of the outer loop. -/
def bundleStep (seenRows : List (ℤ × String)) (input : UnitBundleExportInput Polygon) :
    Fallible ExportError (List (ℤ × String) × List MaterializedUnitRow) := do
  failIf (input.units.units.isEmpty = true) .emptyUnitBundle
  let delineation ← mapError (fun error => error)
    (delineationLabel options.delineationLabelOverride input.identity input.method)
  unitLoop geo input delineation seenRows input.units.units

/-- The outer loop of `materialize_rows`. The rows of each bundle are pushed in turn. -/
def bundleLoop : List (ℤ × String) → List (UnitBundleExportInput Polygon) →
    Fallible ExportError (List (List MaterializedUnitRow))
  | _, [] => pure []
  | seenRows, input :: inputs => do
    let (seenRows, rows) ← bundleStep geo options seenRows input
    let bundles ← bundleLoop seenRows inputs
    pure (rows :: bundles)

/-- `materialize_rows`. -/
def materializeUnitRows (inputs : List (UnitBundleExportInput Polygon)) :
    Fallible ExportError (List MaterializedUnitRow) := do
  let bundles ← bundleLoop geo options [] inputs
  pure bundles.flatten

/-- `UnitBundleGeoParquetWriter::write`. -/
def UnitBundleGeoParquetWriter.write (sink : TableSink UnitRecord)
    (inputs : List (UnitBundleExportInput Polygon)) : Fallible ExportError (ParquetFile UnitRecord) := do
  let rows ← materializeUnitRows geo options inputs
  failIf (rows.isEmpty = true) .emptyUnitBundle
  writeTable sink unitBundleExportSchema options.targetRowGroupSize MaterializedUnitRow.trueBbox
    MaterializedUnitRow.record (sortByKey (fun row => row.sortKey.order) rows)

/-! ## Which units are written together -/

/-- The row of a unit on its own. -/
def MakesUnit (input : UnitBundleExportInput Polygon) (delineation : DelineationLabel)
    (unit : PreMergeDrainageUnit Polygon) (row : MaterializedUnitRow) : Prop :=
  (materializeUnitRow geo input delineation unit).run = .ok (.ok row)

/-- The rows of a bundle on its own: one for each unit, with distinct keys. -/
structure MakesBundle (input : UnitBundleExportInput Polygon) (rows : List MaterializedUnitRow) :
    Prop where
  nonempty : input.units.units ≠ []
  makes : ∃ delineation,
    delineationLabel options.delineationLabelOverride input.identity input.method = .ok delineation ∧
      List.Forall₂ (MakesUnit geo input delineation) input.units.units rows
  distinct : rows.Pairwise fun a b => a.rowKey ≠ b.rowKey

end

/-- The state of the loops after the rows. -/
def TracksRows (seenRows : List (ℤ × String)) (rows : List MaterializedUnitRow) : Prop :=
  ∀ key, key ∈ seenRows ↔ ∃ row ∈ rows, row.rowKey = key

/-- Bundles without a common key. -/
def CompatibleRows (a b : List MaterializedUnitRow) : Prop :=
  ∀ row ∈ a, ∀ row' ∈ b, row.rowKey ≠ row'.rowKey

theorem TracksRows.concat {seenRows : List (ℤ × String)} {rows : List MaterializedUnitRow}
    (h : TracksRows seenRows rows) (row : MaterializedUnitRow) :
    TracksRows (row.rowKey :: seenRows) (rows ++ [row]) := by
  intro key
  rw [List.mem_cons, h key]
  simp only [List.mem_append, List.mem_singleton]
  constructor
  · rintro (rfl | ⟨e, he, rfl⟩)
    · exact ⟨row, .inr rfl, rfl⟩
    · exact ⟨e, .inl he, rfl⟩
  · rintro ⟨e, he | rfl, rfl⟩
    · exact .inr ⟨e, he, rfl⟩
    · exact .inl rfl

section

variable {geo : GeometryReads Polygon} {options : UnitBundleExportOptions}
  {input : UnitBundleExportInput Polygon} {delineation : DelineationLabel}

theorem materializeUnitRow_key {unit : PreMergeDrainageUnit Polygon} {row : MaterializedUnitRow}
    (h : MakesUnit geo input delineation unit row) : row.rowKey = (unit.id, delineation.value) ∧
      (row.sortKey.id, row.sortKey.delineation.value) = row.rowKey := by
  unfold MakesUnit materializeUnitRow at h
  obtain ⟨trueBbox, -, h⟩ := bind_run_eq_ok h
  obtain ⟨sortKey, hkey, h⟩ := bind_run_eq_ok h
  obtain ⟨geometry, -, h⟩ := bind_run_eq_ok h
  obtain rfl := pure_run_eq_ok_iff.1 h
  obtain ⟨hid, hdelineation⟩ := SpatialSortKey.of_fromGeometry hkey
  exact ⟨rfl, Prod.ext hid (congrArg DelineationLabel.value hdelineation)⟩

/-- A turn of the inner loop that goes through. -/
def UnitStepsTo (geo : GeometryReads Polygon) (input : UnitBundleExportInput Polygon)
    (delineation : DelineationLabel) (seenRows : List (ℤ × String))
    (unit : PreMergeDrainageUnit Polygon) (seenRows' : List (ℤ × String)) (row : MaterializedUnitRow) :
    Prop :=
  (unitStep geo input delineation seenRows unit).run = .ok (.ok (seenRows', row))

/-- A turn of the outer loop that goes through. -/
def BundleStepsTo (geo : GeometryReads Polygon) (options : UnitBundleExportOptions)
    (seenRows : List (ℤ × String)) (input : UnitBundleExportInput Polygon)
    (seenRows' : List (ℤ × String)) (rows : List MaterializedUnitRow) : Prop :=
  (bundleStep geo options seenRows input).run = .ok (.ok (seenRows', rows))

/-- **The turns of the inner loop** accept the units whose keys are new. -/
theorem accepts_unitStep : Accepts (UnitStepsTo geo input delineation) TracksRows
    (MakesUnit geo input delineation) id (fun a b => a.rowKey ≠ b.rowKey) where
  accepted := by
    intro seenRows rows unit seenRows' row htracks hstep
    simp only [UnitStepsTo, unitStep, bind_run_eq_ok_iff, failIf_run_eq_ok_iff, pure_run_eq_ok_iff,
      Prod.mk.injEq] at hstep
    obtain ⟨-, hseen, _, hmakes, rfl, rfl⟩ := hstep
    obtain ⟨hkey, -⟩ := materializeUnitRow_key hmakes
    rw [← hkey] at hseen ⊢
    refine ⟨_, hmakes, rfl, ?_, htracks.concat _⟩
    intro e he heq
    exact hseen ((htracks _).2 ⟨e, he, heq⟩)
  accepts := by
    intro seenRows rows unit row htracks hmakes hcompat
    obtain ⟨hkey, -⟩ := materializeUnitRow_key hmakes
    refine ⟨row.rowKey :: seenRows, ?_, htracks.concat row⟩
    simp only [UnitStepsTo, unitStep, bind_run_eq_ok_iff, failIf_run_eq_ok_iff, pure_run_eq_ok_iff,
      Prod.mk.injEq]
    rw [← hkey]
    refine ⟨(), ?_, row, hmakes, rfl, rfl⟩
    intro hmem
    obtain ⟨e, he, heq⟩ := (htracks _).1 hmem
    exact hcompat e he heq

theorem unitLoop_iff {seenRows last : List (ℤ × String)} {units : List (PreMergeDrainageUnit Polygon)}
    {rows : List MaterializedUnitRow} :
    (unitLoop geo input delineation seenRows units).run = .ok (.ok (last, rows)) ↔
      Runs (UnitStepsTo geo input delineation) seenRows units last rows := by
  induction units generalizing seenRows rows with
  | nil =>
    rw [unitLoop, pure_run_eq_ok_iff, Prod.mk.injEq]
    constructor
    · rintro ⟨rfl, rfl⟩
      exact .nil
    · intro h
      cases h
      exact ⟨rfl, rfl⟩
  | cons unit units ih =>
    rw [unitLoop]
    simp only [bind_run_eq_ok_iff, pure_run_eq_ok_iff, Prod.mk.injEq]
    constructor
    · rintro ⟨⟨seenRows', row⟩, hstep, ⟨_, rest⟩, hrest, rfl, rfl⟩
      exact .cons hstep (ih.1 hrest)
    · intro h
      cases h with
      | cons head tail => exact ⟨_, head, _, ih.2 tail, rfl, rfl⟩

theorem bundleStep_iff {seenRows last : List (ℤ × String)} {rows : List MaterializedUnitRow} :
    (bundleStep geo options seenRows input).run = .ok (.ok (last, rows)) ↔
      input.units.units ≠ [] ∧ ∃ delineation,
        delineationLabel options.delineationLabelOverride input.identity input.method =
          .ok delineation ∧
        (unitLoop geo input delineation seenRows input.units.units).run = .ok (.ok (last, rows)) := by
  simp only [bundleStep, bind_run_eq_ok_iff, failIf_run_eq_ok_iff, mapError_run_eq_ok_iff,
    List.isEmpty_iff]
  constructor
  · rintro ⟨_, hne, h⟩
    exact ⟨hne, h⟩
  · rintro ⟨hne, h⟩
    exact ⟨(), hne, h⟩

/-- **The turns of the outer loop** accept the bundles whose keys are new. -/
theorem accepts_bundleStep : Accepts (BundleStepsTo geo options)
    (fun seenRows bundles => TracksRows seenRows bundles.flatten) (MakesBundle geo options) id
    CompatibleRows where
  accepted := by
    intro seenRows bundles input seenRows' rows htracks hstep
    obtain ⟨hne, delineation, hlabel, hloop⟩ := bundleStep_iff.1 hstep
    obtain ⟨new, hmakes, hold, hnew, hresult, hlast⟩ :=
      accepts_unitStep.exists_of_runs htracks (unitLoop_iff.1 hloop)
    rw [List.map_id] at hresult
    subst hresult
    refine ⟨rows, ⟨hne, ⟨delineation, hlabel, hmakes⟩, hnew⟩, rfl, ?_, ?_⟩
    · intro bundle hbundle row hrow
      exact hold row (List.mem_flatten_of_mem hbundle hrow)
    · rwa [List.flatten_append, List.flatten_singleton]
  accepts := by
    intro seenRows bundles input rows htracks hmakes hcompat
    obtain ⟨hne, ⟨delineation, hlabel, hrows⟩, hdistinct⟩ := hmakes
    have hold : ∀ row ∈ bundles.flatten, ∀ row' ∈ rows, row.rowKey ≠ row'.rowKey := by
      intro row hrow
      obtain ⟨bundle, hbundle, hmem⟩ := List.mem_flatten.1 hrow
      exact hcompat bundle hbundle row hmem
    obtain ⟨last, hruns, hlast⟩ := accepts_unitStep.runs_of_compat htracks hrows hold hdistinct
    rw [List.map_id] at hruns
    refine ⟨last, bundleStep_iff.2 ⟨hne, delineation, hlabel, unitLoop_iff.2 hruns⟩, ?_⟩
    rwa [List.flatten_append, List.flatten_singleton]

theorem bundleLoop_iff {seenRows : List (ℤ × String)} {inputs : List (UnitBundleExportInput Polygon)}
    {bundles : List (List MaterializedUnitRow)} :
    (bundleLoop geo options seenRows inputs).run = .ok (.ok bundles) ↔
      ∃ last, Runs (BundleStepsTo geo options) seenRows inputs last bundles := by
  induction inputs generalizing seenRows bundles with
  | nil =>
    rw [bundleLoop, pure_run_eq_ok_iff]
    constructor
    · rintro rfl
      exact ⟨seenRows, .nil⟩
    · rintro ⟨last, h⟩
      cases h
      rfl
  | cons input inputs ih =>
    rw [bundleLoop]
    simp only [bind_run_eq_ok_iff, pure_run_eq_ok_iff, ih]
    constructor
    · rintro ⟨⟨seenRows', rows⟩, hstep, rest, ⟨last, hrest⟩, rfl⟩
      exact ⟨last, .cons hstep hrest⟩
    · rintro ⟨last, h⟩
      cases h with
      | cons head tail => exact ⟨_, head, _, ⟨last, tail⟩, rfl⟩

/-- **The rows of the bundles.** -/
theorem materializeUnitRows_iff {inputs : List (UnitBundleExportInput Polygon)}
    {rows : List MaterializedUnitRow} :
    (materializeUnitRows geo options inputs).run = .ok (.ok rows) ↔
      ∃ bundles, List.Forall₂ (MakesBundle geo options) inputs bundles ∧
        bundles.Pairwise CompatibleRows ∧ rows = bundles.flatten := by
  have hstart : TracksRows [] ([] : List (List MaterializedUnitRow)).flatten := by simp [TracksRows]
  simp only [materializeUnitRows, bind_run_eq_ok_iff, pure_run_eq_ok_iff, bundleLoop_iff]
  constructor
  · rintro ⟨results, hruns, rfl⟩
    obtain ⟨bundles, hmakes, hcompat, rfl⟩ := (accepts_bundleStep.runs_iff hstart).1 hruns
    exact ⟨bundles, hmakes, hcompat, by rw [List.map_id]⟩
  · rintro ⟨bundles, hmakes, hcompat, rfl⟩
    refine ⟨bundles, (accepts_bundleStep.runs_iff hstart).2 ⟨bundles, hmakes, hcompat, ?_⟩, rfl⟩
    rw [List.map_id]

theorem materializeUnitRows_perm {inputs inputs' : List (UnitBundleExportInput Polygon)}
    (hperm : inputs.Perm inputs') {rows : List MaterializedUnitRow}
    (h : (materializeUnitRows geo options inputs).run = .ok (.ok rows)) :
    ∃ rows', (materializeUnitRows geo options inputs').run = .ok (.ok rows') ∧ rows.Perm rows' := by
  have hstart : TracksRows [] ([] : List (List MaterializedUnitRow)).flatten := by simp [TracksRows]
  have hsymm : ∀ a b, CompatibleRows a b → CompatibleRows b a :=
    fun a b h row hrow row' hrow' => (h row' hrow' row hrow).symm
  simp only [materializeUnitRows, bind_run_eq_ok_iff, pure_run_eq_ok_iff, bundleLoop_iff] at *
  obtain ⟨bundles, hruns, rfl⟩ := h
  obtain ⟨bundles', hruns', hsame⟩ := accepts_bundleStep.runs_perm hsymm hstart hperm hruns
  exact ⟨_, ⟨bundles', hruns', rfl⟩, hsame.flatten⟩

/-- Materialized rows have distinct keys and distinct sort keys. -/
theorem materializeUnitRows_nodup {inputs : List (UnitBundleExportInput Polygon)}
    {rows : List MaterializedUnitRow}
    (h : (materializeUnitRows geo options inputs).run = .ok (.ok rows)) :
    (rows.map MaterializedUnitRow.rowKey).Nodup ∧ (rows.map fun row => row.sortKey.order).Nodup := by
  obtain ⟨bundles, hmakes, hcompat, rfl⟩ := materializeUnitRows_iff.1 h
  have hkeys : (bundles.flatten.map MaterializedUnitRow.rowKey).Nodup := by
    rw [List.Nodup, List.pairwise_map, List.pairwise_flatten]
    refine ⟨?_, hcompat⟩
    intro bundle hbundle
    obtain ⟨input, -, hmake⟩ := exists_of_forall₂ hmakes.flip hbundle
    exact hmake.distinct
  refine ⟨hkeys, ?_⟩
  -- The sort key determines the key.
  have horder : bundles.flatten.map MaterializedUnitRow.rowKey =
      (bundles.flatten.map fun row => row.sortKey.order).map fun order =>
        ((ofLex (ofLex order).2).1, (ofLex (ofLex order).2).2) := by
    rw [List.map_map]
    refine List.map_congr_left ?_
    intro row hrow
    obtain ⟨bundle, hbundle, hmem⟩ := List.mem_flatten.1 hrow
    obtain ⟨input, -, hmake⟩ := exists_of_forall₂ hmakes.flip hbundle
    obtain ⟨label, -, hunits⟩ := hmake.makes
    obtain ⟨unit, -, hunit⟩ := exists_of_forall₂ hunits.flip hmem
    exact (materializeUnitRow_key hunit).2.symm
  rw [horder] at hkeys
  exact hkeys.of_map _

end

/-! ## The writer -/

/-- A successful write. -/
def UnitBundleGeoParquetWriter.Writes (geo : GeometryReads Polygon) (options : UnitBundleExportOptions)
    (sink : TableSink UnitRecord) (inputs : List (UnitBundleExportInput Polygon))
    (file : ParquetFile UnitRecord) : Prop :=
  (UnitBundleGeoParquetWriter.write geo options sink inputs).run = .ok (.ok file)

theorem UnitBundleGeoParquetWriter.writes_iff {geo : GeometryReads Polygon}
    {options : UnitBundleExportOptions} {sink : TableSink UnitRecord}
    {inputs : List (UnitBundleExportInput Polygon)} {file : ParquetFile UnitRecord} :
    Writes geo options sink inputs file ↔
      ∃ rows, (materializeUnitRows geo options inputs).run = .ok (.ok rows) ∧ rows ≠ [] ∧
        (writeTable sink unitBundleExportSchema options.targetRowGroupSize
          MaterializedUnitRow.trueBbox MaterializedUnitRow.record
          (sortByKey (fun row => row.sortKey.order) rows)).run = .ok (.ok file) := by
  simp only [Writes, write, bind_run_eq_ok_iff, failIf_run_eq_ok_iff, List.isEmpty_iff]
  constructor
  · rintro ⟨rows, hrows, -, hne, hwrite⟩
    exact ⟨rows, hrows, hne, hwrite⟩
  · rintro ⟨rows, hrows, hne, hwrite⟩
    exact ⟨rows, hrows, (), hne, hwrite⟩

theorem total_unitLoop {geo : GeometryReads Polygon} {input : UnitBundleExportInput Polygon}
    {delineation : DelineationLabel} {seenRows : List (ℤ × String)}
    {units : List (PreMergeDrainageUnit Polygon)} :
    Total (unitLoop geo input delineation seenRows units) := by
  induction units generalizing seenRows with
  | nil => exact total_pure (seenRows, [])
  | cons unit units ih =>
    have hrow : Total (materializeUnitRow geo input delineation unit) := by
      refine total_bind (total_mapError _ _) fun trueBbox _ => ?_
      refine total_bind SpatialSortKey.total_fromGeometry fun sortKey _ => ?_
      exact total_bind (total_mapError _ _) fun geometry _ => total_pure _
    have hstep : Total (unitStep geo input delineation seenRows unit) :=
      total_bind (total_failIf _ _) fun _ _ => total_bind hrow fun row _ => total_pure _
    refine total_bind hstep fun _ _ => ?_
    exact total_bind ih fun _ _ => total_pure _

theorem total_bundleLoop {geo : GeometryReads Polygon} {options : UnitBundleExportOptions}
    {seenRows : List (ℤ × String)} {inputs : List (UnitBundleExportInput Polygon)} :
    Total (bundleLoop geo options seenRows inputs) := by
  induction inputs generalizing seenRows with
  | nil => exact total_pure []
  | cons input inputs ih =>
    have hstep : Total (bundleStep geo options seenRows input) :=
      total_bind (total_failIf _ _) fun _ _ =>
        total_bind (total_mapError _ _) fun _ _ => total_unitLoop
    refine total_bind hstep fun _ _ => ?_
    exact total_bind ih fun _ _ => total_pure _

/-- Writing ends with a file or an error. -/
theorem UnitBundleGeoParquetWriter.total_write {geo : GeometryReads Polygon}
    {options : UnitBundleExportOptions} {sink : TableSink UnitRecord}
    {inputs : List (UnitBundleExportInput Polygon)}
    (hmachine : (inputs.map fun input => input.units.units.length).sum < 2 ^ 64) :
    Total (write geo options sink inputs) := by
  have hmaterialize : Total (materializeUnitRows geo options inputs) :=
    total_bind total_bundleLoop fun _ _ => total_pure _
  refine total_bind hmaterialize fun rows hrows => ?_
  refine total_bind (total_failIf _ _) fun _ _ => total_writeTable ?_
  obtain ⟨bundles, hmakes, -, rfl⟩ := materializeUnitRows_iff.1 hrows
  have hlengths : List.Forall₂ (fun input rows => input.units.units.length = rows.length) inputs bundles :=
    hmakes.imp fun input rows hbundle => by
      obtain ⟨delineation, -, hrows⟩ := hbundle.makes
      exact hrows.length_eq
  have hsum : (inputs.map fun input => input.units.units.length) = bundles.map List.length := by
    rw [← List.forall₂_eq_eq_eq, List.forall₂_map_left_iff, List.forall₂_map_right_iff]
    exact hlengths
  rwa [perm_sortByKey.length_eq, List.length_flatten, ← hsum]

/-- The file does not depend on the order of the bundles. -/
theorem UnitBundleGeoParquetWriter.Writes.perm {geo : GeometryReads Polygon}
    {options : UnitBundleExportOptions} {sink : TableSink UnitRecord}
    {inputs inputs' : List (UnitBundleExportInput Polygon)} {file : ParquetFile UnitRecord}
    (h : Writes geo options sink inputs file) (hperm : inputs.Perm inputs') :
    Writes geo options sink inputs' file := by
  obtain ⟨rows, hrows, hne, hwrite⟩ := writes_iff.1 h
  obtain ⟨rows', hrows', hsame⟩ := materializeUnitRows_perm hperm hrows
  refine writes_iff.2 ⟨rows', hrows', ?_, ?_⟩
  · rintro rfl
    exact hne hsame.eq_nil
  · rwa [sortByKey_eq_of_nodup (materializeUnitRows_nodup hrows).2 hsame]

/-- **The unit-bundle writer.** A list of bundles and a permutation of it are both written, to the same
file, or both fail. On success the rows are those of all units of the bundles, each once, with distinct
keys and sorted. -/
theorem UnitBundleGeoParquetWriter.write_order (geo : GeometryReads Polygon)
    (options : UnitBundleExportOptions) (sink : TableSink UnitRecord)
    (inputs : List (UnitBundleExportInput Polygon)) :
    (∀ inputs', inputs.Perm inputs' → ∀ file,
      Writes geo options sink inputs file ↔ Writes geo options sink inputs' file) ∧
    ∀ file, Writes geo options sink inputs file →
      ∃ rows : List MaterializedUnitRow,
        file.batches.flatten = rows.map MaterializedUnitRow.record ∧
        (∃ bundles, List.Forall₂ (MakesBundle geo options) inputs bundles ∧
          rows.Perm bundles.flatten) ∧
        (rows.map MaterializedUnitRow.rowKey).Nodup ∧
        rows.Pairwise fun a b => a.sortKey.order < b.sortKey.order := by
  refine ⟨fun inputs' hperm file => ⟨fun h => h.perm hperm, fun h => h.perm hperm.symm⟩, ?_⟩
  intro file h
  obtain ⟨rows, hrows, -, hwrite⟩ := writes_iff.1 h
  obtain ⟨bundles, hmakes, -, rfl⟩ := materializeUnitRows_iff.1 hrows
  obtain ⟨hkeys, horder⟩ := materializeUnitRows_nodup hrows
  exact ⟨_, writeTable_run_eq_ok hwrite, ⟨bundles, hmakes, perm_sortByKey⟩,
    (perm_sortByKey.map _).nodup_iff.2 hkeys, pairwise_lt_sortByKey horder⟩

/-- **Export is independent of the order of its input and loses nothing**, for both writers. Writing ends
with a file or an error wherever the machine can count the rows. -/
theorem export_spec {Polygon : Type} :
    (∀ (geo : BasinReads Polygon) (options : ExportOptions) (sink : TableSink BasinRecord)
      (inputs : List (BasinExportInput Polygon)),
      (inputs.length < 2 ^ 64 → Total (BasinGeoParquetWriter.write geo options sink inputs)) ∧
      (∀ inputs', inputs.Perm inputs' → ∀ file,
        BasinGeoParquetWriter.Writes geo options sink inputs file ↔
          BasinGeoParquetWriter.Writes geo options sink inputs' file) ∧
      ∀ file, BasinGeoParquetWriter.Writes geo options sink inputs file →
        ∃ rows : List MaterializedRow,
          file.batches.flatten = rows.map (MaterializedRow.record options.includesProvenance) ∧
          (∃ entries, List.Forall₂ (Makes geo options) inputs entries ∧
            rows.Perm (entries.map Prod.snd)) ∧
          (rows.map fun row => (row.basinId.value, row.delineation.value)).Nodup ∧
          rows.Pairwise fun a b => a.sortKey.order < b.sortKey.order) ∧
    ∀ (geo : GeometryReads Polygon) (options : UnitBundleExportOptions) (sink : TableSink UnitRecord)
      (inputs : List (UnitBundleExportInput Polygon)),
      ((inputs.map fun input => input.units.units.length).sum < 2 ^ 64 →
        Total (UnitBundleGeoParquetWriter.write geo options sink inputs)) ∧
      (∀ inputs', inputs.Perm inputs' → ∀ file,
        UnitBundleGeoParquetWriter.Writes geo options sink inputs file ↔
          UnitBundleGeoParquetWriter.Writes geo options sink inputs' file) ∧
      ∀ file, UnitBundleGeoParquetWriter.Writes geo options sink inputs file →
        ∃ rows : List MaterializedUnitRow,
          file.batches.flatten = rows.map MaterializedUnitRow.record ∧
          (∃ bundles, List.Forall₂ (MakesBundle geo options) inputs bundles ∧
            rows.Perm bundles.flatten) ∧
          (rows.map MaterializedUnitRow.rowKey).Nodup ∧
          rows.Pairwise fun a b => a.sortKey.order < b.sortKey.order := by
  refine ⟨fun geo options sink inputs => ⟨?_, ?_⟩, fun geo options sink inputs => ⟨?_, ?_⟩⟩
  · exact BasinGeoParquetWriter.total_write
  · exact BasinGeoParquetWriter.write_order geo options sink inputs
  · exact UnitBundleGeoParquetWriter.total_write
  · exact UnitBundleGeoParquetWriter.write_order geo options sink inputs

end Pourpoint
