import Pourpoint.Engine.Refinement
import Pourpoint.Export.Table
import Pourpoint.Library.Acceptance
import Pourpoint.Library.SortedMap

/-!
# The basin writer

`materialize_rows` keeps the origin that last claimed each default id, and the keys of the rows so far. A
row is refused when its default id was claimed from another origin, or its key was seen. Both refusals
are symmetric conditions on pairs of inputs (`Compatible`), so whether a list of inputs is written
does not depend on its order, and the sort makes the order of the rows the same
(`BasinGeoParquetWriter.write_order`).
-/

namespace Pourpoint

open Library Fallible

variable {Polygon : Type}

/-! ## Inputs -/

/-- `ProvenanceColumns`. -/
inductive ProvenanceColumns where
  | included | excluded
  deriving DecidableEq, Repr

/-- `ExportOptions`. -/
structure ExportOptions where
  includeProvenance : ProvenanceColumns
  targetRowGroupSize : ℕ
  delineationLabelOverride : Option DelineationLabel
  deriving DecidableEq

namespace ExportOptions

def default : ExportOptions := ⟨.included, 8192, none⟩

def includesProvenance (options : ExportOptions) : Bool := options.includeProvenance = .included

def withoutProvenance (options : ExportOptions) : ExportOptions :=
  { options with includeProvenance := .excluded }

def withDelineationLabelOverride (options : ExportOptions) (label : DelineationLabel) : ExportOptions :=
  { options with delineationLabelOverride := some label }

end ExportOptions

/-- What the export reads of a `DelineationResult`. -/
structure DelineationResult (Polygon : Type) where
  terminalUnitId : UnitId
  resolvedOutlet : GeoCoord
  resolutionMethod : ResolutionMethod
  upstreamUnitIds : List UnitId
  refinement : RefinementOutcome
  geometry : List Polygon
  areaKm2 : Double

/-- A result with an explicit identity, or one that is named after its origin. -/
inductive BasinExportInput (Polygon : Type) where
  | explicit (basinId : BasinId) (result : DelineationResult Polygon) (identity : FabricIdentity)
      (method : ExportMethod) (origin : ExportOrigin)
  | defaultBasinId (result : DelineationResult Polygon) (identity : FabricIdentity)
      (method : ExportMethod) (origin : ExportOrigin)

/-- A result with the identity it is written under. -/
structure ResolvedInput (Polygon : Type) where
  basinId : BasinId
  delineation : DelineationLabel
  result : DelineationResult Polygon
  identity : FabricIdentity
  origin : ExportOrigin
  isDefaulted : Bool

/-- The `row_key` of an input. -/
def ResolvedInput.rowKey (resolved : ResolvedInput Polygon) : String × String :=
  (resolved.basinId.value, resolved.delineation.value)

/-! ## Rows -/

/-- A row and what it is sorted by. -/
structure MaterializedRow where
  sortKey : BasinSpatialSortKey
  basinId : BasinId
  delineation : DelineationLabel
  geometry : List UInt8
  outletLon : BitVec 64
  outletLat : BitVec 64
  areaKm2 : Double
  trueBbox : BasinBbox
  bbox : OutwardF32Bbox
  resolutionMethod : String
  refinementStatus : String
  upstreamUnitIds : List ℤ
  adapterVersion : String
  deriving DecidableEq

/-- The provenance columns of a record. -/
structure ProvenanceRecord where
  resolutionMethod : String
  refinementStatus : String
  upstreamUnitIds : List ℤ
  adapterVersion : String
  deriving DecidableEq

/-- A row of a record batch. -/
structure BasinRecord where
  basinId : String
  delineation : String
  geometry : List UInt8
  outletLon : BitVec 64
  outletLat : BitVec 64
  areaKm2 : Double
  bbox : OutwardF32Bbox
  provenance : Option ProvenanceRecord
  deriving DecidableEq

/-- The turn of `build_record_batch`. -/
def MaterializedRow.record (includeProvenance : Bool) (row : MaterializedRow) : BasinRecord where
  basinId := row.basinId.value
  delineation := row.delineation.value
  geometry := row.geometry
  outletLon := row.outletLon
  outletLat := row.outletLat
  areaKm2 := row.areaKm2
  bbox := row.bbox
  provenance := if includeProvenance then
      some ⟨row.resolutionMethod, row.refinementStatus, row.upstreamUnitIds, row.adapterVersion⟩
    else none

/-- The columns of `basin_export_schema`. -/
def basinExportSchema (includeProvenance : Bool) : List String :=
  ["basin_id", "delineation", "geometry", "outlet_lon", "outlet_lat", "area_km2", "bbox_minx",
    "bbox_miny", "bbox_maxx", "bbox_maxy"] ++
  if includeProvenance then
    ["resolution_method", "refinement_status", "upstream_unit_ids", "adapter_version"]
  else []

/-- `refinement_status`. -/
def RefinementOutcome.status : RefinementOutcome → String
  | applied _ _ => "applied"
  | bestEffortSkipped _ => "best_effort_skipped"
  | disabled => "disabled"

/-! ## Materialization -/

/-- What the basin writer uses of other crates. `debugText` is the text that `{:?}` gives. -/
structure BasinReads (Polygon : Type) extends GeometryReads Polygon where
  debugText : ResolutionMethod → String

section

variable (geo : BasinReads Polygon) (options : ExportOptions)

/-- `resolve_input_identity`. -/
def resolveInputIdentity :
    BasinExportInput Polygon → Except ExportError (ResolvedInput Polygon)
  | .explicit basinId result identity method origin => do
    let delineation ← delineationLabel options.delineationLabelOverride identity method
    .ok ⟨basinId, delineation, result, identity, origin, false⟩
  | .defaultBasinId result identity method origin => do
    let basinId ← BasinId.fromTerminalUnitId result.terminalUnitId
    let delineation ← delineationLabel options.delineationLabelOverride identity method
    .ok ⟨basinId, delineation, result, identity, origin, true⟩

/-- The row of an input. -/
def materializeRow (resolved : ResolvedInput Polygon) : Fallible ExportError MaterializedRow := do
  let trueBbox ← mapError (fun error => error) (basinBbox geo.toGeometryReads resolved.result.geometry)
  let sortKey ← SpatialSortKey.fromGeometry geo.toGeometryReads resolved.basinId resolved.delineation
    resolved.result.geometry
  let geometry ← mapError (ExportError.geometryEncodingFailure resolved.basinId.value)
    (geo.encodeWkb resolved.result.geometry)
  pure
    { sortKey
      basinId := resolved.basinId
      delineation := resolved.delineation
      geometry
      outletLon := resolved.result.resolvedOutlet.lon
      outletLat := resolved.result.resolvedOutlet.lat
      areaKm2 := resolved.result.areaKm2
      trueBbox
      bbox := outwardF32Bbox trueBbox
      resolutionMethod := geo.debugText resolved.result.resolutionMethod
      refinementStatus := resolved.result.refinement.status
      upstreamUnitIds := resolved.result.upstreamUnitIds
      adapterVersion := resolved.identity.adapterVersion }

/-- The state of the loop: `default_origins_by_id` and `seen_rows`. -/
structure Claims where
  defaultOriginsById : SortedMap String String
  seenRows : List (String × String)

/-- The origins after a defaulted input has claimed its id. -/
def Claims.claim (claims : Claims) (resolved : ResolvedInput Polygon) :
    Except ExportError (SortedMap String String) :=
  if resolved.isDefaulted then
    match claims.defaultOriginsById.get? resolved.basinId.value with
    | some firstOrigin =>
      if firstOrigin ≠ resolved.origin.description then
        .error (.defaultBasinIdCollision resolved.basinId.value firstOrigin
          resolved.origin.description)
      else .ok (claims.defaultOriginsById.insert resolved.basinId.value resolved.origin.description)
    | none =>
      .ok (claims.defaultOriginsById.insert resolved.basinId.value resolved.origin.description)
  else .ok claims.defaultOriginsById

/-- The turn of `materialize_rows`. -/
def materializeStep (claims : Claims) (input : BasinExportInput Polygon) :
    Fallible ExportError (Claims × MaterializedRow) := do
  let resolved ← mapError (fun error => error) (resolveInputIdentity options input)
  let origins ← mapError (fun error => error) (claims.claim resolved)
  failIf (resolved.rowKey ∈ claims.seenRows)
    (.duplicateRow resolved.basinId.value resolved.delineation.value)
  let row ← materializeRow geo resolved
  pure (⟨origins, resolved.rowKey :: claims.seenRows⟩, row)

/-- The loop of `materialize_rows`. -/
def materializeLoop :
    Claims → List (BasinExportInput Polygon) → Fallible ExportError (List MaterializedRow)
  | _, [] => pure []
  | claims, input :: inputs => do
    let (claims, row) ← materializeStep geo options claims input
    let rows ← materializeLoop claims inputs
    pure (row :: rows)

/-- `materialize_rows`. -/
def materializeRows (inputs : List (BasinExportInput Polygon)) :
    Fallible ExportError (List MaterializedRow) :=
  materializeLoop geo options ⟨.empty, []⟩ inputs

/-- `BasinGeoParquetWriter::write`. -/
def BasinGeoParquetWriter.write (sink : TableSink BasinRecord)
    (inputs : List (BasinExportInput Polygon)) : Fallible ExportError (ParquetFile BasinRecord) := do
  failIf (inputs = []) .emptyInput
  let rows ← materializeRows geo options inputs
  writeTable sink (basinExportSchema options.includesProvenance) options.targetRowGroupSize
    MaterializedRow.trueBbox (MaterializedRow.record options.includesProvenance)
    (sortByKey (fun row => row.sortKey.order) rows)

/-! ## Which inputs are written together -/

/-- An accepted input with its row. -/
abbrev Entry (Polygon : Type) := ResolvedInput Polygon × MaterializedRow

/-- The entry of an input on its own. -/
def Makes (input : BasinExportInput Polygon) (entry : Entry Polygon) : Prop :=
  resolveInputIdentity options input = .ok entry.1 ∧
    (materializeRow geo entry.1).run = .ok (.ok entry.2)

end

/-- Two inputs that may be in one file. -/
structure Compatible (a b : Entry Polygon) : Prop where
  rowKey : a.1.rowKey ≠ b.1.rowKey
  origin : a.1.isDefaulted = true → b.1.isDefaulted = true →
    a.1.basinId.value = b.1.basinId.value → a.1.origin.description = b.1.origin.description

theorem Compatible.symm {a b : Entry Polygon} (h : Compatible a b) : Compatible b a :=
  ⟨h.rowKey.symm, fun hb ha heq => (h.origin ha hb heq.symm).symm⟩

/-- The state of the loop after the entries. -/
structure Claims.Tracks (claims : Claims) (entries : List (Entry Polygon)) : Prop where
  seen : ∀ key, key ∈ claims.seenRows ↔ ∃ e ∈ entries, e.1.rowKey = key
  claimed : ∀ e ∈ entries, e.1.isDefaulted = true →
    claims.defaultOriginsById.get? e.1.basinId.value = some e.1.origin.description
  origins : ∀ id origin, claims.defaultOriginsById.get? id = some origin →
    ∃ e ∈ entries, e.1.isDefaulted = true ∧ e.1.basinId.value = id ∧ e.1.origin.description = origin

theorem Claims.tracks_empty : Claims.Tracks ⟨.empty, []⟩ ([] : List (Entry Polygon)) :=
  ⟨by simp, by simp, by simp [SortedMap.get?, SortedMap.empty]⟩

theorem Claims.claim_eq_ok_iff {claims : Claims} {resolved : ResolvedInput Polygon}
    {origins : SortedMap String String} : claims.claim resolved = .ok origins ↔
      (resolved.isDefaulted = true → ∀ first,
        claims.defaultOriginsById.get? resolved.basinId.value = some first →
          first = resolved.origin.description) ∧
      origins = if resolved.isDefaulted then
          claims.defaultOriginsById.insert resolved.basinId.value resolved.origin.description
        else claims.defaultOriginsById := by
  unfold Claims.claim
  by_cases hdefaulted : resolved.isDefaulted = true
  · rw [if_pos hdefaulted, if_pos hdefaulted]
    cases claims.defaultOriginsById.get? resolved.basinId.value with
    | none =>
      rw [Except.ok.injEq, eq_comm]
      exact ⟨fun h => ⟨by simp, h⟩, And.right⟩
    | some first =>
      dsimp only
      split_ifs with hfirst
      · refine ⟨fun h => ?_, fun h => absurd (h.1 hdefaulted first rfl) hfirst⟩
        cases h
      · rw [Except.ok.injEq, eq_comm]
        refine ⟨fun h => ⟨?_, h⟩, And.right⟩
        rintro - _ ⟨⟩
        exact not_not.1 hfirst
  · rw [if_neg hdefaulted, if_neg hdefaulted, Except.ok.injEq, eq_comm]
    exact ⟨fun h => ⟨fun hd => absurd hd hdefaulted, h⟩, And.right⟩

theorem Claims.Tracks.claim_iff {claims : Claims} {entries : List (Entry Polygon)}
    (h : claims.Tracks entries) {resolved : ResolvedInput Polygon} :
    (resolved.isDefaulted = true → ∀ first,
      claims.defaultOriginsById.get? resolved.basinId.value = some first →
        first = resolved.origin.description) ↔
      ∀ e ∈ entries, e.1.isDefaulted = true → resolved.isDefaulted = true →
        e.1.basinId.value = resolved.basinId.value →
          e.1.origin.description = resolved.origin.description := by
  constructor
  · intro hclaim e he hdefaulted hresolved heq
    refine hclaim hresolved _ ?_
    rw [← heq]
    exact h.claimed e he hdefaulted
  · intro hentries hresolved first hfirst
    obtain ⟨e, he, hdefaulted, heq, rfl⟩ := h.origins _ _ hfirst
    exact hentries e he hdefaulted hresolved heq

/-- The state after one more entry. -/
theorem Claims.Tracks.concat {claims : Claims} {entries : List (Entry Polygon)}
    (h : claims.Tracks entries) {entry : Entry Polygon} (hcompat : ∀ e ∈ entries, Compatible e entry) :
    Claims.Tracks ⟨if entry.1.isDefaulted then
        claims.defaultOriginsById.insert entry.1.basinId.value entry.1.origin.description
      else claims.defaultOriginsById, entry.1.rowKey :: claims.seenRows⟩ (entries ++ [entry]) := by
  refine ⟨?_, ?_, ?_⟩
  · intro key
    rw [List.mem_cons, h.seen]
    simp only [List.mem_append, List.mem_singleton]
    constructor
    · rintro (rfl | ⟨e, he, rfl⟩)
      · exact ⟨entry, .inr rfl, rfl⟩
      · exact ⟨e, .inl he, rfl⟩
    · rintro ⟨e, he | rfl, rfl⟩
      · exact .inr ⟨e, he, rfl⟩
      · exact .inl rfl
  · intro e he hdefaulted
    rcases List.mem_append.1 he with he | he
    · by_cases hentry : entry.1.isDefaulted = true
      · rw [if_pos hentry, SortedMap.get?_insert]
        split_ifs with heq
        · rw [(hcompat e he).origin hdefaulted hentry heq]
        · exact h.claimed e he hdefaulted
      · rw [if_neg hentry]
        exact h.claimed e he hdefaulted
    · obtain rfl := List.mem_singleton.1 he
      rw [if_pos hdefaulted, SortedMap.get?_insert, if_pos rfl]
  · intro id origin hget
    have hold : claims.defaultOriginsById.get? id = some origin →
        ∃ e ∈ entries ++ [entry], e.1.isDefaulted = true ∧ e.1.basinId.value = id ∧
          e.1.origin.description = origin := by
      intro hget
      obtain ⟨e, he, hrest⟩ := h.origins id origin hget
      exact ⟨e, List.mem_append_left _ he, hrest⟩
    by_cases hentry : entry.1.isDefaulted = true
    · rw [if_pos hentry, SortedMap.get?_insert] at hget
      split_ifs at hget with heq
      · exact ⟨entry, by simp, hentry, heq.symm, Option.some.inj hget⟩
      · exact hold hget
    · rw [if_neg hentry] at hget
      exact hold hget

section

variable {geo : BasinReads Polygon} {options : ExportOptions}

/-- A turn of the loop that goes through. -/
def StepsTo (geo : BasinReads Polygon) (options : ExportOptions) (claims : Claims)
    (input : BasinExportInput Polygon) (claims' : Claims) (row : MaterializedRow) : Prop :=
  (materializeStep geo options claims input).run = .ok (.ok (claims', row))

theorem stepsTo_iff {claims claims' : Claims} {input : BasinExportInput Polygon}
    {row : MaterializedRow} : StepsTo geo options claims input claims' row ↔
      ∃ resolved, Makes geo options input (resolved, row) ∧
        claims.claim resolved = .ok claims'.defaultOriginsById ∧
        resolved.rowKey ∉ claims.seenRows ∧
        claims'.seenRows = resolved.rowKey :: claims.seenRows := by
  unfold StepsTo materializeStep
  simp only [bind_run_eq_ok_iff, mapError_run_eq_ok_iff, failIf_run_eq_ok_iff, pure_run_eq_ok_iff,
    Prod.mk.injEq]
  constructor
  · rintro ⟨resolved, hresolved, origins, horigins, -, hseen, _, hrow, rfl, rfl⟩
    exact ⟨resolved, ⟨hresolved, hrow⟩, horigins, hseen, rfl⟩
  · rintro ⟨resolved, ⟨hresolved, hrow⟩, horigins, hseen, hkeys⟩
    refine ⟨resolved, hresolved, _, horigins, (), hseen, row, hrow, ?_, rfl⟩
    rw [← hkeys]

/-- **The turns of the loop** accept exactly the inputs that are compatible with those before. -/
theorem accepts_step : Accepts (StepsTo geo options) Claims.Tracks (Makes geo options) Prod.snd
    Compatible where
  accepted := by
    intro claims entries input claims' row htracks hstep
    obtain ⟨resolved, hmakes, hclaim, hseen, hkeys⟩ := stepsTo_iff.1 hstep
    obtain ⟨horigin, horigins⟩ := Claims.claim_eq_ok_iff.1 hclaim
    have hcompat : ∀ e ∈ entries, Compatible e (resolved, row) := by
      intro e he
      refine ⟨?_, htracks.claim_iff.1 horigin e he⟩
      intro heq
      exact hseen ((htracks.seen _).2 ⟨e, he, heq⟩)
    refine ⟨(resolved, row), hmakes, rfl, hcompat, ?_⟩
    have hnext := htracks.concat hcompat
    rwa [← horigins, ← hkeys] at hnext
  accepts := by
    intro claims entries input entry htracks hmakes hcompat
    refine ⟨_, stepsTo_iff.2 ⟨entry.1, hmakes, Claims.claim_eq_ok_iff.2 ⟨?_, rfl⟩, ?_, rfl⟩,
      htracks.concat hcompat⟩
    · exact htracks.claim_iff.2 fun e he => (hcompat e he).origin
    · intro hmem
      obtain ⟨e, he, heq⟩ := (htracks.seen _).1 hmem
      exact (hcompat e he).rowKey heq

theorem materializeLoop_iff {claims : Claims} {inputs : List (BasinExportInput Polygon)}
    {rows : List MaterializedRow} :
    (materializeLoop geo options claims inputs).run = .ok (.ok rows) ↔
      ∃ last, Runs (StepsTo geo options) claims inputs last rows := by
  induction inputs generalizing claims rows with
  | nil =>
    rw [materializeLoop, pure_run_eq_ok_iff]
    constructor
    · rintro rfl
      exact ⟨claims, .nil⟩
    · rintro ⟨last, h⟩
      cases h
      rfl
  | cons input inputs ih =>
    rw [materializeLoop]
    simp only [bind_run_eq_ok_iff, pure_run_eq_ok_iff, ih]
    constructor
    · rintro ⟨⟨claims', row⟩, hstep, rest, ⟨last, hrest⟩, rfl⟩
      exact ⟨last, .cons hstep hrest⟩
    · rintro ⟨last, h⟩
      cases h with
      | cons head tail => exact ⟨_, head, _, ⟨last, tail⟩, rfl⟩

/-- **The rows of the inputs.** -/
theorem materializeRows_iff {inputs : List (BasinExportInput Polygon)} {rows : List MaterializedRow} :
    (materializeRows geo options inputs).run = .ok (.ok rows) ↔
      ∃ entries, List.Forall₂ (Makes geo options) inputs entries ∧ entries.Pairwise Compatible ∧
        rows = entries.map Prod.snd :=
  materializeLoop_iff.trans (accepts_step.runs_iff Claims.tracks_empty)

theorem materializeRows_perm {inputs inputs' : List (BasinExportInput Polygon)}
    (hperm : inputs.Perm inputs') {rows : List MaterializedRow}
    (h : (materializeRows geo options inputs).run = .ok (.ok rows)) :
    ∃ rows', (materializeRows geo options inputs').run = .ok (.ok rows') ∧ rows.Perm rows' := by
  obtain ⟨rows', hruns, hrows⟩ := accepts_step.runs_perm (fun _ _ => Compatible.symm)
    Claims.tracks_empty hperm (materializeLoop_iff.1 h)
  exact ⟨rows', materializeLoop_iff.2 hruns, hrows⟩

theorem materializeRow_key {resolved : ResolvedInput Polygon} {row : MaterializedRow}
    (h : (materializeRow geo resolved).run = .ok (.ok row)) :
    (row.basinId.value, row.delineation.value) = resolved.rowKey ∧
      row.sortKey.id = row.basinId ∧ row.sortKey.delineation = row.delineation := by
  unfold materializeRow at h
  obtain ⟨trueBbox, -, h⟩ := bind_run_eq_ok h
  obtain ⟨sortKey, hkey, h⟩ := bind_run_eq_ok h
  obtain ⟨geometry, -, h⟩ := bind_run_eq_ok h
  obtain rfl := pure_run_eq_ok_iff.1 h
  exact ⟨rfl, SpatialSortKey.of_fromGeometry hkey⟩

/-- Materialized rows have distinct keys and distinct sort keys. -/
theorem materializeRows_nodup {inputs : List (BasinExportInput Polygon)} {rows : List MaterializedRow}
    (h : (materializeRows geo options inputs).run = .ok (.ok rows)) :
    (rows.map fun row => (row.basinId.value, row.delineation.value)).Nodup ∧
      (rows.map fun row => row.sortKey.order).Nodup := by
  obtain ⟨entries, hmakes, hcompat, rfl⟩ := materializeRows_iff.1 h
  have hrow : ∀ e ∈ entries, (e.2.basinId.value, e.2.delineation.value) = e.1.rowKey ∧
      e.2.sortKey.id = e.2.basinId ∧ e.2.sortKey.delineation = e.2.delineation := by
    intro e he
    obtain ⟨input, -, hmake⟩ := exists_of_forall₂ hmakes.flip he
    exact materializeRow_key hmake.2
  have hkeys : ((entries.map Prod.snd).map fun row =>
      (row.basinId.value, row.delineation.value)).Nodup := by
    rw [List.map_map, List.Nodup, List.pairwise_map]
    refine hcompat.imp_of_mem ?_
    intro a b ha hb hab heq
    refine hab.rowKey ?_
    rw [← (hrow a ha).1, ← (hrow b hb).1]
    exact heq
  refine ⟨hkeys, ?_⟩
  -- The sort key determines the key.
  have horder : ((entries.map Prod.snd).map fun row => (row.basinId.value, row.delineation.value)) =
      ((entries.map Prod.snd).map fun row => row.sortKey.order).map fun order =>
        ((ofLex (ofLex order).2).1, (ofLex (ofLex order).2).2) := by
    rw [List.map_map, List.map_map, List.map_map]
    refine List.map_congr_left ?_
    intro e he
    obtain ⟨-, hid, hlabel⟩ := hrow e he
    simp only [Function.comp_apply, BasinSpatialSortKey.order, ofLex_toLex, hid, hlabel]
  rw [horder] at hkeys
  exact hkeys.of_map _

end

/-! ## The writer -/

/-- A successful write. -/
def BasinGeoParquetWriter.Writes (geo : BasinReads Polygon) (options : ExportOptions)
    (sink : TableSink BasinRecord) (inputs : List (BasinExportInput Polygon))
    (file : ParquetFile BasinRecord) : Prop :=
  (BasinGeoParquetWriter.write geo options sink inputs).run = .ok (.ok file)

theorem BasinGeoParquetWriter.writes_iff {geo : BasinReads Polygon} {options : ExportOptions}
    {sink : TableSink BasinRecord} {inputs : List (BasinExportInput Polygon)}
    {file : ParquetFile BasinRecord} : Writes geo options sink inputs file ↔
      inputs ≠ [] ∧ ∃ rows, (materializeRows geo options inputs).run = .ok (.ok rows) ∧
        (writeTable sink (basinExportSchema options.includesProvenance) options.targetRowGroupSize
          MaterializedRow.trueBbox (MaterializedRow.record options.includesProvenance)
          (sortByKey (fun row => row.sortKey.order) rows)).run = .ok (.ok file) := by
  simp only [Writes, write, bind_run_eq_ok_iff, failIf_run_eq_ok_iff]
  exact ⟨fun ⟨_, hne, h⟩ => ⟨hne, h⟩, fun ⟨hne, h⟩ => ⟨(), hne, h⟩⟩

theorem total_materializeStep {geo : BasinReads Polygon} {options : ExportOptions} {claims : Claims}
    {input : BasinExportInput Polygon} : Total (materializeStep geo options claims input) := by
  refine total_bind (total_mapError _ _) fun resolved _ => ?_
  refine total_bind (total_mapError _ _) fun origins _ => ?_
  refine total_bind (total_failIf _ _) fun _ _ => ?_
  have hrow : Total (materializeRow geo resolved) := by
    refine total_bind (total_mapError _ _) fun trueBbox _ => ?_
    refine total_bind SpatialSortKey.total_fromGeometry fun sortKey _ => ?_
    exact total_bind (total_mapError _ _) fun geometry _ => total_pure _
  exact total_bind hrow fun row _ => total_pure _

theorem total_materializeLoop {geo : BasinReads Polygon} {options : ExportOptions} {claims : Claims}
    {inputs : List (BasinExportInput Polygon)} :
    Total (materializeLoop geo options claims inputs) := by
  induction inputs generalizing claims with
  | nil => exact total_pure []
  | cons input inputs ih =>
    refine total_bind total_materializeStep fun _ _ => ?_
    exact total_bind ih fun _ _ => total_pure _

/-- Writing ends with a file or an error. -/
theorem BasinGeoParquetWriter.total_write {geo : BasinReads Polygon} {options : ExportOptions}
    {sink : TableSink BasinRecord} {inputs : List (BasinExportInput Polygon)}
    (hmachine : inputs.length < 2 ^ 64) : Total (write geo options sink inputs) := by
  refine total_bind (total_failIf _ _) fun _ _ => ?_
  refine total_bind total_materializeLoop fun rows hrows => total_writeTable ?_
  obtain ⟨entries, hmakes, -, rfl⟩ := materializeRows_iff.1 hrows
  rwa [perm_sortByKey.length_eq, List.length_map, ← hmakes.length_eq]

/-- The file does not depend on the order of the inputs. -/
theorem BasinGeoParquetWriter.Writes.perm {geo : BasinReads Polygon} {options : ExportOptions}
    {sink : TableSink BasinRecord} {inputs inputs' : List (BasinExportInput Polygon)}
    {file : ParquetFile BasinRecord} (h : Writes geo options sink inputs file)
    (hperm : inputs.Perm inputs') : Writes geo options sink inputs' file := by
  obtain ⟨hne, rows, hrows, hwrite⟩ := writes_iff.1 h
  obtain ⟨rows', hrows', hsame⟩ := materializeRows_perm hperm hrows
  refine writes_iff.2 ⟨?_, rows', hrows', ?_⟩
  · rintro rfl
    exact hne hperm.eq_nil
  · rwa [sortByKey_eq_of_nodup (materializeRows_nodup hrows).2 hsame]

/-- **The basin writer.** A list of inputs and a permutation of it are both written, to the same file, or
both fail. On success the rows are those of the inputs, each once, with distinct keys and sorted. -/
theorem BasinGeoParquetWriter.write_order (geo : BasinReads Polygon) (options : ExportOptions)
    (sink : TableSink BasinRecord) (inputs : List (BasinExportInput Polygon)) :
    (∀ inputs', inputs.Perm inputs' → ∀ file,
      Writes geo options sink inputs file ↔ Writes geo options sink inputs' file) ∧
    ∀ file, Writes geo options sink inputs file →
      ∃ rows : List MaterializedRow,
        file.batches.flatten = rows.map (MaterializedRow.record options.includesProvenance) ∧
        (∃ entries, List.Forall₂ (Makes geo options) inputs entries ∧
          rows.Perm (entries.map Prod.snd)) ∧
        (rows.map fun row => (row.basinId.value, row.delineation.value)).Nodup ∧
        rows.Pairwise fun a b => a.sortKey.order < b.sortKey.order := by
  refine ⟨fun inputs' hperm file => ⟨fun h => h.perm hperm, fun h => h.perm hperm.symm⟩, ?_⟩
  intro file h
  obtain ⟨-, rows, hrows, hwrite⟩ := writes_iff.1 h
  obtain ⟨entries, hmakes, -, rfl⟩ := materializeRows_iff.1 hrows
  obtain ⟨hkeys, horder⟩ := materializeRows_nodup hrows
  exact ⟨_, writeTable_run_eq_ok hwrite, ⟨entries, hmakes, perm_sortByKey⟩,
    (perm_sortByKey.map _).nodup_iff.2 hkeys, pairwise_lt_sortByKey horder⟩

/-- Reads of a unit square. -/
def unitSquareReads : BasinReads Unit where
  unsignedArea _ := .finite 1
  boundingRect _ :=
    some (⟨⟨false, 0⟩, ⟨false, 0⟩⟩, ⟨⟨false, 0x3FF0000000000000⟩, ⟨false, 0x3FF0000000000000⟩⟩)
  centroid _ := some ⟨⟨false, 0x3FE0000000000000⟩, ⟨false, 0x3FE0000000000000⟩⟩
  encodeWkb _ := .ok [1]
  debugText _ := "PointInPolygon"

/-- The unit square as the watershed of a terminal unit. -/
def unitSquareInput (terminalUnitId : UnitId) (origin : String) : BasinExportInput Unit :=
  .defaultBasinId ⟨terminalUnitId, ⟨0, 0⟩, .pointInPolygon 1 none, [terminalUnitId], .disabled, [()],
    ⟨false, 0⟩⟩ ⟨"grit", some "1.0.0", "2.0.0"⟩ ⟨"merged", by decide⟩ ⟨origin⟩

/-- The basin ids of the written batches. -/
def writtenIds (inputs : List (BasinExportInput Unit)) : Option (List (List String)) :=
  match (BasinGeoParquetWriter.write unitSquareReads .default
    ⟨fun _ => "", fun file => .ok file.keyValueMetadata⟩ inputs).run with
  | .ok (.ok file) => some (file.batches.map (List.map BasinRecord.basinId))
  | _ => none

example : writtenIds [unitSquareInput 2 "b", unitSquareInput 1 "a"] = some [["1", "2"]] := by
  decide +kernel

end Pourpoint
