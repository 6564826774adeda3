import Pourpoint.Engine.Records
import Pourpoint.Wkb

/-!
# Outcomes of a delineation

In a loaded session every delineation ends with a result or an error, and never aborts. The result is that
of the units at the finest level from which the resolved one is reached, each with its stored record, and
its geometry is assembled from their polygons, with the refined ones for the terminal
(`delineate_describes`). The errors that guard the integrity of a session are not among those that it
returns, and refinement fails a delineation only where it is required (`delineate_errors`).
-/

namespace Pourpoint

open Fallible Library

/-! ## Dissolving the records -/

section Dissolve

variable {Polygon : Type} {hfx : HfxUnit} {toGeo : List UInt8 → Except String (GeoGeometry Polygon)}
  {session : DatasetSession} {ids : List UnitId} {records : List (PreMergeDrainageUnit Polygon)}
  {terminal : UnitId} {level : Level}

/-- An empty geometry fails, under the name of what it is. -/
theorem nonEmptyGeometries_eq_error {refined : Bool} {entries : List (UnitId × List Polygon)}
    {e : AssemblyError} (h : nonEmptyGeometries terminal refined entries = .error e) :
    ∃ entry ∈ entries, entry.2 = [] ∧ e = if entry.1 = terminal ∧ refined = true
      then .emptyRefinedTerminalGeometry terminal else .emptyCatchmentGeometry entry.1 := by
  induction entries with
  | nil => cases h
  | cons entry entries ih =>
    rw [nonEmptyGeometries] at h
    by_cases hempty : entry.2 = []
    · refine ⟨entry, List.mem_cons_self, hempty, ?_⟩
      rw [if_pos (List.isEmpty_iff.2 hempty)] at h
      split_ifs at h ⊢
      · exact (Except.error.inj h).symm
      · exact (Except.error.inj h).symm
    · rw [if_neg fun h => hempty (List.isEmpty_iff.1 h)] at h
      rcases bind_eq_error_iff.1 h with h | ⟨geometries, -, h⟩
      · obtain ⟨other, hother, hfail⟩ := ih h
        exact ⟨other, List.mem_cons_of_mem _ hother, hfail⟩
      · cases h

theorem ids_of_records {file : CatchmentFile}
    (hrecords : List.Forall₂ (IsRecord hfx toGeo file level) ids records) :
    records.map (·.id) = ids := by
  have hmap : List.Forall₂ (fun id other => id = other) ids (records.map (·.id)) := by
    rw [List.forall₂_map_right_iff]
    refine hrecords.imp ?_
    intro id record hrecord
    obtain ⟨unit, -, -, -, geometry, -, rfl⟩ := hrecord
    rfl
  rw [List.forall₂_eq_eq_eq] at hmap
  exact hmap.symm

/-- The map of the dissolve has the geometries of the units. -/
theorem mem_geometriesById_of_records (h : session.Loaded hfx) (hnodup : ids.Nodup)
    (hrecords : List.Forall₂ (IsRecord hfx toGeo session.catchments.file level) ids records)
    (hterminal : terminal ∈ ids) (refined : Option (List Polygon)) (entry : UnitId × List Polygon) :
    entry ∈ (geometriesById ⟨terminal, level, records⟩ refined).entries ↔
      entry.1 ∈ ids ∧ GeometryOf session.catchments.file toGeo terminal refined entry.1 entry.2 := by
  have hids := ids_of_records hrecords
  have hrecord : ∀ id ∈ ids, ∃ record ∈ records, record.id = id ∧
      session.catchments.file.Stored toGeo id record.geometry := by
    intro id hid
    obtain ⟨_, hmem, unit, hunit, rfl, -, geometry, hdecode, rfl⟩ := exists_of_forall₂ hrecords hid
    exact ⟨_, hmem, rfl, (stored_iff h.valid).2 ⟨unit, hunit, rfl, hdecode⟩⟩
  rw [mem_geometriesById (by rw [hids]; exact hnodup), GeometryOf]
  obtain ⟨id, geometry⟩ := entry
  by_cases hrefined : refined.isSome ∧ id = terminal
  · obtain ⟨record, -, -, hstored⟩ := hrecord terminal hterminal
    rw [if_pos hrefined, if_pos hrefined, hrefined.2]
    simp [hterminal, hstored.has]
  · rw [if_neg hrefined, if_neg hrefined]
    constructor
    · intro hentry
      obtain ⟨record, hmem, heq⟩ := hentry
      cases heq
      have hid : record.id ∈ ids := hids ▸ List.mem_map_of_mem hmem
      obtain ⟨other, hother, hsame, hstored⟩ := hrecord record.id hid
      obtain rfl := List.inj_on_of_nodup_map (hids ▸ hnodup) hother hmem hsame
      exact ⟨hid, hstored⟩
    · intro hentry
      obtain ⟨record, hmem, rfl, hstored⟩ := hrecord id hentry.1
      exact ⟨record, hmem, congrArg _ (hentry.2.unique h.nodup_rows hstored)⟩

/-- **Dissolving records.** The geometries of the units in id order, unless a stored one is empty. -/
theorem dissolveWatershed_loaded (h : session.Loaded hfx) (hnodup : ids.Nodup)
    (hrecords : List.Forall₂ (IsRecord hfx toGeo session.catchments.file level) ids records)
    (hterminal : terminal ∈ ids) (refinement : TerminalRefinement Polygon) :
    (∃ geometries, dissolveWatershed ⟨terminal, level, records⟩ refinement = .ok geometries ∧
      IsGeometryList session.catchments.file toGeo terminal refinement.refinedTerminalGeometry ids
        geometries ∧ ∀ geometry ∈ geometries, geometry ≠ []) ∨
    ∃ unit ∈ session.catchments.file.units hfx, unit.id ∈ ids ∧
      (refinement.refinedTerminalGeometry.isSome → unit.id ≠ terminal) ∧
      decodeWkbMultiPolygonBytes toGeo unit.geometry = .ok [] ∧
      dissolveWatershed ⟨terminal, level, records⟩ refinement =
        .error (.assembly terminal (.emptyCatchmentGeometry unit.id)) := by
  have hentries := mem_geometriesById_of_records h hnodup hrecords hterminal
    refinement.refinedTerminalGeometry
  unfold dissolveWatershed
  dsimp only
  cases hdissolve : nonEmptyGeometries terminal refinement.refinedTerminalGeometry.isSome
      (geometriesById ⟨terminal, level, records⟩ refinement.refinedTerminalGeometry).entries with
  | ok geometries =>
    obtain ⟨hall, hgeometries⟩ := (nonEmptyGeometries_eq_ok_iff _ _).1 hdissolve
    refine Or.inl ⟨geometries, rfl, ?_, ?_⟩
    · refine (isGeometryList_iff_of_entries h.nodup_rows hentries).2 ⟨?_, hgeometries⟩
      intro id hid
      obtain ⟨_, -, unit, hunit, rfl, -, geometry, hdecode, -⟩ := exists_of_forall₂ hrecords hid
      obtain ⟨found, hfound⟩ := exists_geometryOf
        ⟨geometry, (stored_iff h.valid).2 ⟨unit, hunit, rfl, hdecode⟩⟩ terminal
          refinement.refinedTerminalGeometry
      exact SortedMap.mem_keys.2 ⟨found, (hentries (unit.id, found)).2 ⟨hid, hfound⟩⟩
    · intro geometry hgeometry
      rw [hgeometries] at hgeometry
      obtain ⟨entry, hentry, rfl⟩ := List.mem_map.1 hgeometry
      exact hall entry hentry
  | error e =>
    obtain ⟨⟨id, geometry⟩, hentry, hempty, rfl⟩ := nonEmptyGeometries_eq_error hdissolve
    obtain rfl : geometry = [] := hempty
    obtain ⟨hid, hgeometry⟩ := (hentries _).1 hentry
    unfold GeometryOf at hgeometry
    by_cases hrefined : refinement.refinedTerminalGeometry.isSome = true ∧ id = terminal
    · -- A contained terminal is not empty.
      rw [if_pos hrefined] at hgeometry
      cases refinement with
      | applied refinedOutlet contained provenance =>
        exact absurd (Option.some.inj hgeometry.1) contained.nonempty
      | bestEffortSkipped provenance => cases hgeometry.1
      | disabled => cases hgeometry.1
    · rw [if_neg hrefined] at hgeometry
      obtain ⟨unit, hunit, rfl, hdecode⟩ := (stored_iff h.valid).1 hgeometry
      refine Or.inr ⟨unit, hunit, hid, fun hsome hsame => hrefined ⟨hsome, hsame⟩, hdecode, ?_⟩
      rw [if_neg fun hboth => hrefined ⟨hboth.2, hboth.1⟩]
      rfl

end Dissolve

/-! ## Refining the terminal -/

/-- Errors of a required refinement. -/
def EngineError.IsRefinement : EngineError → Prop
  | .rasterLocalize _ _ => True
  | .d8Selection _ _ => True
  | .requiredD8RasterSourceMissing _ => True
  | .refinement _ _ => True
  | _ => False

theorem isRefinement_toEngine (e : TerminalRefinementError) : e.toEngine.IsRefinement := by
  cases e <;> trivial

section Refine

variable {Polygon : Type} {text : ErrorText} {strategy : RefinementStrategy Polygon} {aux : AuxDeclarations}
  {authority : OutletResolution} {units : PreMergeDrainageUnits Polygon} {snapThreshold : ℕ}

theorem isRefinement_of_runRefinementStrategy (hfirst : units.TerminalFirst) {e : EngineError}
    (h : runRefinementStrategy text strategy authority units .requireD8 snapThreshold = .error e) :
    e.IsRefinement := by
  obtain ⟨unit, rest, hunits, hid⟩ := hfirst
  have hterminal : (units.terminalUnit.filter fun unit => unit.id = units.terminal) = some unit := by
    rw [PreMergeDrainageUnits.terminalUnit, hunits, List.head?_cons]
    exact Option.filter_some_pos (decide_eq_true hid)
  rw [runRefinementStrategy, hterminal] at h
  rcases bind_eq_error_iff.1 h with h | ⟨found, -, h⟩
  · cases h
  generalize strategy _ = result at h
  cases result with
  | error error =>
    cases h
    exact isRefinement_toEngine error
  | ok decision =>
    cases decision with
    | applied refinedOutlet geometry provenance => cases h
    | bestEffortSkipped provenance =>
      cases h
      trivial

/-- A refinement fails only where it is required, with an error of its own. -/
theorem isRefinement_of_refineTerminalStage (hfirst : units.TerminalFirst) {mode : RefinementMode}
    {e : EngineError}
    (h : refineTerminalStage text strategy aux authority units mode snapThreshold = .error e) :
    mode = .requireD8 ∧ e.IsRefinement := by
  cases mode with
  | disabled => cases h
  | bestEffort =>
    have hok : ∃ outcome, refineTerminalStage text strategy aux authority units .bestEffort
        snapThreshold = .ok outcome := refineTerminalStage_bestEffort hfirst
    obtain ⟨outcome, houtcome⟩ := hok
    rw [houtcome] at h
    cases h
  | requireD8 =>
    refine ⟨rfl, ?_⟩
    simp only [refineTerminalStage] at h
    by_cases haux : aux.hasD8Aux
    · rw [if_pos haux] at h
      exact isRefinement_of_runRefinementStrategy hfirst h
    · rw [if_neg haux] at h
      cases h
      trivial

end Refine

/-! ## The pipeline -/

theorem settles_mapFallibleError {ε δ α : Type} {f : ε → δ} {x : Fallible ε α} {Q : α → Prop}
    {E : δ → Prop} (h : Settles x Q fun e => E (f e)) : Settles (mapFallibleError f x) Q E := by
  rcases h with ⟨a, ha, hQ⟩ | ⟨e, he, hE⟩
  · exact Or.inl ⟨a, mapFallibleError_run_eq_ok_iff.2 ha, hQ⟩
  · refine Or.inr ⟨f e, ?_, hE⟩
    show x.run.map (·.mapError f) = _
    rw [he]
    rfl

namespace Engine

variable {Geometry : Type}

/-! ### What the stages find -/

section

variable (crates : EngineCrates Geometry) (engine : Engine) (outlet : GeoCoord)
  (options : DelineationOptions)

/-- The finest level of the graph, and the unit of it that the outlet is resolved to. -/
structure Resolves (level : Level) (authority : OutletResolution) : Prop where
  finest : IsGreatest {l | ∃ row ∈ engine.session.graph.rows, row.level = l} level
  resolved : engine.resolveOutletAuthorityAtLevel crates outlet level options.resolverConfig = .ok authority

/-- The units from which the resolved unit is reached, each once, the resolved one first, and the records
of them. -/
structure Collects (level : Level) (authority : OutletResolution) (ids : List UnitId)
    (records : List (PreMergeDrainageUnit DoublePolygon)) : Prop
    extends Resolves crates engine outlet options level authority where
  nodup : ids.Nodup
  first : ids.head? = some authority.unitId
  mem_iff : ∀ id, id ∈ ids ↔ Relation.ReflTransGen engine.session.graph.Upstream id authority.unitId
  stored : List.Forall₂
    (IsRecord crates.hfx crates.pipGeo.toGeo engine.session.catchments.file level) ids records

/-- What the refinement stage makes of the terminal's record. -/
structure Refines (level : Level) (authority : OutletResolution) (ids : List UnitId)
    (records : List (PreMergeDrainageUnit DoublePolygon))
    (refinement : TerminalRefinement DoublePolygon) : Prop
    extends Collects crates engine outlet options level authority ids records where
  refined : refineTerminalStage crates.text engine.refinementStrategy engine.session.aux authority
    ⟨authority.unitId, level, records⟩ options.refinementMode options.snapThreshold.pixels = .ok refinement

/-- The result is that of the units at the finest level from which the resolved unit is reached: their
records, the refinement of the terminal, and the geometry assembled from their polygons. -/
structure Describes (level : Level) (authority : OutletResolution)
    (records : List (PreMergeDrainageUnit DoublePolygon))
    (refinement : TerminalRefinement DoublePolygon) (geometries : List (List DoublePolygon))
    (result : DelineationResult) : Prop
    extends Refines crates engine outlet options level authority result.upstreamUnitIds records
      refinement where
  terminal : result.terminalUnitId = authority.unitId
  inputOutlet : result.inputOutlet = outlet
  resolvedOutlet : result.resolvedOutlet = authority.resolvedCoord
  resolutionMethod : result.resolutionMethod = authority.method
  metadata : List.Forall₂ (fun id metadata => ∃ unit ∈ engine.session.catchments.file.units crates.hfx,
    unit.id = id ∧ unit.level = level ∧
      metadata = ⟨id, level, unit.area, unit.upstreamArea, unit.outlet⟩)
    result.upstreamUnitIds result.upstreamUnits
  refinement_eq : result.refinement = refinement.outcome
  required : options.refinementMode = .requireD8 →
    ∃ refinedOutlet geometry provenance, refinement = .applied refinedOutlet geometry provenance
  disabled : options.refinementMode = .disabled → refinement = .disabled
  polygons : IsGeometryList engine.session.catchments.file crates.pipGeo.toGeo result.terminalUnitId
    refinement.refinedTerminalGeometry result.upstreamUnitIds geometries
  nonempty : ∀ geometry ∈ geometries, geometry ≠ []
  assembled : (assembleFromGeometries crates.assembly (engine.buildAssemblyOptions options)
    geometries).run = .ok (.ok ⟨result.geometry, result.areaKm2⟩)

/-- The errors of a delineation, each with what it is about. -/
inductive Expected : DelineationError → Prop where
  | empty : engine.session.graph.rows = [] →
      Expected (.sessionLevelIndexEmpty engine.session.manifest.fabricName
        engine.session.manifest.unitCount)
  | unresolved {level : Level} {source : OutletResolutionError} :
      IsGreatest {l | ∃ row ∈ engine.session.graph.rows, row.level = l} level →
      engine.resolveOutletAuthorityAtLevel crates outlet level options.resolverConfig = .error source →
      Expected (.resolution outlet source)
  | undecodable {level : Level} {authority : OutletResolution} {unit : CatchmentUnit}
      {source : WkbDecodeError} :
      Resolves crates engine outlet options level authority →
      unit ∈ engine.session.catchments.file.units crates.hfx →
      Relation.ReflTransGen engine.session.graph.Upstream unit.id authority.unitId →
      decodeWkbMultiPolygonBytes crates.pipGeo.toGeo unit.geometry = .error source →
      Expected (.stage (.preMergeCatchmentDecode unit.id source))
  | unrefined {level : Level} {authority : OutletResolution} {ids : List UnitId}
      {records : List (PreMergeDrainageUnit DoublePolygon)} {source : EngineError} :
      Collects crates engine outlet options level authority ids records →
      options.refinementMode = .requireD8 →
      refineTerminalStage crates.text engine.refinementStrategy engine.session.aux authority
        ⟨authority.unitId, level, records⟩ options.refinementMode options.snapThreshold.pixels =
          .error source →
      source.IsRefinement → Expected (.stage source)
  | emptyUnit {level : Level} {authority : OutletResolution} {ids : List UnitId}
      {records : List (PreMergeDrainageUnit DoublePolygon)}
      {refinement : TerminalRefinement DoublePolygon} {unit : CatchmentUnit} :
      Refines crates engine outlet options level authority ids records refinement →
      unit ∈ engine.session.catchments.file.units crates.hfx → unit.id ∈ ids →
      (refinement.refinedTerminalGeometry.isSome → unit.id ≠ authority.unitId) →
      decodeWkbMultiPolygonBytes crates.pipGeo.toGeo unit.geometry = .ok [] →
      Expected (.stage (.assembly authority.unitId (.emptyCatchmentGeometry unit.id)))
  | unassembled {level : Level} {authority : OutletResolution} {ids : List UnitId}
      {records : List (PreMergeDrainageUnit DoublePolygon)}
      {refinement : TerminalRefinement DoublePolygon} {geometries : List (List DoublePolygon)}
      {source : FinalAssemblyError} :
      Refines crates engine outlet options level authority ids records refinement →
      IsGeometryList engine.session.catchments.file crates.pipGeo.toGeo authority.unitId
        refinement.refinedTerminalGeometry ids geometries →
      (assembleFromGeometries crates.assembly (engine.buildAssemblyOptions options) geometries).run =
        .ok (.error source) →
      Expected (.finalAssembly authority.unitId source)

end

/-! ### The stages in sequence -/

section

variable {crates : EngineCrates Geometry} {engine : Engine} {outlet : GeoCoord}
  {options : DelineationOptions}

theorem settles_selectLevel : Settles (mapError id engine.selectLevel)
    (fun level => engine.session.maxLevel = some level) (Expected crates engine outlet options) := by
  refine settles_mapError (fun level h => found_eq_ok.1 h) ?_
  intro e h
  unfold selectLevel at h
  cases hmax : engine.session.maxLevel with
  | none =>
    rw [hmax] at h
    cases h
    exact .empty (DatasetSession.maxLevel_eq_none_iff.1 hmax)
  | some level =>
    rw [hmax] at h
    cases h

theorem settles_traverse (h : engine.session.Loaded crates.hfx) {terminal : UnitId} {level : Level}
    (hlevel : levelOf engine.session.graph terminal = some level) {E : DelineationError → Prop} :
    Settles (mapFallibleError .stage (traverseUpstreamAtLevel engine.session.graph ⟨terminal, level⟩))
      (fun upstream => upstream.terminal = terminal ∧ upstream.selectedLevel = level ∧
        upstream.upstream.Complete engine.session.graph terminal ∧
        ∀ id ∈ upstream.upstream.units, levelOf engine.session.graph id = some level) E := by
  obtain ⟨result, hrun, hcomplete⟩ := h.consistent.collectUpstream_eq_ok hlevel
  have hlevels : ∀ id ∈ result.units, levelOf engine.session.graph id = some level :=
    fun id hid => h.consistent.reaches_level ((hcomplete.mem_iff id).1 hid) hlevel
  refine settles_mapFallibleError (Or.inl ⟨⟨terminal, level, result⟩, ?_, rfl, rfl, hcomplete, hlevels⟩)
  unfold traverseUpstreamAtLevel mapTraversalError
  rw [hrun]
  exact bind_run_of_ok (checkLevels_eq_ok hlevels) _

theorem terminalFirst_of_records {Polygon : Type} {hfx : HfxUnit}
    {toGeo : List UInt8 → Except String (GeoGeometry Polygon)} {file : CatchmentFile} {level : Level}
    {ids : List UnitId} {records : List (PreMergeDrainageUnit Polygon)} {terminal : UnitId}
    (hfirst : ids.head? = some terminal)
    (hrecords : List.Forall₂ (IsRecord hfx toGeo file level) ids records) :
    PreMergeDrainageUnits.TerminalFirst ⟨terminal, level, records⟩ := by
  rw [← ids_of_records hrecords] at hfirst
  cases records with
  | nil => cases hfirst
  | cons unit rest => exact ⟨unit, rest, rfl, Option.some.inj hfirst⟩

/-- The assembly always returns or fails. -/
theorem settles_dissolve (hassembly : crates.assembly.Lawful) (h : engine.session.Loaded crates.hfx)
    {level : Level} {authority : OutletResolution} {ids : List UnitId}
    {records : List (PreMergeDrainageUnit DoublePolygon)} {refinement : TerminalRefinement DoublePolygon}
    (hrefines : Refines crates engine outlet options level authority ids records refinement) :
    Settles (engine.dissolve crates options ⟨authority.unitId, level, records⟩ refinement)
      (fun dissolved => ∃ geometries, IsGeometryList engine.session.catchments.file crates.pipGeo.toGeo
          authority.unitId refinement.refinedTerminalGeometry ids geometries ∧
        (∀ geometry ∈ geometries, geometry ≠ []) ∧
        (assembleFromGeometries crates.assembly (engine.buildAssemblyOptions options) geometries).run =
          .ok (.ok dissolved))
      (Expected crates engine outlet options) := by
  unfold dissolve
  rcases dissolveWatershed_loaded h hrefines.nodup hrefines.stored
      (List.mem_of_mem_head? hrefines.first) refinement with
    ⟨geometries, hdissolve, hlist, hnonempty⟩ | ⟨unit, hunit, hid, hkept, hdecode, hdissolve⟩
  · rw [hdissolve]
    show Settles (mapFallibleError _ _) _ _
    refine settles_mapFallibleError ?_
    obtain ⟨outcome, houtcome⟩ := exists_run_assembleFromGeometries hassembly
      (engine.buildAssemblyOptions options) geometries
    cases outcome with
    | ok dissolved => exact Or.inl ⟨dissolved, houtcome, geometries, hlist, hnonempty, houtcome⟩
    | error e => exact Or.inr ⟨e, houtcome, .unassembled hrefines hlist houtcome⟩
  · rw [hdissolve]
    exact Or.inr ⟨_, rfl, .emptyUnit hrefines hunit hid hkept hdecode⟩

/-- The stages from the records on. -/
theorem settles_delineateRecords (hassembly : crates.assembly.Lawful)
    (h : engine.session.Loaded crates.hfx) {level : Level} {authority : OutletResolution}
    {units : UpstreamUnits} {records : List (PreMergeDrainageUnit DoublePolygon)}
    (hcollects : Collects crates engine outlet options level authority units.units records) :
    Settles (do
        let refinement ← mapError .stage (refineTerminalStage crates.text engine.refinementStrategy
          engine.session.aux authority ⟨authority.unitId, level, records⟩ options.refinementMode
          options.snapThreshold.pixels)
        let dissolved ← engine.dissolve crates options ⟨authority.unitId, level, records⟩ refinement
        pure (composeResult authority ⟨authority.unitId, level, units⟩ ⟨authority.unitId, level, records⟩
          refinement dissolved))
      (fun result => ∃ level authority records refinement geometries,
        engine.Describes crates outlet options level authority records refinement geometries result)
      (Expected crates engine outlet options) := by
  have hfirst := terminalFirst_of_records hcollects.first hcollects.stored
  refine settles_bind (settles_mapError (fun _ => id) fun e he => ?_) fun refinement hrefinement =>
    settles_bind (settles_dissolve hassembly h ⟨hcollects, hrefinement⟩)
      fun dissolved hdissolved => settles_pure ?_
  · obtain ⟨hmode, hkind⟩ := isRefinement_of_refineTerminalStage hfirst he
    exact .unrefined hcollects hmode he hkind
  obtain ⟨geometries, hlist, hnonempty, hassembled⟩ := hdissolved
  refine ⟨level, authority, records, refinement, geometries, ?_⟩
  exact {
    toCollects := hcollects
    refined := hrefinement
    terminal := rfl
    inputOutlet := (level_of_resolveOutletAuthorityAtLevel h hcollects.resolved).2
    resolvedOutlet := rfl
    resolutionMethod := rfl
    metadata := by
      show List.Forall₂ _ units.units (records.map _)
      rw [List.forall₂_map_right_iff]
      refine hcollects.stored.imp ?_
      intro id record hrecord
      obtain ⟨unit, hunit, rfl, rfl, geometry, -, rfl⟩ := hrecord
      exact ⟨unit, hunit, rfl, rfl, rfl⟩
    refinement_eq := rfl
    required := by
      intro hmode
      rw [hmode] at hrefinement
      exact applied_of_requireD8 hrefinement
    disabled := by
      intro hmode
      rw [hmode] at hrefinement
      exact (Except.ok.inj hrefinement).symm
    polygons := hlist
    nonempty := hnonempty
    assembled := hassembled }

/-- Every delineation ends as described or with an expected error. -/
theorem settles_delineate (hassembly : crates.assembly.Lawful) (h : engine.session.Loaded crates.hfx) :
    Settles (engine.delineate crates outlet options)
      (fun result => ∃ level authority records refinement geometries,
        engine.Describes crates outlet options level authority records refinement geometries result)
      (Expected crates engine outlet options) := by
  unfold delineate
  refine settles_bind settles_selectLevel fun level hmax => ?_
  have hfinest := DatasetSession.maxLevel_eq_some_iff.1 hmax
  refine settles_bind (settles_mapError (fun _ => id) fun source => .unresolved hfinest)
    fun authority hauthority => ?_
  obtain ⟨hlevel, -⟩ := level_of_resolveOutletAuthorityAtLevel h hauthority
  refine settles_bind (settles_traverse h hlevel) fun upstream hupstream => ?_
  obtain ⟨terminal, selectedLevel, units⟩ := upstream
  obtain ⟨rfl, rfl, hcomplete, hlevels⟩ := hupstream
  unfold delineateUpstream
  rcases producePreMergeUnits_loaded h hcomplete.nodup hlevels with
    ⟨records, hproduce, hrecords⟩ | ⟨unit, hunit, hid, source, hsource, hproduce⟩
  · rw [hproduce]
    exact settles_delineateRecords hassembly h
      ⟨⟨hfinest, hauthority⟩, hcomplete.nodup, hcomplete.first, hcomplete.mem_iff, hrecords⟩
  · rw [hproduce]
    exact Or.inr ⟨_, rfl, .undecodable ⟨hfinest, hauthority⟩ hunit ((hcomplete.mem_iff _).1 hid) hsource⟩

end

/-- **What a delineation returns.** In a loaded session the result is that of the units at the finest
level from which the resolved unit is reached, each with its stored record, and its geometry is a valid
multi-polygon that is assembled from their polygons, with the refined ones for the terminal. -/
theorem delineate_describes (crates : EngineCrates Geometry) (hassembly : crates.assembly.Lawful)
    (engine : Engine) (h : engine.session.Loaded crates.hfx) (outlet : GeoCoord)
    (options : DelineationOptions)
    (hrepair : (engine.buildAssemblyOptions options).RepairCloses) (result : DelineationResult)
    (hresult : (engine.delineate crates outlet options).run = .ok (.ok result)) :
    ∃ level authority records refinement geometries,
      engine.Describes crates outlet options level authority records refinement geometries result ∧
      AssemblyResult.Sound crates.assembly ⟨result.geometry, result.areaKm2⟩ := by
  have hsettles : Settles (engine.delineate crates outlet options) _
      (Expected crates engine outlet options) := settles_delineate hassembly h
  rcases hsettles with
    ⟨returned, hrun, level, authority, records, refinement, geometries, hdescribes⟩ | ⟨e, hrun, -⟩
  · rw [hrun] at hresult
    cases hresult
    exact ⟨level, authority, records, refinement, geometries, hdescribes,
      sound_of_assembleFromGeometries hassembly hrepair hdescribes.assembled⟩
  · rw [hrun] at hresult
    cases hresult

/-- **Errors of a delineation.** In a loaded session a delineation returns a result or an expected error:
no integrity error of the traversal or of the records, no failed refinement where none is required, and
no panic. -/
theorem delineate_errors (crates : EngineCrates Geometry) (hassembly : crates.assembly.Lawful)
    (engine : Engine) (h : engine.session.Loaded crates.hfx) (outlet : GeoCoord)
    (options : DelineationOptions) :
    (∃ result, (engine.delineate crates outlet options).run = .ok (.ok result)) ∨
    ∃ e, (engine.delineate crates outlet options).run = .ok (.error e) ∧
      Expected crates engine outlet options e := by
  rcases settles_delineate hassembly h with ⟨result, hrun, -⟩ | hfailed
  · exact Or.inl ⟨result, hrun⟩
  · exact Or.inr hfailed

/-! ### Triangles -/

/-- A double by its bits. -/
def doubleOfBits (bits : ℕ) : Double := ⟨2 ^ 63 ≤ bits, Fin.ofNat (2 ^ 63) bits⟩

/-- The decoder, for little-endian polygons. -/
def readDoubles (wkb : List UInt8) : Except String (GeoGeometry DoublePolygon) :=
  let coord (position : Wkb.Position) : DoubleCoord := ⟨doubleOfBits position.1, doubleOfBits position.2⟩
  match Wkb.readPolygon wkb with
  | some (exterior :: interiors, []) => .ok (.polygon ⟨exterior.map coord, interiors.map (·.map coord)⟩)
  | _ => .error "unexpected end of input"

/-- Twice the area between a side and a point, which is positive to the left of the side. -/
def leftOf (side : DoubleCoord × DoubleCoord) (point : GeoCoord) : ℚ :=
  let value := GeometryValidity.value
  (value side.2.x.toF64 - value side.1.x.toF64) * (value point.latValue - value side.1.y.toF64) -
    (value side.2.y.toF64 - value side.1.y.toF64) * (value point.lonValue - value side.1.x.toF64)

/-- The tests of convex counter-clockwise polygons without holes. -/
def convexGeo : PipGeo DoublePolygon where
  toGeo := readDoubles
  contains polygons point := polygons.any fun polygon =>
    (Lattice.segments polygon.exterior).all fun side => 0 < leftOf side point
  intersects polygons point := polygons.any fun polygon =>
    (Lattice.segments polygon.exterior).all fun side => 0 ≤ leftOf side point
  cos := trianglePipGeo.cos

def triangleWith (a b c : DoubleCoord) : DoublePolygon := ⟨[a, b, c, a], []⟩

def doubleTriangle : DoublePolygon := triangleWith (smallCoord 0 0) (smallCoord 1 0) (smallCoord 0 1)

/-- The bits of one half. -/
def halfBits : ℕ := 0x3FE0000000000000

/-- The bits of one. -/
def oneBits : ℕ := 0x3FF0000000000000

/-- The centre of the long side. -/
def middle : DoubleCoord := ⟨doubleOfBits halfBits, doubleOfBits halfBits⟩

/-- The half of the triangle beyond the long side that is cut off above the middle. -/
def carvedTriangle : DoublePolygon := triangleWith (smallCoord 1 0) (smallCoord 1 1) middle

/-- The triangle and what is carved of the other one, which share half of the long side. -/
def joinedTriangles : DoublePolygon :=
  ⟨[smallCoord 0 0, smallCoord 1 0, smallCoord 1 1, middle, smallCoord 0 1, smallCoord 0 0], []⟩

/-- The corners of the bounds. -/
def cornersOf (polygon : DoublePolygon) : Option (DoubleCoord × DoubleCoord) := do
  let lowest := minBy Double.totalCmp
  let highest := minBy fun a b => Double.totalCmp b a
  let xs := polygon.exterior.map (·.x)
  let ys := polygon.exterior.map (·.y)
  some (⟨← lowest xs, ← lowest ys⟩, ⟨← highest xs, ← highest ys⟩)

/-- Bounds, areas and unions of the triangles. -/
def triangleGeo : AssemblyGeo :=
  { squareGeo with
    reads := ⟨cornersOf, fun polygon =>
      doubleOfBits (if polygon = carvedTriangle then 0x3FD0000000000000 else halfBits)⟩
    union := fun first second =>
      if (first ++ second).Perm [doubleTriangle, carvedTriangle] then [joinedTriangles]
      else squareGeo.union first second }

theorem triangleGeo_lawful : triangleGeo.Lawful where
  predicates := squareGeo_lawful.predicates
  windingOrder_nil := rfl
  windingOrder_reverse := squareGeo_lawful.windingOrder_reverse
  closed_union := by
    intro first second polygon hpolygon
    dsimp only [triangleGeo] at hpolygon
    split_ifs at hpolygon
    · rw [List.mem_singleton.1 hpolygon]
      decide +kernel
    · exact squareGeo_lawful.closed_union first second polygon hpolygon

def triangleCrates : EngineCrates SnapGeometry where
  hfx := acceptingHfxUnit
  snapReader := pointReader
  snapGeo := pointGeo
  pipGeo := convexGeo
  text := ⟨fun _ => "", fun _ => "", fun _ => "", fun _ => ""⟩
  assembly := triangleGeo

/-- Two triangles, the unit 7 upstream of the unit 9. -/
def triangleSession : DatasetSession where
  manifest := {
    formatVersion := "0.3.0"
    fabricName := "triangles"
    crs := "EPSG:4326"
    topology := .tree
    bbox := ⟨0, 0, 1, 1⟩
    unitCount := 2
    createdAt := "2026-01-01T00:00:00Z"
    adapterVersion := "0.1.0"
    hasUpArea := false
    fabricVersion := none
    region := none
    auxiliary := [] }
  graph := ⟨[⟨9, 0, [7]⟩, ⟨7, 0, []⟩], by decide⟩
  catchments := triangleStore none
  snapStores := []
  aux := ⟨[], [], [], []⟩

theorem triangleSession_loaded : triangleSession.Loaded acceptingHfxUnit where
  opened := ⟨_, openObject_triangleFile none⟩
  indexed := triangleStore_indexesRows none
  bounded := triangleFile_statisticsBound none
  valid := triangleFile_valid none
  consistent := validateGraphCatchments_eq_ok_iff.1 ⟨_, rfl⟩

/-- No refinement strategy is called, and the repair backend finds nothing to repair. -/
def triangleEngine : Engine where
  session := triangleSession
  refinementStrategy := fun _ => .error .emptyContainedTerminalGeometry
  geometryRepair := squareOptions.geometryRepair

theorem repairCloses_of_geometryRepair {engine : Engine}
    (h : engine.geometryRepair = squareOptions.geometryRepair) (options : DelineationOptions) :
    (engine.buildAssemblyOptions options).RepairCloses := by
  intro repair hrepair geometry repaired hrepaired polygon hpolygon
  cases h.symm.trans hrepair
  cases hrepaired
  exact of_decide_eq_true (List.mem_filter.1 hpolygon).2

theorem exists_run_triangleEngine : ∃ result, (triangleEngine.delineate triangleCrates triangleOutlet
    .default).run = .ok (.ok result) := by
  have hdissolve : Pourpoint.dissolve triangleGeo.reads triangleGeo.union [[doubleTriangle]].flatten =
      .ok [doubleTriangle] := by
    have hreduce : deterministicReduce triangleGeo.union [[doubleTriangle]] = [doubleTriangle] := by
      rw [deterministicReduce]
      decide +kernel
    rw [Pourpoint.dissolve, if_neg (by decide), dissolveSpatialReduceStrategy, dissolveReduceStrategy]
    exact congrArg Except.ok hreduce
  have hsome : ((assembleFromGeometries triangleGeo (triangleEngine.buildAssemblyOptions .default)
      [[doubleTriangle]]).run.toOption.bind Except.toOption).isSome := by
    unfold assembleFromGeometries
    rw [hdissolve]
    decide +kernel
  obtain ⟨dissolved, hdissolved⟩ := Option.isSome_iff_exists.1 hsome
  obtain ⟨outcome, houtcome, hdissolved⟩ := Option.bind_eq_some_iff.1 hdissolved
  rw [toOption_eq_some_iff] at houtcome hdissolved
  subst hdissolved
  have hauthority : triangleEngine.resolveOutletAuthorityAtLevel triangleCrates triangleOutlet 0 .new =
      .ok (containmentResolution triangleOutlet 2 (triangleUnit 7 none) (some .lowestUnitId)) := by
    decide +kernel
  have hproduce : producePreMergeUnits acceptingHfxUnit readDoubles (triangleStore none)
      ⟨7, 0, ⟨[7], [7]⟩⟩ = .ok ⟨7, 0, [preMergeUnit 7 (triangleUnit 7 none) [doubleTriangle]]⟩ := rfl
  refine ⟨_, bind_run_eq_ok_iff.2 ⟨0, rfl, bind_run_eq_ok_iff.2
    ⟨_, mapError_run_eq_ok_iff.2 hauthority, bind_run_eq_ok_iff.2 ⟨⟨7, 0, ⟨[7], [7]⟩⟩, rfl,
      bind_run_eq_ok_iff.2 ⟨_, mapError_run_eq_ok_iff.2 hproduce, bind_run_eq_ok_iff.2 ⟨_, rfl,
        bind_run_eq_ok_iff.2 ⟨dissolved, ?_, rfl⟩⟩⟩⟩⟩⟩⟩
  exact bind_run_eq_ok_iff.2 ⟨_, rfl, mapFallibleError_run_eq_ok_iff.2 houtcome⟩

/-- A point beyond the long side of the triangles. -/
def outsideOutlet : GeoCoord := ⟨0x3FE8000000000000, 0x3FE8000000000000⟩

theorem delineate_errors_outside :
    (triangleEngine.delineate triangleCrates outsideOutlet .default).run =
        .ok (.error (.resolution outsideOutlet (.outsideAllCatchments outsideOutlet))) ∧
      Expected triangleCrates triangleEngine outsideOutlet .default
        (.resolution outsideOutlet (.outsideAllCatchments outsideOutlet)) := by
  have hauthority : triangleEngine.resolveOutletAuthorityAtLevel triangleCrates outsideOutlet 0 .new =
      .error (.outsideAllCatchments outsideOutlet) := by
    decide +kernel
  have hfailed : (triangleEngine.delineate triangleCrates outsideOutlet .default).run =
      .ok (.error (.resolution outsideOutlet (.outsideAllCatchments outsideOutlet))) := by
    have hlevel : (mapError id triangleEngine.selectLevel).run = .ok (.ok 0) := rfl
    have hresolution : (mapError (.resolution outsideOutlet)
        (triangleEngine.resolveOutletAuthorityAtLevel triangleCrates outsideOutlet 0 .new)).run =
        .ok (.error (DelineationError.resolution outsideOutlet (.outsideAllCatchments outsideOutlet))) := by
      rw [hauthority]
      rfl
    exact (bind_run_of_ok hlevel _).trans (bind_run_of_error hresolution _)
  refine ⟨hfailed, ?_⟩
  rcases delineate_errors triangleCrates triangleGeo_lawful triangleEngine triangleSession_loaded
    outsideOutlet .default with ⟨result, hrun⟩ | ⟨e, hrun, hexpected⟩
  · rw [hfailed] at hrun
    cases hrun
  · rw [hfailed] at hrun
    cases hrun
    exact hexpected

/-! ### A carved terminal -/

def beyondTriangle : DoublePolygon := triangleWith (smallCoord 1 0) (smallCoord 1 1) (smallCoord 0 1)

/-- The unit 9 is the triangle beyond the long side of the unit 7. -/
def beyondUnit : CatchmentUnit :=
  { triangleUnit 9 none with
    geometry := Wkb.writePolygon [[(oneBits, 0), (oneBits, oneBits), (0, oneBits), (oneBits, 0)]] }

def beyondRow : CatchmentRow
  | .geometry => some beyondUnit.geometry
  | column => triangleRow 9 none column

def beyondStore : CatchmentStore :=
  singleGroupStore (triangleFile none).columns [[triangleRow 7 none, beyondRow]]

/-- The unit 7 flows into the unit 9, and a D8 raster is declared. -/
def beyondSession : DatasetSession :=
  { triangleSession with
    manifest := { triangleSession.manifest with
      auxiliary := [(.d8RasterV2, [("flow_dir", "flow_dir.tif"), ("flow_acc", "flow_acc.tif")])] }
    catchments := beyondStore
    aux := oneD8Raster }

theorem beyondSession_loaded : beyondSession.Loaded acceptingHfxUnit where
  opened := ⟨_, rfl⟩
  indexed := singleGroupStore_indexesRows _ _
  bounded := singleGroupFile_statisticsBound _ _
  valid := by
    intro row hrow
    have hcases : row ∈ [triangleRow 7 none, beyondRow] := hrow
    simp only [List.mem_cons, List.not_mem_nil, or_false] at hcases
    rcases hcases with rfl | rfl
    · exact ⟨_, rfl⟩
    · exact ⟨_, rfl⟩
  consistent := validateGraphCatchments_eq_ok_iff.1 ⟨_, rfl⟩

def carvedProvenance : AppliedRefinementProvenance := ⟨.bestEffortD8IfPresent, .rasterOutletRanked 0⟩

/-- The strategy carves the unit 9. -/
def carvingEngine : Engine where
  session := beyondSession
  refinementStrategy input :=
    if input.terminalGeometry = [beyondTriangle] then
      .ok (.applied outsideOutlet ⟨[carvedTriangle], by decide⟩ carvedProvenance)
    else .error .emptyContainedTerminalGeometry
  geometryRepair := squareOptions.geometryRepair

theorem dissolve_carvedTriangle : Pourpoint.dissolve triangleGeo.reads triangleGeo.union
    [[doubleTriangle], [carvedTriangle]].flatten = .ok [joinedTriangles] := by
  have hoperands : operands triangleGeo.reads [doubleTriangle, carvedTriangle] =
      [doubleTriangle, carvedTriangle] := by
    decide +kernel
  have hreduce : deterministicReduce triangleGeo.union [[doubleTriangle], [carvedTriangle]] =
      [joinedTriangles] := by
    rw [deterministicReduce]
    decide +kernel
  rw [Pourpoint.dissolve, if_neg (by decide), dissolveSpatialReduceStrategy]
  show Except.ok (dissolveReduceStrategy _ (operands triangleGeo.reads [doubleTriangle, carvedTriangle])) = _
  rw [hoperands]
  exact congrArg Except.ok hreduce

theorem exists_assembled_carvedTriangle : ∃ dissolved, dissolved.geometry = [joinedTriangles] ∧
    (assembleFromGeometries triangleGeo (carvingEngine.buildAssemblyOptions .default)
      [[doubleTriangle], [carvedTriangle]]).run = .ok (.ok dissolved) := by
  have hgeometry : ((assembleFromGeometries triangleGeo (carvingEngine.buildAssemblyOptions .default)
      [[doubleTriangle], [carvedTriangle]]).run.toOption.bind Except.toOption).map (·.geometry) =
        some [joinedTriangles] := by
    unfold assembleFromGeometries
    rw [dissolve_carvedTriangle]
    decide +kernel
  obtain ⟨dissolved, hdissolved, hgeometry⟩ := Option.map_eq_some_iff.1 hgeometry
  obtain ⟨outcome, houtcome, hdissolved⟩ := Option.bind_eq_some_iff.1 hdissolved
  rw [toOption_eq_some_iff] at houtcome hdissolved
  subst hdissolved
  exact ⟨dissolved, hgeometry, houtcome⟩

/-- The outlet is in the unit 9, into which the unit 7 flows. -/
theorem exists_run_carvingEngine : ∃ result, result.upstreamUnitIds = [9, 7] ∧
    result.refinement = .applied outsideOutlet carvedProvenance ∧ result.geometry = [joinedTriangles] ∧
    (carvingEngine.delineate triangleCrates outsideOutlet .default).run = .ok (.ok result) := by
  obtain ⟨dissolved, hgeometry, hdissolved⟩ := exists_assembled_carvedTriangle
  have hauthority : carvingEngine.resolveOutletAuthorityAtLevel triangleCrates outsideOutlet 0 .new =
      .ok (.unitContainment 9 outsideOutlet ⟨2, none⟩) := by
    decide +kernel
  have hproduce : producePreMergeUnits acceptingHfxUnit readDoubles beyondStore ⟨9, 0, ⟨[9, 7], [7, 9]⟩⟩ =
      .ok ⟨9, 0, [preMergeUnit 9 beyondUnit [beyondTriangle],
        preMergeUnit 7 (triangleUnit 7 none) [doubleTriangle]]⟩ := rfl
  refine ⟨_, rfl, rfl, hgeometry, bind_run_eq_ok_iff.2 ⟨0, rfl, bind_run_eq_ok_iff.2
    ⟨_, mapError_run_eq_ok_iff.2 hauthority, bind_run_eq_ok_iff.2 ⟨⟨9, 0, ⟨[9, 7], [7, 9]⟩⟩, rfl,
      bind_run_eq_ok_iff.2 ⟨_, mapError_run_eq_ok_iff.2 hproduce,
        bind_run_eq_ok_iff.2 ⟨.applied outsideOutlet ⟨[carvedTriangle], by decide⟩ carvedProvenance, rfl,
        bind_run_eq_ok_iff.2 ⟨dissolved, ?_, rfl⟩⟩⟩⟩⟩⟩⟩
  exact bind_run_eq_ok_iff.2 ⟨_, rfl, mapFallibleError_run_eq_ok_iff.2 hdissolved⟩

/-- The terminal is refined, and its polygon is united with that of the unit above it. -/
theorem delineate_describes_carved : ∃ level authority records refinement geometries result,
    carvingEngine.Describes triangleCrates outsideOutlet .default level authority records refinement
      geometries result ∧ AssemblyResult.Sound triangleGeo ⟨result.geometry, result.areaKm2⟩ ∧
      result.upstreamUnitIds = [9, 7] ∧ result.refinement = .applied outsideOutlet carvedProvenance ∧
      result.geometry = [joinedTriangles] := by
  obtain ⟨result, hids, hrefinement, hgeometry, hrun⟩ := exists_run_carvingEngine
  obtain ⟨level, authority, records, refinement, geometries, hdescribes, hsound⟩ :=
    delineate_describes triangleCrates triangleGeo_lawful carvingEngine beyondSession_loaded
      outsideOutlet .default (repairCloses_of_geometryRepair rfl _) result hrun
  exact ⟨level, authority, records, refinement, geometries, result, hdescribes, hsound, hids,
    hrefinement, hgeometry⟩

end Engine

end Pourpoint
