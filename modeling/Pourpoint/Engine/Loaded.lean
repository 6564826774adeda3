import Pourpoint.Engine.Delineate
import Pourpoint.Library.Failure

/-!
# Sessions over validated data

The sessions that `DatasetSession::open` returns: their catchments are an opened file whose index,
statistics and rows are right, and graph and manifest agree with the rows. For these the outlet is resolved
to a unit of the selected level, the records of the units are found, and a geometry query fails only on a
geometry that does not decode.
-/

namespace Pourpoint

open Library

/-- The `(id, level)` rows that the validation reads. -/
def CatchmentFile.idLevels (hfx : HfxUnit) (file : CatchmentFile) : List CatchmentIdLevelRow :=
  (file.units hfx).map fun unit => ⟨unit.id, unit.level⟩

/-- What the delineation relies on: an opened store of valid rows, and a graph that agrees with it. -/
structure DatasetSession.Loaded (hfx : HfxUnit) (session : DatasetSession) : Prop where
  opened : ∃ idRowGroups, openObject hfx session.catchments.file idRowGroups = .ok session.catchments
  indexed : session.catchments.IndexesRows
  bounded : ∀ rowGroup ∈ session.catchments.file.rowGroups, rowGroup.StatisticsBound
  valid : session.catchments.file.Valid hfx
  consistent : Consistent session.manifest session.graph (session.catchments.file.idLevels hfx)

/-! ## Rows and units -/

section Units

variable {hfx : HfxUnit} {file : CatchmentFile}

theorem mem_units {unit : CatchmentUnit} :
    unit ∈ file.units hfx ↔ ∃ row ∈ file.rows, rowUnit hfx file.columns row = .ok unit := by
  simp only [CatchmentFile.units, List.mem_filterMap, rowUnit?_eq_some_iff]

theorem map_id_rows {rows : List CatchmentRow} {columns : List CatchmentColumn}
    (hvalid : ∀ row ∈ rows, ∃ unit, rowUnit hfx columns row = .ok unit) :
    rows.map (fun row => row .id) = (rows.filterMap (rowUnit? hfx columns)).map fun unit => some unit.id := by
  induction rows with
  | nil => rfl
  | cons row rows ih =>
    obtain ⟨unit, hunit⟩ := hvalid row List.mem_cons_self
    rw [List.map_cons, List.filterMap_cons_some (rowUnit?_eq_some_iff.2 hunit), List.map_cons,
      ih fun other hother => hvalid other (List.mem_cons_of_mem _ hother),
      (cell_eq_some (readFrom_of_rowUnit hunit).id).2]

/-- A stored geometry is that of the unit. -/
theorem stored_iff {Polygon : Type} {toGeo : List UInt8 → Except String (GeoGeometry Polygon)}
    (hvalid : file.Valid hfx) {id : UnitId} {geometry : List Polygon} :
    file.Stored toGeo id geometry ↔ ∃ unit ∈ file.units hfx, unit.id = id ∧
      decodeWkbMultiPolygonBytes toGeo unit.geometry = .ok geometry := by
  constructor
  · intro h
    obtain ⟨row, hrow, hid, wkb, hwkb, hdecode⟩ := h
    obtain ⟨unit, hunit⟩ := hvalid row hrow
    have hread := readFrom_of_rowUnit hunit
    rw [(cell_eq_some hread.geometry).2] at hwkb
    cases hwkb
    rw [(cell_eq_some hread.id).2] at hid
    exact ⟨unit, mem_units.2 ⟨row, hrow, hunit⟩, Option.some.inj hid, hdecode⟩
  · intro h
    obtain ⟨unit, hunit, rfl, hdecode⟩ := h
    obtain ⟨row, hrow, hread⟩ := mem_units.1 hunit
    have hcells := readFrom_of_rowUnit hread
    exact ⟨row, hrow, (cell_eq_some hcells.id).2, unit.geometry, (cell_eq_some hcells.geometry).2, hdecode⟩

end Units

namespace DatasetSession.Loaded

variable {hfx : HfxUnit} {session : DatasetSession}

theorem nodup_ids (h : session.Loaded hfx) :
    ((session.catchments.file.units hfx).map (·.id)).Nodup := by
  have hnodup := h.consistent.nodup
  rwa [CatchmentFile.idLevels, List.map_map] at hnodup

theorem nodup_rows (h : session.Loaded hfx) :
    (session.catchments.file.rows.map fun row => row .id).Nodup := by
  have hmap : ((session.catchments.file.units hfx).map fun unit => some unit.id).Nodup := by
    have := h.nodup_ids.map (Option.some_injective UnitId)
    rwa [List.map_map] at this
  rwa [map_id_rows h.valid]

theorem levelOf_unit (h : session.Loaded hfx) {unit : CatchmentUnit}
    (hunit : unit ∈ session.catchments.file.units hfx) :
    levelOf session.graph unit.id = some unit.level := by
  have hrow : (⟨unit.id, unit.level⟩ : CatchmentIdLevelRow) ∈ session.catchments.file.idLevels hfx :=
    List.mem_map.2 ⟨unit, hunit, rfl⟩
  obtain ⟨graphRow, hgraph, hid⟩ :=
    List.mem_map.1 ((h.consistent.ids unit.id).1 (List.mem_map.2 ⟨_, hrow, rfl⟩))
  have hlevel : unit.level = graphRow.level := h.consistent.levels graphRow hgraph _ hrow hid.symm
  rw [levelOf, ← hid, DrainageGraph.get_of_mem hgraph, hlevel]
  rfl

theorem exists_unit (h : session.Loaded hfx) {id : UnitId} (hid : id ∈ session.graph.ids) :
    ∃ unit ∈ session.catchments.file.units hfx, unit.id = id := by
  obtain ⟨row, hrow, rfl⟩ := List.mem_map.1 ((h.consistent.ids id).2 hid)
  obtain ⟨unit, hunit, rfl⟩ := List.mem_map.1 hrow
  exact ⟨unit, hunit, rfl⟩

end DatasetSession.Loaded

/-! ## Resolution -/

/-- A containment resolution is a candidate at the selected level. -/
theorem exists_passes_of_resolvePip {Polygon : Type} {geo : PipGeo Polygon} {outlet : GeoCoord}
    {selectedLevel : Option Level} {candidates : List CatchmentUnit} {resolution : OutletResolution}
    (h : resolvePip geo outlet selectedLevel candidates = .ok resolution) :
    ∃ winner test tieBreak, Passes geo outlet selectedLevel candidates test winner ∧
      resolution = containmentResolution outlet
        (decodedUnits geo selectedLevel candidates).length winner tieBreak := by
  cases hsorted : sortedHits geo outlet selectedLevel candidates with
  | nil =>
    obtain ⟨e, he⟩ := resolvePip_of_nil hsorted
    rw [he] at h
    cases h
  | cons winner rest =>
    rw [resolvePip_of_cons hsorted] at h
    cases h
    have hhit : IsHit geo outlet selectedLevel candidates winner :=
      mem_sortedHits.1 (hsorted ▸ List.mem_cons_self)
    rcases hhit with hpasses | ⟨-, hpasses⟩
    · exact ⟨winner, _, _, hpasses, rfl⟩
    · exact ⟨winner, _, _, hpasses, rfl⟩

section Resolve

variable {Geometry : Type} {crates : EngineCrates Geometry} {engine : Engine} {outlet : GeoCoord}
  {level : Level} {config : ResolverConfig} {authority : OutletResolution}

/-- **The resolved unit** is at the selected level, on either path, and the input is kept. -/
theorem Engine.level_of_resolveOutletAuthorityAtLevel (hloaded : engine.session.Loaded crates.hfx)
    (h : engine.resolveOutletAuthorityAtLevel crates outlet level config = .ok authority) :
    levelOf engine.session.graph authority.unitId = some level ∧ authority.inputCoord = outlet := by
  unfold Engine.resolveOutletAuthorityAtLevel at h
  cases hsnap : engine.session.snapForLevel level with
  | some snapStore =>
    simp only [hsnap] at h
    obtain ⟨bbox, targets, winner, -, -, -, hqualifies, rfl⟩ := qualifies_of_resolveViaSnapStore h
    exact ⟨hqualifies.level level rfl, rfl⟩
  | none =>
    simp only [hsnap] at h
    obtain ⟨bbox, -, h⟩ := bind_eq_ok_iff.1 h
    obtain ⟨candidates, hcandidates, h⟩ := bind_eq_ok_iff.1 h
    obtain ⟨winner, test, tieBreak, hpasses, rfl⟩ := exists_passes_of_resolvePip h
    obtain ⟨idRowGroups, hopen⟩ := hloaded.opened
    have hquery := mapError_eq_ok_iff.1 hcandidates
    rw [queryByBbox_eq_scan hopen hloaded.bounded hloaded.valid] at hquery
    cases hquery
    have hlevel := hloaded.levelOf_unit (List.mem_filter.1 hpasses.mem).1
    rw [hpasses.level level rfl] at hlevel
    exact ⟨hlevel, rfl⟩

end Resolve

/-! ## The finest level -/

namespace DatasetSession

theorem maxLevel_eq_some_iff {session : DatasetSession} {level : Level} :
    session.maxLevel = some level ↔
      IsGreatest {l | ∃ row ∈ session.graph.rows, row.level = l} level := by
  have hmem : ∀ l, (∃ row ∈ session.graph.rows, row.level = l) ↔
      l ∈ session.graph.rows.map (·.level) := fun l => List.mem_map.symm
  rw [maxLevel, List.max?_eq_some_iff]
  simp only [hmem]
  exact Iff.rfl

theorem maxLevel_eq_none_iff {session : DatasetSession} :
    session.maxLevel = none ↔ session.graph.rows = [] := by
  rw [maxLevel, List.max?_eq_none_iff, List.map_eq_nil_iff]

end DatasetSession

end Pourpoint
