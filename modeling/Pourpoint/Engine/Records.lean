import Pourpoint.Engine.Loaded

/-!
# The records of a loaded session

A geometry query over valid rows fails only on a requested geometry that does not decode. So in a loaded
session `produce_pre_merge_units` gives the record of every unit, or names a unit whose geometry does not
decode (`producePreMergeUnits_loaded`); and the dissolve rejects only a stored geometry without polygons.
-/

namespace Pourpoint

open Library

variable {Polygon : Type} {hfx : HfxUnit} {toGeo : List UInt8 → Except String (GeoGeometry Polygon)}

/-! ## Failing geometry queries -/

section Rows

variable {columns projected : List CatchmentColumn} {ids : List UnitId} {row : CatchmentRow}
  {unit : CatchmentUnit}

/-- A valid row fails only on its geometry. -/
theorem rowGeometry_eq_error (hunit : rowUnit hfx columns row = .ok unit) (hid : .id ∈ projected)
    (hgeometry : .geometry ∈ projected) {e : GeometryRowError}
    (h : rowGeometry hfx toGeo projected ids row = .error e) :
    unit.id ∈ ids ∧ ∃ source, decodeWkbMultiPolygonBytes toGeo unit.geometry = .error source ∧
      e = .decode unit.id source := by
  have hread := readFrom_of_rowUnit hunit
  have hidCell : row.cell projected .id = some unit.id := (if_pos hid).trans (cell_eq_some hread.id).2
  have hgeometryCell : row.cell projected .geometry = some unit.geometry :=
    (if_pos hgeometry).trans (cell_eq_some hread.geometry).2
  unfold rowGeometry at h
  rw [hidCell] at h
  rcases bind_eq_error_iff.1 h with h | ⟨id, hok, h⟩
  · cases h
  obtain rfl : unit.id = id := Except.ok.inj hok
  rcases bind_eq_error_iff.1 h with h | ⟨_, -, h⟩
  · rw [hread.checked] at h
    cases h
  by_cases hmem : unit.id ∈ ids
  · rw [if_neg (not_not.2 hmem), hgeometryCell] at h
    rcases bind_eq_error_iff.1 h with h | ⟨wkb, hok, h⟩
    · cases h
    obtain rfl : unit.geometry = wkb := Except.ok.inj hok
    rcases bind_eq_error_iff.1 h with h | ⟨geometry, -, h⟩
    · obtain ⟨source, hsource, rfl⟩ := mapError_eq_error_iff.1 h
      exact ⟨hmem, source, hsource, rfl⟩
    · cases h
  · rw [if_pos hmem] at h
    cases h

theorem exists_row_of_extract_eq_error (hid : .id ∈ projected) (hgeometry : .geometry ∈ projected)
    {batch : List CatchmentRow} {start : ℕ} {e : CatchmentGeometryQueryError}
    (h : extractDecodedGeometriesFromBatch hfx toGeo projected ids batch start = .error e) :
    ∃ row ∈ batch, ∃ index cause, rowGeometry hfx toGeo projected ids row = .error cause ∧
      cause.atRow index = e := by
  unfold extractDecodedGeometriesFromBatch at h
  simp only [failWhen, not_true_eq_false, if_false, hid, hgeometry] at h
  rcases bind_eq_error_iff.1 h with h | ⟨_, -, h⟩
  · cases h
  rcases bind_eq_error_iff.1 h with h | ⟨_, -, h⟩
  · cases h
  rcases bind_eq_error_iff.1 h with h | ⟨rows, -, h⟩
  · obtain ⟨indexed, hmem, hfail⟩ := exists_of_mapM_eq_error h
    obtain ⟨cause, hcause, heq⟩ := mapError_eq_error_iff.1 hfail
    have hrow : indexed.1 ∈ (batch.zipIdx start).map Prod.fst := List.mem_map_of_mem hmem
    rw [List.zipIdx_map_fst] at hrow
    exact ⟨indexed.1, hrow, indexed.2, cause, hcause, heq⟩
  · cases h

/-- A batch that fails. -/
theorem exists_batch_of_readBatches_eq_error {ε β : Type}
    {extract : List CatchmentRow → ℕ → Except ε (List β)} {batches : List (List CatchmentRow)}
    {start : ℕ} {e : ε} (h : readBatches extract batches start = .error e) :
    ∃ batch ∈ batches, ∃ index, extract batch index = .error e := by
  induction batches generalizing start with
  | nil => cases h
  | cons batch batches ih =>
    rw [readBatches] at h
    rcases bind_eq_error_iff.1 h with h | ⟨found, -, h⟩
    · exact ⟨batch, List.mem_cons_self, start, h⟩
    rcases bind_eq_error_iff.1 h with h | ⟨rest, -, h⟩
    · obtain ⟨other, hother, hfail⟩ := ih h
      exact ⟨other, List.mem_cons_of_mem _ hother, hfail⟩
    · cases h

end Rows

section Query

variable {store : CatchmentStore} {ids : List UnitId}

/-- **A geometry query fails on a geometry.** The error names a requested unit whose geometry does not
decode. -/
theorem queryGeometriesByIds_eq_error
    (hopen : ∃ idRowGroups, openObject hfx store.file idRowGroups = .ok store)
    (hvalid : store.file.Valid hfx) {e : CatchmentGeometryQueryError}
    (h : store.queryGeometriesByIds hfx toGeo ids = .error e) :
    ∃ unit ∈ store.file.units hfx, unit.id ∈ ids ∧ ∃ source,
      decodeWkbMultiPolygonBytes toGeo unit.geometry = .error source ∧ e = .decode unit.id source := by
  obtain ⟨idRowGroups, hopen⟩ := hopen
  have hrequired := (openObject_eq_ok hopen).1
  obtain ⟨hidColumn, hgeometryColumn⟩ := CatchmentStore.mem_geometryProjection hrequired
  unfold CatchmentStore.queryGeometriesByIds at h
  dsimp only at h
  split_ifs at h
  rw [geometryProjectionIndices_eq_ok hrequired] at h
  rcases bind_eq_error_iff.1 h with h | ⟨indices, hindices, h⟩
  · cases h
  cases hindices
  rcases bind_eq_error_iff.1 h with h | ⟨results, -, h⟩
  · obtain ⟨start, hstart, h⟩ := exists_of_mapM_eq_error h
    have hselected : start.1 ∈ store.selectedRowGroupsForIds ids := (List.of_mem_zip hstart).1
    have hlt : start.1 < store.file.rowGroups.length :=
      CatchmentStore.lt_of_mem_idRowGroups (mem_sortDedup.1 hselected)
    rw [readRowGroup, List.getElem?_eq_getElem hlt] at h
    obtain ⟨batch, hbatch, index, h⟩ := exists_batch_of_readBatches_eq_error h
    obtain ⟨row, hrow, index, cause, hcause, rfl⟩ := exists_row_of_extract_eq_error
      hidColumn hgeometryColumn h
    have hfile : row ∈ store.file.rows := List.mem_flatMap.2
      ⟨_, List.getElem_mem hlt, List.mem_flatten.2 ⟨batch, hbatch, hrow⟩⟩
    obtain ⟨unit, hunit⟩ := hvalid row hfile
    obtain ⟨hmem, source, hsource, rfl⟩ := rowGeometry_eq_error hunit
      hidColumn hgeometryColumn hcause
    exact ⟨unit, mem_units.2 ⟨row, hfile, hunit⟩, hmem, source, hsource, rfl⟩
  · cases h

/-- When the query returns, the requested geometries decode. -/
theorem decodes_of_queryGeometriesByIds
    (hopen : ∃ idRowGroups, openObject hfx store.file idRowGroups = .ok store)
    (hindex : store.IndexesRows) {fetched : List (DecodedCatchmentGeometryRow Polygon)}
    (h : store.queryGeometriesByIds hfx toGeo ids = .ok fetched) {unit : CatchmentUnit}
    (hunit : unit ∈ store.file.units hfx) (hid : unit.id ∈ ids) :
    ∃ geometry, decodeWkbMultiPolygonBytes toGeo unit.geometry = .ok geometry := by
  obtain ⟨idRowGroups, hopen⟩ := hopen
  obtain ⟨row, hrow, hrowUnit⟩ := mem_units.1 hunit
  have hread := readFrom_of_rowUnit hrowUnit
  have hselected := mem_rowsForIds hindex hrow (cell_eq_some hread.id).2 hid
  obtain ⟨found, hfound⟩ := ((queryGeometriesByIds_eq_ok_iff hopen).1 h).1 row hselected
  obtain ⟨id, hcell, -, hrest⟩ := rowGeometry_eq_ok_iff.1 hfound
  have hsame := (cell_eq_some hcell).2
  rw [(cell_eq_some hread.id).2] at hsame
  obtain rfl := Option.some.inj hsame
  rw [if_pos hid] at hrest
  obtain ⟨wkb, hwkb, geometry, hdecode, -⟩ := hrest
  have hgeometry := (cell_eq_some hwkb).2
  rw [(cell_eq_some hread.geometry).2] at hgeometry
  obtain rfl := Option.some.inj hgeometry
  exact ⟨geometry, hdecode⟩

end Query

/-! ## Records -/

/-- The record of a unit of the file at a level. -/
def IsRecord (hfx : HfxUnit) (toGeo : List UInt8 → Except String (GeoGeometry Polygon))
    (file : CatchmentFile) (level : Level) (id : UnitId) (record : PreMergeDrainageUnit Polygon) : Prop :=
  ∃ unit ∈ file.units hfx, unit.id = id ∧ unit.level = level ∧ ∃ geometry,
    decodeWkbMultiPolygonBytes toGeo unit.geometry = .ok geometry ∧
    record = preMergeUnit id unit geometry

variable {session : DatasetSession} {upstream : SameLevelUpstreamUnits}

theorem DatasetSession.Loaded.metadataById_unit (h : session.Loaded hfx) {ids : List UnitId}
    {metadata : List CatchmentUnit} (hmetadata : session.catchments.queryByIds hfx ids = .ok metadata)
    {unit : CatchmentUnit} (hunit : unit ∈ session.catchments.file.units hfx) (hid : unit.id ∈ ids) :
    metadataById metadata unit.id = some unit.withoutLabels := by
  obtain ⟨idRowGroups, hopen⟩ := h.opened
  refine (metadataById_eq_some_iff hopen h.indexed h.nodup_rows hmetadata).2 ⟨?_, rfl⟩
  rw [queryByIds_eq_scan hopen h.indexed h.valid] at hmetadata
  cases hmetadata
  exact List.mem_map.2 ⟨unit, List.mem_filter.2 ⟨hunit, decide_eq_true hid⟩, rfl⟩

/-- **Records of a loaded session.** Every unit of a traversal at its level has its record, unless a
geometry does not decode. -/
theorem producePreMergeUnits_loaded (h : session.Loaded hfx) (hnodup : upstream.upstream.units.Nodup)
    (hlevels : ∀ id ∈ upstream.upstream.units,
      levelOf session.graph id = some upstream.selectedLevel) :
    (∃ records, producePreMergeUnits hfx toGeo session.catchments upstream =
        .ok ⟨upstream.terminal, upstream.selectedLevel, records⟩ ∧
      List.Forall₂ (IsRecord hfx toGeo session.catchments.file upstream.selectedLevel)
        upstream.upstream.units records) ∨
    ∃ unit ∈ session.catchments.file.units hfx, unit.id ∈ upstream.upstream.units ∧ ∃ source,
      decodeWkbMultiPolygonBytes toGeo unit.geometry = .error source ∧
      producePreMergeUnits hfx toGeo session.catchments upstream =
        .error (.preMergeCatchmentDecode unit.id source) := by
  obtain ⟨idRowGroups, hopen⟩ := h.opened
  have hmetadata := queryByIds_eq_scan hopen h.indexed h.valid upstream.upstream.units
  unfold producePreMergeUnits
  cases hgeometries : session.catchments.queryGeometriesByIds hfx toGeo upstream.upstream.units with
  | error e =>
    obtain ⟨unit, hunit, hid, source, hsource, rfl⟩ :=
      queryGeometriesByIds_eq_error h.opened h.valid hgeometries
    refine Or.inr ⟨unit, hunit, hid, source, hsource, ?_⟩
    simp only [hmetadata, hgeometries]
    rfl
  | ok fetched =>
    have hlookup : ∀ id ∈ upstream.upstream.units, ∃ record, ∃ m,
        metadataById (((session.catchments.file.units hfx).filter
          (·.id ∈ upstream.upstream.units)).map CatchmentUnit.withoutLabels) id = some m ∧
        m.level = upstream.selectedLevel ∧
        ∃ g, geometryById fetched id = some g ∧ record = preMergeUnit id m g := by
      intro id hid
      have hlevel := hlevels id hid
      obtain ⟨graphRow, hrow, -⟩ := Option.map_eq_some_iff.1 hlevel
      have hgraph : id ∈ session.graph.ids := by
        by_contra habsent
        rw [DrainageGraph.get_eq_none_iff.2 habsent] at hrow
        cases hrow
      obtain ⟨unit, hunit, rfl⟩ := h.exists_unit hgraph
      rw [h.levelOf_unit hunit] at hlevel
      obtain ⟨geometry, hdecode⟩ := decodes_of_queryGeometriesByIds h.opened h.indexed hgeometries hunit hid
      exact ⟨_, _, h.metadataById_unit hmetadata hunit hid, Option.some.inj hlevel, geometry,
        (geometryById_eq_some_iff hopen h.indexed h.nodup_rows hgeometries).2
          ⟨hid, (stored_iff h.valid).2 ⟨unit, hunit, rfl, hdecode⟩⟩, rfl⟩
    obtain ⟨records, hrecords⟩ := exists_forall₂ hlookup
    refine Or.inl ⟨records, ?_, ?_⟩
    · have hcollect : collectPreMergeUnits upstream.upstream.units.length upstream.selectedLevel
          (metadataById (((session.catchments.file.units hfx).filter
            (·.id ∈ upstream.upstream.units)).map CatchmentUnit.withoutLabels))
          upstream.upstream.units (geometryById fetched) = .ok records :=
        (collectPreMergeUnits_eq_ok_iff hnodup).2 hrecords
      simp only [hmetadata, hgeometries]
      exact bind_eq_ok_iff.2 ⟨_, rfl, bind_eq_ok_iff.2 ⟨fetched, rfl,
        bind_eq_ok_iff.2 ⟨records, hcollect, rfl⟩⟩⟩
    · refine hrecords.imp ?_
      intro id record hrecord
      obtain ⟨m, hm, hlevel, geometry, hgeometry, rfl⟩ := hrecord
      obtain ⟨hmem, rfl⟩ :=
        (metadataById_eq_some_iff hopen h.indexed h.nodup_rows hmetadata).1 hm
      obtain ⟨unit, hunit, rfl⟩ := List.mem_map.1 hmem
      obtain ⟨-, hstored⟩ := (geometryById_eq_some_iff hopen h.indexed h.nodup_rows hgeometries).1 hgeometry
      obtain ⟨other, hother, hsame, hdecode⟩ := (stored_iff h.valid).1 hstored
      obtain rfl := List.inj_on_of_nodup_map h.nodup_ids hother (List.mem_filter.1 hunit).1 hsame
      exact ⟨other, hother, rfl, hlevel, geometry, hdecode, rfl⟩

end Pourpoint
