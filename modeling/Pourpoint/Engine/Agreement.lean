import Pourpoint.Engine.Assembly

/-!
# Staged delineation equals one-shot assembly

`stagedGeometries` is `produce_pre_merge_units` followed by `dissolve_watershed`. Its success and its
result are described in the terms of the one-shot path (`stagedGeometries_eq_ok_iff`), and the two
descriptions are compared (`staged_assembled_agree`).
-/

namespace Pourpoint

open Library

variable {Polygon : Type}

/-! ## Records -/

section Collect

variable {unitCount : ℕ} {selectedLevel : Level} {metadata : UnitId → Option CatchmentUnit}
  {ids : List UnitId} {geometry : UnitId → Option (List Polygon)}

/-- The record of a unit. -/
def preMergeUnit (id : UnitId) (unit : CatchmentUnit) (geometry : List Polygon) :
    PreMergeDrainageUnit Polygon :=
  ⟨id, unit.level, unit.area, unit.upstreamArea, unit.outlet, geometry⟩

theorem found_eq_ok {ε α : Type} {error : ε} {o : Option α} {a : α} :
    found error o = .ok a ↔ o = some a := by
  cases o with
  | none => simp [found]
  | some b => simp [found]

/-- Only the geometries of the listed units are looked up. -/
theorem collectPreMergeUnits_congr {geometry' : UnitId → Option (List Polygon)}
    (h : ∀ id ∈ ids, geometry id = geometry' id) :
    collectPreMergeUnits unitCount selectedLevel metadata ids geometry =
      collectPreMergeUnits unitCount selectedLevel metadata ids geometry' := by
  induction ids generalizing geometry geometry' with
  | nil => rfl
  | cons id ids ih =>
    have hrest : ∀ other ∈ ids, Function.update geometry id none other =
        Function.update geometry' id none other := by
      intro other hother
      by_cases heq : other = id
      · rw [heq, Function.update_self, Function.update_self]
      · rw [Function.update_of_ne heq, Function.update_of_ne heq]
        exact h other (List.mem_cons_of_mem _ hother)
    simp only [collectPreMergeUnits]
    rw [h id List.mem_cons_self, ih hrest]

theorem collectPreMergeUnits_eq_ok_iff (hnodup : ids.Nodup)
    {units : List (PreMergeDrainageUnit Polygon)} :
    collectPreMergeUnits unitCount selectedLevel metadata ids geometry = .ok units ↔
      List.Forall₂ (fun id unit => ∃ m, metadata id = some m ∧ m.level = selectedLevel ∧
        ∃ g, geometry id = some g ∧ unit = preMergeUnit id m g) ids units := by
  induction ids generalizing units with
  | nil =>
    rw [collectPreMergeUnits, List.forall₂_nil_left_iff]
    simp [eq_comm]
  | cons id ids ih =>
    obtain ⟨hid, hrest⟩ := List.nodup_cons.1 hnodup
    have htail : collectPreMergeUnits unitCount selectedLevel metadata ids
        (Function.update geometry id none) =
        collectPreMergeUnits unitCount selectedLevel metadata ids geometry := by
      refine collectPreMergeUnits_congr ?_
      intro other hother
      exact Function.update_of_ne (ne_of_mem_of_not_mem hother hid) _ _
    rw [collectPreMergeUnits, htail, List.forall₂_cons_left_iff]
    constructor
    · intro h
      obtain ⟨m, hm, h⟩ := bind_eq_ok_iff.1 h
      by_cases hlevel : m.level = selectedLevel
      · rw [if_neg (not_not.2 hlevel)] at h
        obtain ⟨g, hg, h⟩ := bind_eq_ok_iff.1 h
        obtain ⟨rest, hcollected, h⟩ := bind_eq_ok_iff.1 h
        cases h
        exact ⟨_, rest, ⟨m, found_eq_ok.1 hm, hlevel, g, found_eq_ok.1 hg, rfl⟩, (ih hrest).1 hcollected,
          rfl⟩
      · rw [if_pos hlevel] at h
        cases h
    · intro h
      obtain ⟨unit, rest, ⟨m, hm, hlevel, g, hg, rfl⟩, hforall, rfl⟩ := h
      refine bind_eq_ok_iff.2 ⟨m, found_eq_ok.2 hm, ?_⟩
      rw [if_neg (not_not.2 hlevel)]
      refine bind_eq_ok_iff.2 ⟨g, found_eq_ok.2 hg, ?_⟩
      exact bind_eq_ok_iff.2 ⟨rest, (ih hrest).2 hforall, rfl⟩

theorem ids_of_collectPreMergeUnits (hnodup : ids.Nodup) {units : List (PreMergeDrainageUnit Polygon)}
    (h : collectPreMergeUnits unitCount selectedLevel metadata ids geometry = .ok units) :
    units.map (·.id) = ids := by
  have hmap : List.Forall₂ (fun id other => other = id) ids (units.map (·.id)) := by
    rw [List.forall₂_map_right_iff]
    refine ((collectPreMergeUnits_eq_ok_iff hnodup).1 h).imp ?_
    intro id unit h
    obtain ⟨m, -, -, g, -, rfl⟩ := h
    rfl
  have hflip : List.Forall₂ Eq (units.map (·.id)) ids := hmap.flip
  rwa [List.forall₂_eq_eq_eq] at hflip

end Collect

/-! ## The map of the dissolve -/

section Dissolve

variable {units : PreMergeDrainageUnits Polygon} {refined : Option (List Polygon)}

/-- The entries that the loop of the dissolve inserts. -/
def keptEntries (units : PreMergeDrainageUnits Polygon) (refined : Option (List Polygon)) :
    List (UnitId × List Polygon) :=
  (units.units.filter fun unit => ¬(unit.id = units.terminal ∧ refined.isSome)).map fun unit =>
    (unit.id, unit.geometry)

theorem mem_keptEntries {entry : UnitId × List Polygon} :
    entry ∈ keptEntries units refined ↔ ¬(refined.isSome ∧ entry.1 = units.terminal) ∧
      ∃ unit ∈ units.units, entry = (unit.id, unit.geometry) := by
  unfold keptEntries
  simp only [List.mem_map, List.mem_filter, decide_eq_true_iff]
  constructor
  · intro h
    obtain ⟨unit, ⟨hunit, hkept⟩, rfl⟩ := h
    exact ⟨fun h => hkept ⟨h.2, h.1⟩, unit, hunit, rfl⟩
  · intro h
    obtain ⟨hkept, unit, hunit, rfl⟩ := h
    exact ⟨unit, ⟨hunit, fun h => hkept ⟨h.2, h.1⟩⟩, rfl⟩

theorem foldl_eq_foldl_keptEntries :
    (units.units.foldl (fun map unit =>
      if unit.id = units.terminal ∧ refined.isSome then map else map.insert unit.id unit.geometry)
      SortedMap.empty) =
      (keptEntries units refined).foldl (fun m e => m.insert e.1 e.2) .empty := by
  rw [keptEntries, List.foldl_map, List.foldl_filter]
  congr 1
  funext map unit
  by_cases hskip : unit.id = units.terminal ∧ refined.isSome
  · simp [hskip]
  · simp [hskip]

/-- The map that the dissolve iterates. -/
theorem mem_geometriesById (hnodup : (units.units.map (·.id)).Nodup) {entry : UnitId × List Polygon} :
    entry ∈ (geometriesById units refined).entries ↔
      if refined.isSome ∧ entry.1 = units.terminal then refined = some entry.2
      else ∃ unit ∈ units.units, entry = (unit.id, unit.geometry) := by
  have hkeys : ((keptEntries units refined).map (·.1)).Nodup := by
    rw [keptEntries, List.map_map]
    exact (List.filter_sublist.map _).nodup hnodup
  have hloop : ∀ entry, entry ∈ ((keptEntries units refined).foldl
      (fun m e => m.insert e.1 e.2) SortedMap.empty).entries ↔ entry ∈ keptEntries units refined := by
    intro entry
    rw [SortedMap.mem_foldl_insert hkeys]
    simp [SortedMap.empty]
  simp only [geometriesById, foldl_eq_foldl_keptEntries]
  cases refined with
  | none =>
    rw [hloop, mem_keptEntries]
    simp
  | some geometry =>
    rw [SortedMap.mem_insert_iff, hloop, mem_keptEntries]
    obtain ⟨id, value⟩ := entry
    by_cases hid : id = units.terminal
    · simp [hid, eq_comm]
    · simp [hid]

end Dissolve

/-! ## The staged path -/

/-- The outcome of the refinement stage for an optional geometry. -/
def refinementOf (refinedOutlet : GeoCoord) (provenance : AppliedRefinementProvenance) :
    Option (List Polygon) → Except EngineError (TerminalRefinement Polygon)
  | none => .ok .disabled
  | some geometry => do
    let contained ← (ContainedTerminalPolygon.new geometry).mapError TerminalRefinementError.toEngine
    .ok (.applied refinedOutlet contained provenance)

/-- `produce_pre_merge_units` followed by `dissolve_watershed`. -/
def stagedGeometries (hfx : HfxUnit) (toGeo : List UInt8 → Except String (GeoGeometry Polygon))
    (store : CatchmentStore) (upstream : SameLevelUpstreamUnits) (refinedOutlet : GeoCoord)
    (provenance : AppliedRefinementProvenance) (refined : Option (List Polygon)) :
    Except EngineError (List (List Polygon)) := do
  let units ← producePreMergeUnits hfx toGeo store upstream
  let refinement ← refinementOf refinedOutlet provenance refined
  dissolveWatershed units refinement

section Lookup

/-- A lookup where a key has one value. -/
theorem find?_reverse_eq_some_iff {α κ : Type} [DecidableEq κ] {key : α → κ} {l : List α}
    (hfun : ∀ a ∈ l, ∀ b ∈ l, key a = key b → a = b) {k : κ} {a : α} :
    l.reverse.find? (fun a => key a = k) = some a ↔ a ∈ l ∧ key a = k := by
  constructor
  · intro h
    exact ⟨List.mem_reverse.1 (List.mem_of_find?_eq_some h), by simpa using List.find?_some h⟩
  · intro h
    cases hfind : l.reverse.find? (fun a => key a = k) with
    | none =>
      rw [List.find?_eq_none] at hfind
      exact absurd (decide_eq_true h.2) (hfind a (List.mem_reverse.2 h.1))
    | some b =>
      have hb := List.mem_reverse.1 (List.mem_of_find?_eq_some hfind)
      have hkey : key b = k := by simpa using List.find?_some hfind
      rw [hfun b hb a h.1 (hkey.trans h.2.symm)]

end Lookup

section Staged

variable {hfx : HfxUnit} {toGeo : List UInt8 → Except String (GeoGeometry Polygon)}
  {file : CatchmentFile} {idRowGroups : UnitId → Option (Fin file.rowGroups.length)}
  {store : CatchmentStore}

/-- What `query_by_ids` returns, and that it fails on an invalid row of the groups that it reads. -/
theorem mem_queryByIds_iff (hopen : openObject hfx file idRowGroups = .ok store)
    (hindex : store.IndexesRows) {ids : List UnitId} {metadata : List CatchmentUnit}
    (h : store.queryByIds hfx ids = .ok metadata) :
    (∀ row ∈ store.rowsForIds ids, ∃ unit, rowUnit hfx store.fullProjection row = .ok unit) ∧
      ∀ unit, unit ∈ metadata ↔ unit.id ∈ ids ∧
        ∃ row ∈ file.rows, rowUnit hfx store.fullProjection row = .ok unit := by
  obtain rfl := file_of_openObject hopen
  rw [← toOption_eq_some_iff, CatchmentStore.toOption_queryByIds (openObject_eq_ok hopen).1,
    mapM_map_flatten_eq_some_iff] at h
  obtain ⟨hvalid, rfl⟩ := h
  refine ⟨fun row hrow => isSome_keptUnit_iff.1 (hvalid row hrow), fun unit => ?_⟩
  rw [flatMap_keptUnit, List.mem_filter, List.mem_filterMap, decide_eq_true_iff, and_comm]
  refine and_congr_right fun hid => ?_
  constructor
  · intro h
    obtain ⟨row, hrow, hunit⟩ := h
    exact ⟨row, mem_fileRows_of_mem_selected hrow, rowUnit?_eq_some_iff.1 hunit⟩
  · intro h
    obtain ⟨row, hrow, hunit⟩ := h
    have hcell := (cell_eq_some (readFrom_of_rowUnit hunit).id).2
    exact ⟨row, mem_rowsForIds hindex hrow hcell hid, rowUnit?_eq_some_iff.2 hunit⟩

theorem metadataById_eq_some_iff (hopen : openObject hfx file idRowGroups = .ok store)
    (hindex : store.IndexesRows) (hunique : (file.rows.map fun row => row .id).Nodup)
    {ids : List UnitId} {metadata : List CatchmentUnit}
    (h : store.queryByIds hfx ids = .ok metadata) {id : UnitId} {unit : CatchmentUnit} :
    metadataById metadata id = some unit ↔ unit ∈ metadata ∧ unit.id = id := by
  refine find?_reverse_eq_some_iff ?_
  intro a ha b hb hid
  obtain ⟨-, hmem⟩ := mem_queryByIds_iff hopen hindex h
  obtain ⟨-, rowa, hrowa, hunita⟩ := (hmem a).1 ha
  obtain ⟨-, rowb, hrowb, hunitb⟩ := (hmem b).1 hb
  have hcella := (cell_eq_some (readFrom_of_rowUnit hunita).id).2
  have hcellb := (cell_eq_some (readFrom_of_rowUnit hunitb).id).2
  obtain rfl := List.inj_on_of_nodup_map hunique hrowa hrowb
    (hcella.trans (hid ▸ hcellb.symm))
  exact Except.ok.inj (hunita.symm.trans hunitb)

theorem geometryById_eq_some_iff (hopen : openObject hfx file idRowGroups = .ok store)
    (hindex : store.IndexesRows) (hunique : (file.rows.map fun row => row .id).Nodup)
    {ids : List UnitId} {fetched : List (DecodedCatchmentGeometryRow Polygon)}
    (h : store.queryGeometriesByIds hfx toGeo ids = .ok fetched) {id : UnitId}
    {geometry : List Polygon} :
    geometryById fetched id = some geometry ↔ id ∈ ids ∧ file.Stored toGeo id geometry := by
  obtain ⟨hnodup, hmem⟩ := mem_queryGeometriesByIds_iff hopen hindex hunique h
  have hfind : ∀ row, fetched.reverse.find? (·.id = id) = some row ↔ row ∈ fetched ∧ row.id = id :=
    fun row => find?_reverse_eq_some_iff fun a ha b hb hid => List.inj_on_of_nodup_map hnodup ha hb hid
  rw [geometryById, Option.map_eq_some_iff]
  constructor
  · intro h
    obtain ⟨row, hrow, rfl⟩ := h
    obtain ⟨hfetched, rfl⟩ := (hfind row).1 hrow
    exact (hmem row).1 hfetched
  · intro h
    exact ⟨⟨id, geometry⟩, (hfind _).2 ⟨(hmem ⟨id, geometry⟩).2 h, rfl⟩, rfl⟩

variable {upstream : SameLevelUpstreamUnits} {refined : Option (List Polygon)}

theorem exists_geometryOf {id : UnitId} (h : ∃ geometry, file.Stored toGeo id geometry)
    (terminal : UnitId) (refined : Option (List Polygon)) :
    ∃ geometry, GeometryOf file toGeo terminal refined id geometry := by
  obtain ⟨geometry, hstored⟩ := h
  unfold GeometryOf
  by_cases hrefined : refined.isSome ∧ id = terminal
  · obtain ⟨replaced, hreplaced⟩ := Option.isSome_iff_exists.1 hrefined.1
    exact ⟨replaced, by rw [if_pos hrefined]; exact ⟨hreplaced, hstored.has⟩⟩
  · exact ⟨geometry, by rw [if_neg hrefined]; exact hstored⟩

/-- The map that is dissolved from the records has exactly the geometries of the units. -/
theorem mem_geometriesById_records (hopen : openObject hfx file idRowGroups = .ok store)
    (hindex : store.IndexesRows) (hunique : (file.rows.map fun row => row .id).Nodup)
    (hnodup : upstream.upstream.units.Nodup) {metadata : List CatchmentUnit}
    {fetched : List (DecodedCatchmentGeometryRow Polygon)}
    (hfetched : store.queryGeometriesByIds hfx toGeo upstream.upstream.units = .ok fetched)
    {units : List (PreMergeDrainageUnit Polygon)}
    (hunits : collectPreMergeUnits upstream.upstream.units.length upstream.selectedLevel
      (metadataById metadata) upstream.upstream.units (geometryById fetched) = .ok units)
    (hterminal : upstream.terminal ∈ upstream.upstream.units) (refined : Option (List Polygon))
    (entry : UnitId × List Polygon) :
    entry ∈ (geometriesById ⟨upstream.terminal, upstream.selectedLevel, units⟩ refined).entries ↔
      entry.1 ∈ upstream.upstream.units ∧
        GeometryOf file toGeo upstream.terminal refined entry.1 entry.2 := by
  have hforall := (collectPreMergeUnits_eq_ok_iff hnodup).1 hunits
  have hids := ids_of_collectPreMergeUnits hnodup hunits
  -- Each unit has a record, at its stored geometry.
  have hrecord : ∀ id ∈ upstream.upstream.units, ∃ unit ∈ units, unit.id = id ∧ file.Has id ∧
      file.Stored toGeo id unit.geometry := by
    intro id hid
    obtain ⟨unit, hunit, m, -, -, g, hg, rfl⟩ := exists_of_forall₂ hforall hid
    obtain ⟨-, hstored⟩ := (geometryById_eq_some_iff hopen hindex hunique hfetched).1 hg
    exact ⟨_, hunit, rfl, hstored.has, hstored⟩
  rw [mem_geometriesById (by rw [hids]; exact hnodup), GeometryOf]
  obtain ⟨id, geometry⟩ := entry
  by_cases hrefined : refined.isSome ∧ id = upstream.terminal
  · obtain ⟨-, -, -, hhas, -⟩ := hrecord upstream.terminal hterminal
    rw [if_pos hrefined, if_pos hrefined, hrefined.2]
    simp [hterminal, hhas]
  · rw [if_neg hrefined, if_neg hrefined]
    constructor
    · intro h
      obtain ⟨unit, hunit, heq⟩ := h
      cases heq
      have hid : unit.id ∈ upstream.upstream.units := hids ▸ List.mem_map_of_mem hunit
      obtain ⟨other, hother, hsame, -, hstored⟩ := hrecord unit.id hid
      have hnodup' : (units.map (·.id)).Nodup := hids ▸ hnodup
      obtain rfl := List.inj_on_of_nodup_map hnodup' hother hunit hsame
      exact ⟨hid, hstored⟩
    · intro h
      obtain ⟨unit, hunit, rfl, -, hstored⟩ := hrecord id h.1
      exact ⟨unit, hunit, congrArg _ (h.2.unique hunique hstored)⟩

/-- An applied refinement is dissolved as the optional geometry. An empty one is rejected on either
way: it cannot be applied. -/
theorem exists_refinementOf_iff {units : PreMergeDrainageUnits Polygon}
    (hnodup : (units.units.map (·.id)).Nodup) {refinedOutlet : GeoCoord}
    {provenance : AppliedRefinementProvenance} {geometries : List (List Polygon)} :
    (∃ refinement, refinementOf refinedOutlet provenance refined = .ok refinement ∧
      dissolveWatershed units refinement = .ok geometries) ↔
      (∀ entry ∈ (geometriesById units refined).entries, entry.2 ≠ []) ∧
        geometries = (geometriesById units refined).entries.map (·.2) := by
  rw [← nonEmptyGeometries_eq_ok_iff units.terminal refined.isSome]
  cases refined with
  | none =>
    have hrefinement : refinementOf refinedOutlet provenance (none : Option (List Polygon)) =
        .ok .disabled := rfl
    rw [hrefinement]
    simp only [Except.ok.injEq, exists_eq_left']
    exact mapError_eq_ok_iff
  | some geometry =>
    by_cases hempty : geometry = []
    · have hentry : (units.terminal, geometry) ∈ (geometriesById units (some geometry)).entries := by
        rw [mem_geometriesById hnodup]
        simp
      refine iff_of_false ?_ ?_
      · rintro ⟨refinement, hrefinement, -⟩
        rw [hempty] at hrefinement
        cases hrefinement
      · rw [nonEmptyGeometries_eq_ok_iff]
        intro h
        exact h.1 _ hentry hempty
    · have hrefinement : refinementOf refinedOutlet provenance (some geometry) =
          .ok (.applied refinedOutlet ⟨geometry, hempty⟩ provenance) := by
        rw [refinementOf, ContainedTerminalPolygon.new, dif_pos hempty]
        rfl
      rw [hrefinement]
      simp only [Except.ok.injEq, exists_eq_left']
      exact mapError_eq_ok_iff

/-- **The staged path** returns exactly when the one-shot conditions hold of all units, the records are
readable at the selected level and the terminal has a stored geometry; then it returns the list of the
geometries. -/
theorem stagedGeometries_eq_ok_iff (hopen : openObject hfx file idRowGroups = .ok store)
    (hindex : store.IndexesRows) (hunique : (file.rows.map fun row => row .id).Nodup)
    (hnodup : upstream.upstream.units.Nodup) (hterminal : upstream.terminal ∈ upstream.upstream.units)
    {refinedOutlet : GeoCoord} {provenance : AppliedRefinementProvenance}
    {geometries : List (List Polygon)} :
    stagedGeometries hfx toGeo store upstream refinedOutlet provenance refined = .ok geometries ↔
      (∃ metadata, store.queryByIds hfx upstream.upstream.units = .ok metadata ∧
        ∀ unit ∈ metadata, unit.level = upstream.selectedLevel) ∧
      store.Readable hfx toGeo upstream.upstream.units ∧
      (∃ geometry, file.Stored toGeo upstream.terminal geometry) ∧
      IsGeometryList file toGeo upstream.terminal refined upstream.upstream.units geometries ∧
      ∀ geometry ∈ geometries, geometry ≠ [] := by
  have hreadable : store.Readable hfx toGeo upstream.upstream.units ↔ ∃ fetched,
      store.queryGeometriesByIds hfx toGeo upstream.upstream.units = .ok fetched := by
    simp only [queryGeometriesByIds_eq_ok_iff hopen, exists_and_left, exists_eq', and_true]
  rw [hreadable, stagedGeometries, producePreMergeUnits]
  simp only [bind_eq_ok_iff, mapError_eq_ok_iff]
  constructor
  · intro h
    obtain ⟨units, ⟨metadata, hmetadata, fetched, hfetched, records, hrecords, heq⟩, hdissolve⟩ := h
    cases heq
    have hids := ids_of_collectPreMergeUnits hnodup hrecords
    have hentries := mem_geometriesById_records hopen hindex hunique hnodup hfetched hrecords hterminal
      refined
    obtain ⟨hall, hgeometries⟩ := (exists_refinementOf_iff (by rw [hids]; exact hnodup)).1 hdissolve
    have hforall := (collectPreMergeUnits_eq_ok_iff hnodup).1 hrecords
    have hstored : ∀ id ∈ upstream.upstream.units, ∃ geometry, file.Stored toGeo id geometry := by
      intro id hid
      obtain ⟨-, -, -, -, -, geometry, hgeometry, -⟩ := exists_of_forall₂ hforall hid
      exact ⟨geometry, ((geometryById_eq_some_iff hopen hindex hunique hfetched).1 hgeometry).2⟩
    refine ⟨⟨metadata, hmetadata, ?_⟩, ⟨fetched, hfetched⟩, hstored _ hterminal, ?_, ?_⟩
    · intro unit hunit
      have hid := (((mem_queryByIds_iff hopen hindex hmetadata).2 unit).1 hunit).1
      obtain ⟨-, -, m, hm, hlevel, -⟩ := exists_of_forall₂ hforall hid
      have hsame := (metadataById_eq_some_iff hopen hindex hunique hmetadata).2 ⟨hunit, rfl⟩
      rw [hsame] at hm
      cases hm
      exact hlevel
    · refine (isGeometryList_iff_of_entries hunique hentries).2 ⟨?_, hgeometries⟩
      intro id hid
      obtain ⟨geometry, hgeometry⟩ := exists_geometryOf (hstored id hid) upstream.terminal refined
      exact SortedMap.mem_keys.2 ⟨geometry, (hentries (id, geometry)).2 ⟨hid, hgeometry⟩⟩
    · intro geometry hgeometry
      rw [hgeometries] at hgeometry
      obtain ⟨entry, hentry, rfl⟩ := List.mem_map.1 hgeometry
      exact hall entry hentry
  · intro h
    obtain ⟨⟨metadata, hmetadata, hlevels⟩, ⟨fetched, hfetched⟩, ⟨terminalGeometry, hstored⟩, hlist,
      hnonempty⟩ := h
    obtain ⟨hvalid, hmem⟩ := mem_queryByIds_iff hopen hindex hmetadata
    have hrecord : ∀ id ∈ upstream.upstream.units, ∃ unit : PreMergeDrainageUnit Polygon,
        ∃ m, metadataById metadata id = some m ∧ m.level = upstream.selectedLevel ∧
          ∃ g, geometryById fetched id = some g ∧ unit = preMergeUnit id m g := by
      intro id hid
      -- The geometry that the list has for a unit that is not replaced is its stored one.
      have hgeometry : ∃ geometry, file.Stored toGeo id geometry := by
        obtain ⟨geometry, -, hgeometry⟩ := exists_of_forall₂ hlist (mem_sortDedup.2 hid)
        unfold GeometryOf at hgeometry
        by_cases hrefined : refined.isSome ∧ id = upstream.terminal
        · exact hrefined.2 ▸ ⟨terminalGeometry, hstored⟩
        · rw [if_neg hrefined] at hgeometry
          exact ⟨geometry, hgeometry⟩
      obtain ⟨geometry, hgeometry⟩ := hgeometry
      obtain ⟨row, hrow, hcell⟩ := hgeometry.has
      have hselected : row ∈ store.rowsForIds upstream.upstream.units := by
        obtain rfl := file_of_openObject hopen
        exact mem_rowsForIds hindex hrow hcell hid
      obtain ⟨m, hm⟩ := hvalid row hselected
      have hmid : m.id = id := by
        have := (cell_eq_some (readFrom_of_rowUnit hm).id).2
        rw [hcell] at this
        exact (Option.some.inj this).symm
      have hmeta : m ∈ metadata := (hmem m).2 ⟨hmid ▸ hid, row, hrow, hm⟩
      exact ⟨_, m, (metadataById_eq_some_iff hopen hindex hunique hmetadata).2 ⟨hmeta, hmid⟩,
        hlevels m hmeta, geometry,
        (geometryById_eq_some_iff hopen hindex hunique hfetched).2 ⟨hid, hgeometry⟩, rfl⟩
    obtain ⟨records, hforall⟩ := exists_forall₂ hrecord
    have hrecords : collectPreMergeUnits upstream.upstream.units.length upstream.selectedLevel
        (metadataById metadata) upstream.upstream.units (geometryById fetched) = .ok records :=
      (collectPreMergeUnits_eq_ok_iff hnodup).2 hforall
    have hids := ids_of_collectPreMergeUnits hnodup hrecords
    have hentries := mem_geometriesById_records hopen hindex hunique hnodup hfetched hrecords hterminal
      refined
    obtain ⟨-, hgeometries⟩ := (isGeometryList_iff_of_entries hunique hentries).1 hlist
    refine ⟨_, ⟨metadata, hmetadata, fetched, hfetched, records, hrecords, rfl⟩, ?_⟩
    refine (exists_refinementOf_iff (by rw [hids]; exact hnodup)).2 ⟨?_, hgeometries⟩
    intro entry hentry
    exact hnonempty entry.2 (hgeometries ▸ List.mem_map_of_mem hentry)

end Staged

/-! ## Agreement -/

section Agreement

variable {hfx : HfxUnit} {toGeo : List UInt8 → Except String (GeoGeometry Polygon)}
  {file : CatchmentFile} {idRowGroups : UnitId → Option (Fin file.rowGroups.length)}
  {store : CatchmentStore} {ids ids' : List UnitId}

theorem mem_selectedRowGroupsForIds {i : ℕ} :
    i ∈ store.selectedRowGroupsForIds ids ↔ ∃ id ∈ ids, (store.idRowGroups id).map (·.val) = some i := by
  rw [CatchmentStore.selectedRowGroupsForIds, mem_sortDedup, List.mem_filterMap]

theorem rowsForIds_congr (h : ∀ id, id ∈ ids ↔ id ∈ ids') :
    store.rowsForIds ids = store.rowsForIds ids' := by
  unfold CatchmentStore.rowsForIds CatchmentStore.selectedRowGroupsForIds
  rw [sortDedup_congr fun i => ?_]
  simp only [List.mem_filterMap, h]

/-- A query reads nothing that a larger one does not read. -/
theorem CatchmentStore.Readable.of_subset (h : store.Readable hfx toGeo ids)
    (hsub : ∀ id ∈ ids', id ∈ ids) : store.Readable hfx toGeo ids' := by
  intro row hrow
  obtain ⟨i, hi, hgroup⟩ := List.mem_flatMap.1 hrow
  obtain ⟨selected, hselected, hindex⟩ := mem_selectedRowGroupsForIds.1 hi
  have hlarger : row ∈ store.rowsForIds ids := List.mem_flatMap.2
    ⟨i, mem_selectedRowGroupsForIds.2 ⟨selected, hsub selected hselected, hindex⟩, hgroup⟩
  obtain ⟨found, hfound⟩ := h row hlarger
  obtain ⟨id, hid, hcheck, hgeometry⟩ := rowGeometry_eq_ok_iff.1 hfound
  by_cases hmem : id ∈ ids'
  · rw [if_pos (hsub id hmem)] at hgeometry
    exact ⟨found, rowGeometry_eq_ok_iff.2 ⟨id, hid, hcheck, by rwa [if_pos hmem]⟩⟩
  · exact ⟨none, rowGeometry_eq_ok_iff.2 ⟨id, hid, hcheck, by rw [if_neg hmem]⟩⟩

/-- Rows that are units, and whose requested geometries decode, are readable. -/
theorem readable_of_stored (hopen : openObject hfx file idRowGroups = .ok store)
    (hindex : store.IndexesRows) (hunique : (file.rows.map fun row => row .id).Nodup)
    {metadata : List CatchmentUnit} (hmetadata : store.queryByIds hfx ids = .ok metadata)
    (hstored : ∀ id ∈ ids, ∃ geometry, file.Stored toGeo id geometry) :
    store.Readable hfx toGeo ids := by
  obtain ⟨hvalid, -⟩ := mem_queryByIds_iff hopen hindex hmetadata
  obtain rfl := file_of_openObject hopen
  have hrequired := (openObject_eq_ok hopen).1
  obtain ⟨hidColumn, hgeometryColumn⟩ := CatchmentStore.mem_geometryProjection hrequired
  intro row hrow
  obtain ⟨unit, hunit⟩ := hvalid row hrow
  have hread := readFrom_of_rowUnit hunit
  have hrowGeometry : (rowGeometry hfx toGeo store.geometryProjection ids row).toOption =
      if unit.id ∈ ids then (decodedRow toGeo unit).map some else some none :=
    toOption_rowGeometry hunit hidColumn hgeometryColumn
  by_cases hmem : unit.id ∈ ids
  · obtain ⟨geometry, other, hother, hid, wkb, hwkb, hdecode⟩ := hstored unit.id hmem
    obtain rfl := List.inj_on_of_nodup_map hunique hother (mem_fileRows_of_mem_selected hrow)
      (hid.trans (cell_eq_some hread.id).2.symm)
    rw [(cell_eq_some hread.geometry).2] at hwkb
    cases hwkb
    rw [if_pos hmem, decodedRow, hdecode] at hrowGeometry
    exact ⟨_, toOption_eq_some_iff.1 hrowGeometry⟩
  · rw [if_neg hmem] at hrowGeometry
    exact ⟨_, toOption_eq_some_iff.1 hrowGeometry⟩

theorem queryByIds_congr (hopen : openObject hfx file idRowGroups = .ok store)
    (h : ∀ id, id ∈ ids ↔ id ∈ ids') {metadata : List CatchmentUnit} :
    store.queryByIds hfx ids = .ok metadata ↔ store.queryByIds hfx ids' = .ok metadata := by
  have hkept : (fun unit : CatchmentUnit => decide (unit.id ∈ ids)) =
      fun unit => decide (unit.id ∈ ids') := by
    funext unit
    exact decide_eq_decide.2 (h unit.id)
  rw [← toOption_eq_some_iff, ← toOption_eq_some_iff,
    CatchmentStore.toOption_queryByIds (openObject_eq_ok hopen).1,
    CatchmentStore.toOption_queryByIds (openObject_eq_ok hopen).1, rowsForIds_congr h, hkept]

theorem readable_congr (h : ∀ id, id ∈ ids ↔ id ∈ ids') :
    store.Readable hfx toGeo ids ↔ store.Readable hfx toGeo ids' :=
  ⟨fun hreadable => hreadable.of_subset fun id hid => (h id).2 hid,
    fun hreadable => hreadable.of_subset fun id hid => (h id).1 hid⟩

variable {terminal terminal' : UnitId} {refined : Option (List Polygon)}

/-- The list depends on the rows and the units, not on their order, and on the terminal only where it is
replaced. -/
theorem IsGeometryList.perm {file' : CatchmentFile} (hrows : file'.rows.Perm file.rows)
    (hids : ids'.Perm ids) (hsame : refined.isSome → terminal' = terminal)
    {geometries : List (List Polygon)} :
    IsGeometryList file' toGeo terminal' refined ids' geometries ↔
      IsGeometryList file toGeo terminal refined ids geometries := by
  have hhas : ∀ id, file'.Has id ↔ file.Has id := fun id => by
    simp only [CatchmentFile.Has, hrows.mem_iff]
  have hstored : ∀ id geometry, file'.Stored toGeo id geometry ↔ file.Stored toGeo id geometry :=
    fun id geometry => by simp only [CatchmentFile.Stored, hrows.mem_iff]
  have hterminal : ∀ id, (refined.isSome = true ∧ id = terminal') ↔
      (refined.isSome = true ∧ id = terminal) :=
    fun id => and_congr_right fun hrefined => by rw [hsame hrefined]
  have hgeometry : GeometryOf file' toGeo terminal' refined = GeometryOf file toGeo terminal refined := by
    funext id geometry
    simp only [GeometryOf, hhas, hstored, hterminal]
  rw [IsGeometryList.congr fun id => hids.mem_iff, IsGeometryList, hgeometry, IsGeometryList]

section Order

variable {upstream upstream' : SameLevelUpstreamUnits}

/-- One-shot assembly does not depend on the order of the units. -/
theorem assembleWatershed_perm (hopen : openObject hfx file idRowGroups = .ok store)
    (hindex : store.IndexesRows) (hunique : (file.rows.map fun row => row .id).Nodup)
    (hterminal : upstream.upstream.terminal = .ok upstream.terminal)
    (hterminal' : upstream'.upstream.terminal = .ok upstream'.terminal)
    (hids : upstream'.upstream.units.Perm upstream.upstream.units)
    (hsame : refined.isSome → upstream'.terminal = upstream.terminal)
    {geometries : List (List Polygon)} :
    (assembleWatershed hfx toGeo store upstream'.upstream refined).run = .ok (.ok geometries) ↔
      (assembleWatershed hfx toGeo store upstream.upstream refined).run = .ok (.ok geometries) := by
  have hread : ∀ id, id ∈ queryIds upstream'.terminal upstream'.upstream.units refined ↔
      id ∈ queryIds upstream.terminal upstream.upstream.units refined := by
    intro id
    rw [mem_queryIds, mem_queryIds, hids.mem_iff]
    refine and_congr_right fun _ => not_congr (and_congr_right fun hrefined => ?_)
    rw [hsame hrefined]
  rw [assembleWatershed_eq_ok_iff hopen hindex hunique hterminal',
    assembleWatershed_eq_ok_iff hopen hindex hunique hterminal, IsGeometryList.perm (.refl _) hids hsame,
    readable_congr hread]

theorem stored_of_isGeometryList {geometries : List (List Polygon)}
    (h : IsGeometryList file toGeo terminal refined ids geometries)
    (hstored : refined.isSome → ∃ geometry, file.Stored toGeo terminal geometry) :
    ∀ id ∈ ids, ∃ geometry, file.Stored toGeo id geometry := by
  intro id hid
  obtain ⟨geometry, -, hgeometry⟩ := exists_of_forall₂ h (mem_sortDedup.2 hid)
  unfold GeometryOf at hgeometry
  by_cases hrefined : refined.isSome ∧ id = terminal
  · rw [hrefined.2]
    exact hstored hrefined.1
  · rw [if_neg hrefined] at hgeometry
    exact ⟨geometry, hgeometry⟩

/-- The staged path, in the terms of the one-shot path. -/
theorem stagedGeometries_iff_assembleWatershed (hopen : openObject hfx file idRowGroups = .ok store)
    (hindex : store.IndexesRows) (hunique : (file.rows.map fun row => row .id).Nodup)
    (hnodup : upstream.upstream.units.Nodup)
    (hterminal : upstream.upstream.terminal = .ok upstream.terminal) (refinedOutlet : GeoCoord)
    (provenance : AppliedRefinementProvenance) (geometries : List (List Polygon)) :
    stagedGeometries hfx toGeo store upstream refinedOutlet provenance refined = .ok geometries ↔
      (assembleWatershed hfx toGeo store upstream.upstream refined).run = .ok (.ok geometries) ∧
        (∃ metadata, store.queryByIds hfx upstream.upstream.units = .ok metadata ∧
          ∀ unit ∈ metadata, unit.level = upstream.selectedLevel) ∧
        (refined.isSome → ∃ geometry, file.Stored toGeo upstream.terminal geometry) := by
  have hmem : upstream.terminal ∈ upstream.upstream.units :=
    List.mem_of_mem_head? (UpstreamUnits.terminal_eq_ok_iff.1 hterminal)
  rw [stagedGeometries_eq_ok_iff hopen hindex hunique hnodup hmem,
    assembleWatershed_eq_ok_iff hopen hindex hunique hterminal]
  constructor
  · intro h
    obtain ⟨hmetadata, hreadable, hstored, hlist, hnonempty⟩ := h
    refine ⟨⟨?_, hlist, hnonempty⟩, hmetadata, fun _ => hstored⟩
    exact hreadable.of_subset fun id hid => (mem_queryIds.1 hid).1
  · intro h
    obtain ⟨⟨-, hlist, hnonempty⟩, ⟨metadata, hmetadata, hlevels⟩, hstored⟩ := h
    have hdecodes := stored_of_isGeometryList hlist hstored
    exact ⟨⟨metadata, hmetadata, hlevels⟩, readable_of_stored hopen hindex hunique hmetadata hdecodes,
      hdecodes _ hmem, hlist, hnonempty⟩

end Order

/-- **Staged delineation and one-shot assembly.** The staged path passes on a list exactly when one-shot
assembly passes on the same one, the records of the units are valid at the selected level, and the
stored geometry of a terminal that is replaced decodes. The list has the geometries of the units in
ascending id order, the refined one for the terminal, for any order of the units and of the rows. -/
theorem staged_assembled_agree (hopen : openObject hfx file idRowGroups = .ok store)
    (hindex : store.IndexesRows) (hunique : (file.rows.map fun row => row .id).Nodup)
    {upstream : SameLevelUpstreamUnits} (hnodup : upstream.upstream.units.Nodup)
    (hterminal : upstream.upstream.terminal = .ok upstream.terminal) (refinedOutlet : GeoCoord)
    (provenance : AppliedRefinementProvenance) (refined : Option (List Polygon))
    (geometries : List (List Polygon)) :
    (stagedGeometries hfx toGeo store upstream refinedOutlet provenance refined = .ok geometries ↔
      (assembleWatershed hfx toGeo store upstream.upstream refined).run = .ok (.ok geometries) ∧
        (∃ metadata, store.queryByIds hfx upstream.upstream.units = .ok metadata ∧
          ∀ unit ∈ metadata, unit.level = upstream.selectedLevel) ∧
        (refined.isSome → ∃ geometry, file.Stored toGeo upstream.terminal geometry)) ∧
    (∀ upstream' : SameLevelUpstreamUnits, upstream'.upstream.terminal = .ok upstream'.terminal →
      upstream'.selectedLevel = upstream.selectedLevel →
      upstream'.upstream.units.Perm upstream.upstream.units →
      (refined.isSome → upstream'.terminal = upstream.terminal) →
      ((assembleWatershed hfx toGeo store upstream'.upstream refined).run = .ok (.ok geometries) ↔
        (assembleWatershed hfx toGeo store upstream.upstream refined).run = .ok (.ok geometries)) ∧
      (stagedGeometries hfx toGeo store upstream' refinedOutlet provenance refined = .ok geometries ↔
        stagedGeometries hfx toGeo store upstream refinedOutlet provenance refined = .ok geometries)) ∧
    ((assembleWatershed hfx toGeo store upstream.upstream refined).run = .ok (.ok geometries) →
      IsGeometryList file toGeo upstream.terminal refined upstream.upstream.units geometries ∧
      ∀ (file' : CatchmentFile) (idRowGroups' : UnitId → Option (Fin file'.rowGroups.length))
        (store' : CatchmentStore) (upstream' : SameLevelUpstreamUnits) (geometries' : List (List Polygon)),
        openObject hfx file' idRowGroups' = .ok store' → store'.IndexesRows →
        file'.rows.Perm file.rows → upstream'.upstream.terminal = .ok upstream'.terminal →
        upstream'.upstream.units.Perm upstream.upstream.units →
        (refined.isSome → upstream'.terminal = upstream.terminal) →
        (assembleWatershed hfx toGeo store' upstream'.upstream refined).run = .ok (.ok geometries') →
        geometries' = geometries) := by
  refine ⟨stagedGeometries_iff_assembleWatershed hopen hindex hunique hnodup hterminal _ _ _, ?_, ?_⟩
  · intro upstream' hterminal' hlevel hperm hsame
    have hassembled : (assembleWatershed hfx toGeo store upstream'.upstream refined).run =
        .ok (.ok geometries) ↔
        (assembleWatershed hfx toGeo store upstream.upstream refined).run = .ok (.ok geometries) :=
      assembleWatershed_perm hopen hindex hunique hterminal hterminal' hperm hsame
    refine ⟨hassembled, ?_⟩
    rw [stagedGeometries_iff_assembleWatershed hopen hindex hunique (hperm.nodup_iff.2 hnodup) hterminal',
      stagedGeometries_iff_assembleWatershed hopen hindex hunique hnodup hterminal, hassembled, hlevel]
    refine and_congr_right fun _ => and_congr ?_ (forall_congr' fun hrefined => ?_)
    · simp only [queryByIds_congr hopen fun id => hperm.mem_iff]
    · rw [hsame hrefined]
  · intro h
    have hlist := ((assembleWatershed_eq_ok_iff hopen hindex hunique hterminal).1 h).2.1
    refine ⟨hlist, ?_⟩
    intro file' idRowGroups' store' upstream' geometries' hopen' hindex' hrows hterminal' hunits hsame h'
    have hunique' : (file'.rows.map fun row => row .id).Nodup :=
      (hrows.map _).nodup_iff.2 hunique
    have hlist' := ((assembleWatershed_eq_ok_iff hopen' hindex' hunique' hterminal').1 h').2.1
    exact ((IsGeometryList.perm hrows hunits hsame).1 hlist').unique hunique hlist

end Agreement

/-- The triangle as the decoder returns it. -/
def trianglePolygon : List (ℤ × ℤ) := [(0, 0), (1, 0), (0, 1), (0, 0)]

/-- A refined geometry of the unit 7. -/
def refinedTriangle : List (ℤ × ℤ) := [(0, 0), (1, 0), (1, 1), (0, 0)]

def builtInD8Applied : AppliedRefinementProvenance := ⟨.builtInD8, .d8AuxMatchedTerminalBbox 0⟩

/-- The unit 9 drains into the terminal 7. -/
def triangleUpstream : SameLevelUpstreamUnits := ⟨7, 0, ⟨[7, 9], [9, 7]⟩⟩

theorem triangleUpstream_complete :
    triangleUpstream.upstream.Complete ⟨[⟨7, 0, [9]⟩, ⟨9, 0, []⟩], by decide⟩ 7 := by
  have hrun : (traverseUpstreamAtLevel ⟨[⟨7, 0, [9]⟩, ⟨9, 0, []⟩], by decide⟩ ⟨7, 0⟩).run =
      .ok (.ok triangleUpstream) := rfl
  exact (complete_of_traverseUpstreamAtLevel hrun).2

/-- The terminal is replaced and comes first. -/
theorem staged_assembled_agree_triangles :
    stagedGeometries acceptingHfxUnit triangleToGeo (triangleStore none) triangleUpstream ⟨0, 0⟩
      builtInD8Applied (some [refinedTriangle]) = .ok [[refinedTriangle], [trianglePolygon]] := by
  have hterminal : triangleUpstream.upstream.terminal = .ok triangleUpstream.terminal :=
    UpstreamUnits.terminal_eq_ok_iff.2 triangleUpstream_complete.first
  have hstored : (triangleFile none).Stored triangleToGeo 7 [trianglePolygon] :=
    ⟨triangleRow 7 none, List.mem_cons_self, rfl, triangleWkb, rfl, rfl⟩
  refine (staged_assembled_agree (openObject_triangleFile none) (triangleStore_indexesRows none)
    (by decide) triangleUpstream_complete.nodup hterminal ⟨0, 0⟩ builtInD8Applied
    (some [refinedTriangle]) _).1.2 ?_
  exact ⟨rfl, ⟨_, rfl, by decide⟩, fun _ => ⟨_, hstored⟩⟩

/-- Unit 7 with a geometry that does not decode. -/
def truncatedRow : CatchmentRow
  | .geometry => some [1]
  | column => triangleRow 7 none column

def truncatedStore : CatchmentStore :=
  singleGroupStore (triangleFile none).columns [[truncatedRow, triangleRow 9 none]]

/-- One-shot assembly does not read the terminal that is replaced; the staged path does. -/
theorem not_staged_assembled_agree :
    ¬∀ (file : CatchmentFile) (idRowGroups : UnitId → Option (Fin file.rowGroups.length))
      (store : CatchmentStore), openObject acceptingHfxUnit file idRowGroups = .ok store →
      store.IndexesRows → (file.rows.map fun row => row .id).Nodup →
      ∀ upstream : SameLevelUpstreamUnits, upstream.upstream.units.Nodup →
      upstream.upstream.terminal = .ok upstream.terminal →
      ∀ (refined : Option (List (List (ℤ × ℤ)))) (geometries : List (List (List (ℤ × ℤ)))),
        stagedGeometries acceptingHfxUnit triangleToGeo store upstream ⟨0, 0⟩ builtInD8Applied refined =
            .ok geometries ↔
          (assembleWatershed acceptingHfxUnit triangleToGeo store upstream.upstream refined).run =
            .ok (.ok geometries) := by
  intro h
  have hassembled : (assembleWatershed acceptingHfxUnit triangleToGeo truncatedStore
      triangleUpstream.upstream (some [refinedTriangle])).run =
      .ok (.ok [[refinedTriangle], [trianglePolygon]]) := rfl
  have hstaged : stagedGeometries acceptingHfxUnit triangleToGeo truncatedStore triangleUpstream ⟨0, 0⟩
      builtInD8Applied (some [refinedTriangle]) = .error (.preMergeCatchmentDecode 7
        (.decodeFailed "unexpected end of input")) := rfl
  have hsame := (h truncatedStore.file truncatedStore.idRowGroups truncatedStore rfl
    (singleGroupStore_indexesRows _ _) (by decide) triangleUpstream (by decide) rfl _ _).2 hassembled
  rw [hstaged] at hsame
  cases hsame

end Pourpoint
