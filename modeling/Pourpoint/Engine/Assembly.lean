import Pourpoint.Engine.Staged

/-!
# The two assembly paths agree

Both paths hand the same list to `assemble_from_geometries`: the geometries of the units in ascending id
order, the refined one for the terminal (`IsGeometryList`). They differ in when they fail. The staged
path also needs the records of the units at the selected level and the stored geometry of a terminal
that is replaced.
-/

namespace Pourpoint

open Library

variable {Polygon : Type}

/-! ## Maps of geometries -/

section Maps

theorem nonEmptyGeometries_eq_ok_iff (terminal : UnitId) (refined : Bool)
    {entries : List (UnitId × List Polygon)} {geometries : List (List Polygon)} :
    nonEmptyGeometries terminal refined entries = .ok geometries ↔
      (∀ entry ∈ entries, entry.2 ≠ []) ∧ geometries = entries.map (·.2) := by
  induction entries generalizing geometries with
  | nil =>
    rw [nonEmptyGeometries]
    simp [eq_comm]
  | cons entry entries ih =>
    rw [nonEmptyGeometries]
    by_cases hempty : entry.2 = []
    · rw [if_pos (List.isEmpty_iff.2 hempty)]
      refine iff_of_false ?_ ?_
      · split
        · exact fun h => nomatch h
        · exact fun h => nomatch h
      · intro h
        exact h.1 entry List.mem_cons_self hempty
    · rw [if_neg fun h => hempty (List.isEmpty_iff.1 h), bind_eq_ok_iff]
      constructor
      · intro h
        obtain ⟨rest, hrest, heq⟩ := h
        obtain ⟨hall, rfl⟩ := ih.1 hrest
        cases heq
        refine ⟨?_, rfl⟩
        intro other hother
        rcases List.mem_cons.1 hother with rfl | hother
        · exact hempty
        · exact hall other hother
      · intro h
        obtain ⟨hall, rfl⟩ := h
        exact ⟨_, ih.2 ⟨fun other hother => hall other (List.mem_cons_of_mem _ hother), rfl⟩, rfl⟩

/-- Rows with distinct ids are all indexed. -/
theorem indexCatchmentsById_eq_ok {fetched : List (DecodedCatchmentGeometryRow Polygon)}
    (hnodup : (fetched.map (·.id)).Nodup) :
    ∃ map, indexCatchmentsById fetched = .ok map ∧
      ∀ entry, entry ∈ map.entries ↔ ∃ row ∈ fetched, entry = (row.id, row.geometry) := by
  have hfold : ∀ (rows : List (DecodedCatchmentGeometryRow Polygon))
      (map : SortedMap UnitId (List Polygon)), (rows.map (·.id)).Nodup →
      (∀ row ∈ rows, row.id ∉ map.keys) →
      rows.foldlM (fun map row => insertVacant map row.id row.geometry) map =
        .ok ((rows.map fun row => (row.id, row.geometry)).foldl (fun m e => m.insert e.1 e.2) map) := by
    intro rows
    induction rows with
    | nil =>
      intro map _ _
      rfl
    | cons row rows ih =>
      intro map hnodup hvacant
      obtain ⟨hrow, hrest⟩ := List.nodup_cons.1 hnodup
      have hkey : ¬map.contains row.id = true := by
        simpa [SortedMap.contains] using hvacant row List.mem_cons_self
      rw [List.foldlM_cons, insertVacant, if_neg hkey, List.map_cons, List.foldl_cons]
      refine ih _ hrest ?_
      intro other hother hmem
      obtain ⟨value, hvalue⟩ := SortedMap.mem_keys.1 hmem
      rcases SortedMap.mem_insert_iff.1 hvalue with heq | ⟨-, hmap⟩
      · exact hrow (List.mem_map.2 ⟨other, hother, (Prod.mk.inj heq).1⟩)
      · exact hvacant other (List.mem_cons_of_mem _ hother) (SortedMap.mem_keys.2 ⟨value, hmap⟩)
  refine ⟨_, hfold fetched .empty hnodup (by simp [SortedMap.keys, SortedMap.empty]), fun entry => ?_⟩
  rw [SortedMap.mem_foldl_insert (by simpa [Function.comp_def] using hnodup)]
  simp [SortedMap.empty, eq_comm]

end Maps

/-! ## Stored geometries -/

/-- The file has a row for the unit. -/
def CatchmentFile.Has (file : CatchmentFile) (id : UnitId) : Prop := ∃ row ∈ file.rows, row .id = some id

/-- The geometry that the row of the unit decodes to. -/
def CatchmentFile.Stored (file : CatchmentFile)
    (toGeo : List UInt8 → Except String (GeoGeometry Polygon)) (id : UnitId)
    (geometry : List Polygon) : Prop :=
  ∃ row ∈ file.rows, row .id = some id ∧ ∃ wkb, row .geometry = some wkb ∧
    decodeWkbMultiPolygonBytes toGeo wkb = .ok geometry

/-- Every row that a geometry query reads has a valid id, and a geometry that decodes if it is
requested. -/
def CatchmentStore.Readable (hfx : HfxUnit)
    (toGeo : List UInt8 → Except String (GeoGeometry Polygon)) (store : CatchmentStore)
    (ids : List UnitId) : Prop :=
  ∀ row ∈ store.rowsForIds ids, ∃ found,
    rowGeometry hfx toGeo store.geometryProjection ids row = .ok found

section Query

variable {hfx : HfxUnit} {toGeo : List UInt8 → Except String (GeoGeometry Polygon)}
  {file : CatchmentFile} {idRowGroups : UnitId → Option (Fin file.rowGroups.length)}
  {store : CatchmentStore} {ids : List UnitId}

theorem CatchmentFile.Stored.has {id : UnitId} {geometry : List Polygon}
    (h : file.Stored toGeo id geometry) : file.Has id := by
  obtain ⟨row, hrow, hid, -⟩ := h
  exact ⟨row, hrow, hid⟩

theorem CatchmentFile.Stored.unique (hunique : (file.rows.map fun row => row .id).Nodup) {id : UnitId}
    {geometry geometry' : List Polygon} (h : file.Stored toGeo id geometry)
    (h' : file.Stored toGeo id geometry') : geometry = geometry' := by
  obtain ⟨row, hrow, hid, wkb, hwkb, hdecode⟩ := h
  obtain ⟨row', hrow', hid', wkb', hwkb', hdecode'⟩ := h'
  obtain rfl := List.inj_on_of_nodup_map hunique hrow hrow' (hid.trans hid'.symm)
  rw [hwkb] at hwkb'
  cases hwkb'
  rw [hdecode] at hdecode'
  exact Except.ok.inj hdecode'

theorem mem_rowsForIds (hindex : store.IndexesRows) {row : CatchmentRow} (hrow : row ∈ store.file.rows)
    {id : UnitId} (hid : row .id = some id) (hmem : id ∈ ids) : row ∈ store.rowsForIds ids := by
  rw [CatchmentFile.rows, flatMap_rows_eq_flatMap_groupRows] at hrow
  obtain ⟨i, -, hrow⟩ := List.mem_flatMap.1 hrow
  exact List.mem_flatMap.2 ⟨i, mem_sortDedup.2 (hindex.mem_selected hrow hid hmem), hrow⟩

theorem rowsForIds_sublist (ids : List UnitId) : (store.rowsForIds ids).Sublist store.file.rows := by
  rw [CatchmentStore.rowsForIds, CatchmentStore.selectedRowGroupsForIds,
    sortDedup_eq_filter_range fun i hi => CatchmentStore.lt_of_mem_idRowGroups hi,
    CatchmentFile.rows, flatMap_rows_eq_flatMap_groupRows]
  exact List.filter_sublist.flatMap _

theorem queryGeometriesByIds_eq_ok_iff (hopen : openObject hfx file idRowGroups = .ok store)
    {fetched : List (DecodedCatchmentGeometryRow Polygon)} :
    store.queryGeometriesByIds hfx toGeo ids = .ok fetched ↔
      store.Readable hfx toGeo ids ∧
        ((store.rowsForIds ids).flatMap fun row =>
          ((rowGeometry hfx toGeo store.geometryProjection ids row).toOption.map
            Option.toList).getD []) = fetched := by
  rw [← toOption_eq_some_iff, CatchmentStore.toOption_queryGeometriesByIds (openObject_eq_ok hopen).1,
    mapM_map_flatten_eq_some_iff]
  refine and_congr_left fun _ => forall₂_congr fun row _ => ?_
  rw [Option.isSome_map, Option.isSome_iff_exists]
  exact exists_congr fun found => toOption_eq_some_iff

theorem rowGeometry_toList {row : CatchmentRow} {columns : List CatchmentColumn}
    {decoded : DecodedCatchmentGeometryRow Polygon} :
    decoded ∈ ((rowGeometry hfx toGeo columns ids row).toOption.map Option.toList).getD [] ↔
      rowGeometry hfx toGeo columns ids row = .ok (some decoded) := by
  cases rowGeometry hfx toGeo columns ids row with
  | error error => simp
  | ok found =>
    cases found with
    | none => simp
    | some other => simp [eq_comm]

theorem rowGeometry_eq_some_iff {row : CatchmentRow} {columns : List CatchmentColumn}
    {decoded : DecodedCatchmentGeometryRow Polygon} :
    rowGeometry hfx toGeo columns ids row = .ok (some decoded) ↔
      row.cell columns .id = some decoded.id ∧ hfx.unitId decoded.id = none ∧ decoded.id ∈ ids ∧
        ∃ wkb, row.cell columns .geometry = some wkb ∧
          decodeWkbMultiPolygonBytes toGeo wkb = .ok decoded.geometry := by
  rw [rowGeometry_eq_ok_iff]
  constructor
  · intro h
    obtain ⟨id, hid, hcheck, h⟩ := h
    by_cases hmem : id ∈ ids
    · rw [if_pos hmem] at h
      obtain ⟨wkb, hwkb, geometry, hdecode, heq⟩ := h
      cases heq
      exact ⟨hid, hcheck, hmem, wkb, hwkb, hdecode⟩
    · rw [if_neg hmem] at h
      cases h
  · intro h
    obtain ⟨hid, hcheck, hmem, wkb, hwkb, hdecode⟩ := h
    refine ⟨decoded.id, hid, hcheck, ?_⟩
    rw [if_pos hmem]
    exact ⟨wkb, hwkb, decoded.geometry, hdecode, rfl⟩

/-- **What a geometry query returns.** Distinct units, each with its stored geometry, and every
requested unit of the file. -/
theorem mem_queryGeometriesByIds_iff (hopen : openObject hfx file idRowGroups = .ok store)
    (hindex : store.IndexesRows) (hunique : (file.rows.map fun row => row .id).Nodup)
    {fetched : List (DecodedCatchmentGeometryRow Polygon)}
    (h : store.queryGeometriesByIds hfx toGeo ids = .ok fetched) :
    (fetched.map (·.id)).Nodup ∧
      ∀ decoded, decoded ∈ fetched ↔
        decoded.id ∈ ids ∧ file.Stored toGeo decoded.id decoded.geometry := by
  obtain rfl := file_of_openObject hopen
  obtain ⟨hreadable, heq⟩ := (queryGeometriesByIds_eq_ok_iff hopen).1 h
  refine ⟨?_, ?_⟩
  · -- The ids of the result are a sublist of those of the file.
    have hsub : ∀ rows : List CatchmentRow, ((rows.flatMap fun row =>
        ((rowGeometry hfx toGeo store.geometryProjection ids row).toOption.map
          Option.toList).getD []).map fun decoded => some decoded.id).Sublist
        (rows.map fun row => row .id) := by
      intro rows
      induction rows with
      | nil => exact List.Sublist.refl _
      | cons row rows ih =>
        rw [List.flatMap_cons, List.map_append, List.map_cons]
        cases hrow : rowGeometry hfx toGeo store.geometryProjection ids row with
        | error error => exact ih.cons _
        | ok found =>
          cases found with
          | none => exact ih.cons _
          | some decoded =>
            have hid := (cell_eq_some (rowGeometry_eq_some_iff.1 hrow).1).2
            rw [hid]
            exact ih.cons_cons _
    have hnodup : (fetched.map fun decoded => some decoded.id).Nodup := by
      rw [← heq]
      exact ((hsub _).trans ((rowsForIds_sublist ids).map _)).nodup hunique
    exact List.Nodup.of_map some (by rwa [List.map_map])
  · intro decoded
    constructor
    · intro hmem
      exact mem_of_queryGeometriesByIds hopen h hmem
    · intro hstored
      obtain ⟨hmem, row, hrow, hid, wkb, hwkb, hdecode⟩ := hstored
      have hselected := mem_rowsForIds hindex hrow hid hmem
      obtain ⟨found, hfound⟩ := hreadable row hselected
      obtain ⟨id, hcell, hcheck, -⟩ := rowGeometry_eq_ok_iff.1 hfound
      have hsame : id = decoded.id := by
        have := (cell_eq_some hcell).2
        rw [hid] at this
        exact (Option.some.inj this).symm
      subst hsame
      obtain ⟨-, hgeometry⟩ := CatchmentStore.mem_geometryProjection (openObject_eq_ok hopen).1
      rw [← heq]
      refine List.mem_flatMap.2 ⟨row, hselected, rowGeometry_toList.2 ?_⟩
      exact rowGeometry_eq_some_iff.2
        ⟨hcell, hcheck, hmem, wkb, (if_pos hgeometry).trans hwkb, hdecode⟩

end Query

/-! ## The list that is dissolved -/

/-- The geometry of a unit: the refined one for a terminal that the file has, else the stored one. -/
def GeometryOf (file : CatchmentFile) (toGeo : List UInt8 → Except String (GeoGeometry Polygon))
    (terminal : UnitId) (refined : Option (List Polygon)) (id : UnitId) (geometry : List Polygon) :
    Prop :=
  if refined.isSome ∧ id = terminal then refined = some geometry ∧ file.Has id
  else file.Stored toGeo id geometry

/-- The geometries of the units in ascending id order. -/
def IsGeometryList (file : CatchmentFile) (toGeo : List UInt8 → Except String (GeoGeometry Polygon))
    (terminal : UnitId) (refined : Option (List Polygon)) (unitIds : List UnitId)
    (geometries : List (List Polygon)) : Prop :=
  List.Forall₂ (GeometryOf file toGeo terminal refined) (sortDedup unitIds) geometries

section GeometryList

variable {file : CatchmentFile} {toGeo : List UInt8 → Except String (GeoGeometry Polygon)}
  {terminal : UnitId} {refined : Option (List Polygon)} {unitIds : List UnitId}

theorem GeometryOf.unique (hunique : (file.rows.map fun row => row .id).Nodup) {id : UnitId}
    {geometry geometry' : List Polygon} (h : GeometryOf file toGeo terminal refined id geometry)
    (h' : GeometryOf file toGeo terminal refined id geometry') : geometry = geometry' := by
  unfold GeometryOf at h h'
  by_cases hrefined : refined.isSome ∧ id = terminal
  · rw [if_pos hrefined] at h h'
    exact Option.some.inj (h.1.symm.trans h'.1)
  · rw [if_neg hrefined] at h h'
    exact h.unique hunique h'

/-- The list is determined by the file and the set of units. -/
theorem IsGeometryList.unique (hunique : (file.rows.map fun row => row .id).Nodup)
    {geometries geometries' : List (List Polygon)}
    (h : IsGeometryList file toGeo terminal refined unitIds geometries)
    (h' : IsGeometryList file toGeo terminal refined unitIds geometries') :
    geometries = geometries' :=
  List.right_unique_forall₂' (fun _ _ _ h h' => h.unique hunique h') h h'

theorem IsGeometryList.congr {unitIds' : List UnitId} {geometries : List (List Polygon)}
    (hmem : ∀ id, id ∈ unitIds ↔ id ∈ unitIds') :
    IsGeometryList file toGeo terminal refined unitIds geometries ↔
      IsGeometryList file toGeo terminal refined unitIds' geometries := by
  rw [IsGeometryList, IsGeometryList, sortDedup_congr hmem]

/-- The values of a map that has exactly the geometries of the units. -/
theorem isGeometryList_iff_of_entries (hunique : (file.rows.map fun row => row .id).Nodup)
    {map : SortedMap UnitId (List Polygon)}
    (hentries : ∀ entry, entry ∈ map.entries ↔
      entry.1 ∈ unitIds ∧ GeometryOf file toGeo terminal refined entry.1 entry.2)
    {geometries : List (List Polygon)} :
    IsGeometryList file toGeo terminal refined unitIds geometries ↔
      (∀ id ∈ unitIds, id ∈ map.keys) ∧ geometries = map.entries.map (·.2) := by
  have hlist : (∀ id ∈ unitIds, id ∈ map.keys) →
      IsGeometryList file toGeo terminal refined unitIds (map.entries.map (·.2)) := by
    intro hall
    have hkeys : sortDedup unitIds = map.keys := by
      refine (pairwise_sortDedup unitIds).eq_of_mem_iff map.pairwise_keys fun {id} => ?_
      rw [mem_sortDedup]
      refine ⟨hall id, ?_⟩
      intro hmem
      obtain ⟨value, hvalue⟩ := SortedMap.mem_keys.1 hmem
      exact ((hentries _).1 hvalue).1
    rw [IsGeometryList, hkeys, SortedMap.keys, List.forall₂_map_left_iff, List.forall₂_map_right_iff,
      List.forall₂_same]
    intro entry hentry
    exact ((hentries entry).1 hentry).2
  constructor
  · intro h
    have hall : ∀ id ∈ unitIds, id ∈ map.keys := by
      intro id hid
      obtain ⟨geometry, -, hgeometry⟩ := exists_of_forall₂ h (mem_sortDedup.2 hid)
      exact SortedMap.mem_keys.2 ⟨geometry, (hentries (id, geometry)).2 ⟨hid, hgeometry⟩⟩
    exact ⟨hall, h.unique hunique (hlist hall)⟩
  · intro h
    obtain ⟨hall, rfl⟩ := h
    exact hlist hall

end GeometryList

/-! ## One-shot assembly -/

section OneShot

variable {hfx : HfxUnit} {toGeo : List UInt8 → Except String (GeoGeometry Polygon)}
  {file : CatchmentFile} {idRowGroups : UnitId → Option (Fin file.rowGroups.length)}
  {store : CatchmentStore} {terminal : UnitId} {unitIds : List UnitId}
  {refined : Option (List Polygon)}

theorem mem_queryIds {id : UnitId} :
    id ∈ queryIds terminal unitIds refined ↔ id ∈ unitIds ∧ ¬(refined.isSome ∧ id = terminal) := by
  unfold queryIds
  by_cases hrefined : refined.isSome
  · rw [if_pos hrefined, List.mem_filter]
    simp [hrefined]
  · rw [if_neg hrefined]
    simp [hrefined]

theorem containsId_iff (hindex : store.IndexesRows) {id : UnitId} :
    store.containsId id = true ↔ store.file.Has id := by
  rw [CatchmentStore.containsId, Option.isSome_iff_exists]
  constructor
  · intro h
    obtain ⟨index, hid⟩ := h
    obtain ⟨row, hrow, hcell⟩ := (hindex id index).1 hid
    obtain ⟨rowGroup, hmem, -, hrow⟩ := mem_rows_of_mem_groupRows hrow
    exact ⟨row, List.mem_flatMap.2 ⟨rowGroup, hmem, hrow⟩, hcell⟩
  · intro h
    obtain ⟨row, hrow, hcell⟩ := h
    rw [CatchmentFile.rows, flatMap_rows_eq_flatMap_groupRows] at hrow
    obtain ⟨i, hi, hrow⟩ := List.mem_flatMap.1 hrow
    exact ⟨⟨i, List.mem_range.1 hi⟩, (hindex id ⟨i, List.mem_range.1 hi⟩).2 ⟨row, hrow, hcell⟩⟩

/-- The map that the one-shot path iterates: exactly the geometries of the units. -/
theorem exists_unitMap (hopen : openObject hfx file idRowGroups = .ok store)
    (hindex : store.IndexesRows) (hunique : (file.rows.map fun row => row .id).Nodup)
    (hterminal : terminal ∈ unitIds) {fetched : List (DecodedCatchmentGeometryRow Polygon)}
    (hfetched : store.queryGeometriesByIds hfx toGeo (queryIds terminal unitIds refined) = .ok fetched) :
    ∃ map, (do insertRefined store terminal refined (← indexCatchmentsById fetched)) = .ok map ∧
      ∀ entry, entry ∈ map.entries ↔
        entry.1 ∈ unitIds ∧ GeometryOf file toGeo terminal refined entry.1 entry.2 := by
  obtain rfl := file_of_openObject hopen
  obtain ⟨hnodup, hmem⟩ := mem_queryGeometriesByIds_iff hopen hindex hunique hfetched
  obtain ⟨map, hmap, hentries⟩ := indexCatchmentsById_eq_ok hnodup
  -- Before the refined geometry is inserted: the stored geometries of the ids that were read.
  have hread : ∀ entry : UnitId × List Polygon, entry ∈ map.entries ↔
      (entry.1 ∈ unitIds ∧ ¬(refined.isSome ∧ entry.1 = terminal)) ∧
        store.file.Stored toGeo entry.1 entry.2 := by
    intro entry
    rw [hentries, ← mem_queryIds]
    constructor
    · intro h
      obtain ⟨row, hrow, rfl⟩ := h
      exact (hmem row).1 hrow
    · intro h
      exact ⟨⟨entry.1, entry.2⟩, (hmem ⟨entry.1, entry.2⟩).2 h, rfl⟩
  rw [hmap, ok_bind]
  cases refined with
  | none =>
    refine ⟨map, rfl, fun entry => ?_⟩
    rw [hread, GeometryOf]
    simp
  | some geometry =>
    have hvacant : ¬map.contains terminal = true := by
      intro hcontains
      obtain ⟨value, hvalue⟩ := SortedMap.mem_keys.1 (of_decide_eq_true hcontains)
      exact ((hread _).1 hvalue).1.2 ⟨rfl, rfl⟩
    by_cases hhas : store.file.Has terminal
    · refine ⟨map.insert terminal geometry, ?_, fun entry => ?_⟩
      · rw [insertRefined, if_pos ((containsId_iff hindex).2 hhas), insertVacant, if_neg hvacant]
      · rw [SortedMap.mem_insert_iff, hread, GeometryOf]
        obtain ⟨id, value⟩ := entry
        by_cases hid : id = terminal
        · subst hid
          simp [hterminal, hhas, eq_comm]
        · simp [hid]
    · refine ⟨map, ?_, fun entry => ?_⟩
      · rw [insertRefined, if_neg fun h => hhas ((containsId_iff hindex).1 h)]
      · rw [hread, GeometryOf]
        obtain ⟨id, value⟩ := entry
        by_cases hid : id = terminal
        · subst hid
          simp [hhas]
        · simp [hid]

theorem assembleUnits_eq_ok_iff (hopen : openObject hfx file idRowGroups = .ok store)
    (hindex : store.IndexesRows) (hunique : (file.rows.map fun row => row .id).Nodup)
    (hterminal : terminal ∈ unitIds) {geometries : List (List Polygon)} :
    assembleUnits hfx toGeo store terminal unitIds refined = .ok geometries ↔
      store.Readable hfx toGeo (queryIds terminal unitIds refined) ∧
        IsGeometryList file toGeo terminal refined unitIds geometries ∧
          ∀ geometry ∈ geometries, geometry ≠ [] := by
  have hreadable : store.Readable hfx toGeo (queryIds terminal unitIds refined) ↔
      ∃ fetched, store.queryGeometriesByIds hfx toGeo (queryIds terminal unitIds refined) =
        .ok fetched := by
    simp only [queryGeometriesByIds_eq_ok_iff hopen, exists_and_left, exists_eq', and_true]
  rw [hreadable, assembleUnits, bind_eq_ok_iff]
  simp only [mapError_eq_ok_iff]
  rw [← exists_and_right]
  refine exists_congr fun fetched => and_congr_right fun hfetched => ?_
  obtain ⟨map, hmap, hentries⟩ := exists_unitMap hopen hindex hunique hterminal hfetched
  have hmissing : (unitIds.filter fun id => !map.contains id) = [] ↔
      ∀ id ∈ unitIds, id ∈ map.keys := by
    rw [List.filter_eq_nil_iff]
    simp [SortedMap.contains]
  rw [isGeometryList_iff_of_entries hunique hentries, ← bind_assoc, hmap, ok_bind]
  by_cases hall : ∀ id ∈ unitIds, id ∈ map.keys
  · rw [if_neg (not_not.2 (hmissing.2 hall)), nonEmptyGeometries_eq_ok_iff, and_iff_right hall]
    constructor
    · intro h
      refine ⟨h.2, ?_⟩
      intro geometry hgeometry
      rw [h.2] at hgeometry
      obtain ⟨entry, hentry, rfl⟩ := List.mem_map.1 hgeometry
      exact h.1 entry hentry
    · intro h
      refine ⟨?_, h.1⟩
      intro entry hentry
      exact h.2 entry.2 (h.1 ▸ List.mem_map_of_mem hentry)
  · rw [if_pos fun h => hall (hmissing.1 h)]
    refine iff_of_false (fun h => nomatch h) ?_
    intro h
    exact hall h.1.1

/-- **One-shot assembly** returns exactly on readable rows and non-empty geometries of all units, and
then the list of the geometries. -/
theorem assembleWatershed_eq_ok_iff (hopen : openObject hfx file idRowGroups = .ok store)
    (hindex : store.IndexesRows) (hunique : (file.rows.map fun row => row .id).Nodup)
    {upstream : UpstreamUnits} (hterminal : upstream.terminal = .ok terminal)
    {geometries : List (List Polygon)} :
    (assembleWatershed hfx toGeo store upstream refined).run = .ok (.ok geometries) ↔
      store.Readable hfx toGeo (queryIds terminal upstream.units refined) ∧
        IsGeometryList file toGeo terminal refined upstream.units geometries ∧
          ∀ geometry ∈ geometries, geometry ≠ [] := by
  have hmem : terminal ∈ upstream.units :=
    List.mem_of_mem_head? (UpstreamUnits.terminal_eq_ok_iff.1 hterminal)
  rw [assembleWatershed, Fallible.lift_bind_run hterminal, Fallible.mapError_run_eq_ok_iff]
  exact assembleUnits_eq_ok_iff hopen hindex hunique hmem

end OneShot

end Pourpoint
