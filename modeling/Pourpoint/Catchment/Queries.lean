import Pourpoint.Catchment.Scan

/-!
# What queries return

On valid rows, true statistics and a correct index every query returns what a scan of the file returns
(`queries_eq_scan`): no row is lost or repeated, whatever the split into row groups and batches.

A unit read by id and the same unit read by bbox agree up to the two labels, which the projection of
`query_by_ids` leaves out (`readByIds_eq_readByBbox_iff`).
-/

namespace Pourpoint

open Library

section Scan

variable {δ : Type} {rowGroups : List RowGroup} {indices : List ℕ}

theorem flatMap_rows_eq_flatMap_groupRows (rowGroups : List RowGroup) :
    rowGroups.flatMap RowGroup.rows = (List.range rowGroups.length).flatMap (groupRows rowGroups) := by
  have hmap : rowGroups.map RowGroup.rows =
      (List.range rowGroups.length).map (groupRows rowGroups) := by
    refine List.ext_getElem (by simp) ?_
    intro i hi _
    rw [List.length_map] at hi
    simp [groupRows, hi]
  rw [List.flatMap_def, hmap, ← List.flatMap_def]

/-- Row groups that contribute nothing can be left out. -/
theorem flatMap_selected (g : CatchmentRow → List δ) (hindices : ∀ i ∈ indices, i < rowGroups.length)
    (hothers : ∀ i, i ∉ indices → ∀ row ∈ groupRows rowGroups i, g row = []) :
    ((sortDedup indices).flatMap (groupRows rowGroups)).flatMap g =
      (rowGroups.flatMap RowGroup.rows).flatMap g := by
  have hskip : ∀ l : List ℕ, ((l.filter (· ∈ indices)).flatMap fun i =>
      (groupRows rowGroups i).flatMap g) = l.flatMap fun i => (groupRows rowGroups i).flatMap g := by
    intro l
    induction l with
    | nil => rfl
    | cons i l ih =>
      by_cases hi : i ∈ indices
      · rw [List.filter_cons_of_pos (by simpa using hi), List.flatMap_cons, ih, List.flatMap_cons]
      · have hnil : (groupRows rowGroups i).flatMap g = [] :=
          List.flatMap_eq_nil_iff.2 (hothers i hi)
        rw [List.filter_cons_of_neg (by simpa using hi), ih, List.flatMap_cons, hnil, List.nil_append]
  rw [flatMap_rows_eq_flatMap_groupRows, sortDedup_eq_filter_range hindices, List.flatMap_assoc,
    List.flatMap_assoc, hskip]

theorem mem_rows_of_mem_groupRows {i : ℕ} {row : CatchmentRow} (h : row ∈ groupRows rowGroups i) :
    ∃ rowGroup ∈ rowGroups, rowGroups[i]? = some rowGroup ∧ row ∈ rowGroup.rows := by
  unfold groupRows at h
  cases hget : rowGroups[i]? with
  | none =>
    rw [hget] at h
    exact absurd h List.not_mem_nil
  | some rowGroup =>
    rw [hget] at h
    exact ⟨rowGroup, List.mem_of_getElem? hget, rfl, h⟩

theorem mem_fileRows_of_mem_selected {file : CatchmentFile} {selected : List ℕ} {row : CatchmentRow}
    (h : row ∈ selected.flatMap (groupRows file.rowGroups)) : row ∈ file.rows := by
  obtain ⟨i, -, hrow⟩ := List.mem_flatMap.1 h
  obtain ⟨rowGroup, hmem, -, hrow⟩ := mem_rows_of_mem_groupRows hrow
  exact List.mem_flatMap.2 ⟨rowGroup, hmem, hrow⟩

end Scan

/-! ## The units of the file -/

/-- The unit of a row, when it gives one. -/
def rowUnit? (hfx : HfxUnit) (columns : List CatchmentColumn) (row : CatchmentRow) :
    Option CatchmentUnit :=
  (rowUnit hfx columns row).toOption

/-- The units of a plain scan of the file. -/
def CatchmentFile.units (hfx : HfxUnit) (file : CatchmentFile) : List CatchmentUnit :=
  file.rows.filterMap (rowUnit? hfx file.columns)

/-- Every row gives a unit. -/
def CatchmentFile.Valid (hfx : HfxUnit) (file : CatchmentFile) : Prop :=
  ∀ row ∈ file.rows, ∃ unit, rowUnit hfx file.columns row = .ok unit

/-- The stored statistics bound the bbox columns. -/
structure RowGroup.StatisticsBound (rowGroup : RowGroup) : Prop where
  minx : ∀ v, rowGroup.statistics.minx = some v →
    ∀ row ∈ rowGroup.rows, ∀ c, row .bboxXmin = some c → v.le c = true
  miny : ∀ v, rowGroup.statistics.miny = some v →
    ∀ row ∈ rowGroup.rows, ∀ c, row .bboxYmin = some c → v.le c = true
  maxx : ∀ v, rowGroup.statistics.maxx = some v →
    ∀ row ∈ rowGroup.rows, ∀ c, row .bboxXmax = some c → c.le v = true
  maxy : ∀ v, rowGroup.statistics.maxy = some v →
    ∀ row ∈ rowGroup.rows, ∀ c, row .bboxYmax = some c → c.le v = true

namespace CatchmentStore

/-- The id index maps each id of the file to the row group that holds it. -/
def IndexesRows (store : CatchmentStore) : Prop :=
  ∀ id index, store.idRowGroups id = some index ↔
    ∃ row ∈ groupRows store.file.rowGroups index, row .id = some id

end CatchmentStore

section Row

variable {hfx : HfxUnit} {columns : List CatchmentColumn} {row : CatchmentRow} {unit : CatchmentUnit}

theorem cell_eq_some {column : CatchmentColumn} {value : column.Cell}
    (h : row.cell columns column = some value) : column ∈ columns ∧ row column = some value := by
  unfold CatchmentRow.cell at h
  by_cases hmem : column ∈ columns
  · rw [if_pos hmem] at h
    exact ⟨hmem, h⟩
  · rw [if_neg hmem] at h
    cases h

/-- The bbox of the statistics covers every unit of the group. -/
theorem RowGroup.StatisticsBound.covers {rowGroup : RowGroup} (h : rowGroup.StatisticsBound)
    {bbox : UnitBox} (hbbox : extractRowGroupBbox hfx rowGroup.statistics = some bbox)
    (hrow : row ∈ rowGroup.rows) (hunit : rowUnit hfx columns row = .ok unit) :
    bbox.Covers unit.bbox := by
  unfold extractRowGroupBbox at hbbox
  simp only [Option.bind_eq_bind, Option.bind_eq_some_iff] at hbbox
  obtain ⟨minx, hminx, miny, hminy, maxx, hmaxx, maxy, hmaxy, hif⟩ := hbbox
  have hread := readFrom_of_rowUnit hunit
  split at hif
  · cases hif
    exact ⟨h.minx _ hminx row hrow _ (cell_eq_some hread.minx).2,
      h.miny _ hminy row hrow _ (cell_eq_some hread.miny).2,
      h.maxx _ hmaxx row hrow _ (cell_eq_some hread.maxx).2,
      h.maxy _ hmaxy row hrow _ (cell_eq_some hread.maxy).2⟩
  · cases hif

theorem isSome_keptUnit_iff {keep : CatchmentUnit → Bool} :
    (keptUnit hfx columns keep row).isSome ↔ ∃ unit, rowUnit hfx columns row = .ok unit := by
  rw [keptUnit, Option.isSome_map, Option.isSome_iff_exists]
  simp only [toOption_eq_some_iff]

theorem keptUnit_eq_nil {keep : CatchmentUnit → Bool}
    (h : ∀ unit, rowUnit hfx columns row = .ok unit → ¬keep unit = true) :
    (keptUnit hfx columns keep row).getD [] = [] := by
  unfold keptUnit
  cases hunit : rowUnit hfx columns row with
  | error reason => rfl
  | ok unit => simp [h unit hunit]

theorem rowUnit?_eq_some_iff : rowUnit? hfx columns row = some unit ↔
    rowUnit hfx columns row = .ok unit :=
  toOption_eq_some_iff

theorem flatMap_keptUnit (keep : CatchmentUnit → Bool) (rows : List CatchmentRow) :
    (rows.flatMap fun row => (keptUnit hfx columns keep row).getD []) =
      (rows.filterMap (rowUnit? hfx columns)).filter keep := by
  induction rows with
  | nil => rfl
  | cons row rows ih =>
    rw [List.flatMap_cons, ih, keptUnit]
    show ((rowUnit? hfx columns row).map fun unit => [unit].filter keep).getD [] ++ _ = _
    cases hunit : rowUnit? hfx columns row with
    | none =>
      rw [List.filterMap_cons_none hunit]
      rfl
    | some unit =>
      rw [List.filterMap_cons_some hunit, ← List.singleton_append (x := unit), List.filter_append]
      rfl

theorem flatMap_keptUnit_withoutLabels {projected : List CatchmentColumn}
    (h : ∀ row : CatchmentRow, rowUnit hfx projected row =
      CatchmentUnit.withoutLabels <$> rowUnit hfx columns row)
    (keep : CatchmentUnit → Bool) (hkeep : ∀ unit, keep unit.withoutLabels = keep unit)
    (rows : List CatchmentRow) :
    (rows.flatMap fun row => (keptUnit hfx projected keep row).getD []) =
      ((rows.filterMap (rowUnit? hfx columns)).filter keep).map CatchmentUnit.withoutLabels := by
  have hmap : rowUnit? hfx projected =
      fun row => (rowUnit? hfx columns row).map CatchmentUnit.withoutLabels := by
    funext row
    rw [rowUnit?, h row, toOption_map]
    rfl
  have hcomp : keep ∘ CatchmentUnit.withoutLabels = keep := funext hkeep
  rw [flatMap_keptUnit, hmap, ← List.map_filterMap, List.filter_map, hcomp]

end Row

/-! ## Selections -/

section Selection

variable {hfx : HfxUnit} {file : CatchmentFile}
  {idRowGroups : UnitId → Option (Fin file.rowGroups.length)} {store : CatchmentStore}

theorem file_of_openObject (h : openObject hfx file idRowGroups = .ok store) : store.file = file := by
  obtain ⟨-, rfl⟩ := openObject_eq_ok h
  rfl

/-- The metadata pass puts each row group on one of the two lists. -/
theorem mem_rowGroups_of_openObject (h : openObject hfx file idRowGroups = .ok store)
    {rowGroup : RowGroupBbox} : rowGroup ∈ store.rowGroups ↔
      ∃ group, store.file.rowGroups[rowGroup.index]? = some group ∧
        extractRowGroupBbox hfx group.statistics = some rowGroup.bbox := by
  obtain ⟨-, rfl⟩ := openObject_eq_ok h
  obtain ⟨index, bbox⟩ := rowGroup
  simp only [List.mem_filterMap, Prod.exists, List.mk_mem_zipIdx_iff_getElem?,
    Option.map_eq_some_iff, RowGroupBbox.mk.injEq]
  constructor
  · intro hmem
    obtain ⟨group, i, hget, box, hbox, rfl, rfl⟩ := hmem
    exact ⟨group, hget, hbox⟩
  · intro hmem
    obtain ⟨group, hget, hbox⟩ := hmem
    exact ⟨group, index, hget, bbox, hbox, rfl, rfl⟩

theorem mem_groupsWithoutStats_of_openObject (h : openObject hfx file idRowGroups = .ok store)
    {i : ℕ} : i ∈ store.groupsWithoutStats ↔
      ∃ group, store.file.rowGroups[i]? = some group ∧
        extractRowGroupBbox hfx group.statistics = none := by
  obtain ⟨-, rfl⟩ := openObject_eq_ok h
  simp only [List.mem_filterMap, Prod.exists, List.mk_mem_zipIdx_iff_getElem?]
  constructor
  · intro hmem
    obtain ⟨group, index, hget, hif⟩ := hmem
    split at hif
    · cases hif
      exact ⟨group, hget, by assumption⟩
    · cases hif
  · intro hmem
    obtain ⟨group, hget, hnone⟩ := hmem
    exact ⟨group, i, hget, if_pos hnone⟩

theorem lt_of_mem_matching (h : openObject hfx file idRowGroups = .ok store) {queryBbox : UnitBox}
    {i : ℕ} (hi : i ∈ (store.rowGroups.filter (·.bbox.intersects queryBbox)).map (·.index) ++
      store.groupsWithoutStats) : i < store.file.rowGroups.length := by
  rcases List.mem_append.1 hi with hi | hi
  · obtain ⟨rowGroup, hmem, rfl⟩ := List.mem_map.1 hi
    obtain ⟨group, hget, -⟩ := (mem_rowGroups_of_openObject h).1 (List.mem_filter.1 hmem).1
    exact (List.getElem?_eq_some_iff.1 hget).1
  · obtain ⟨group, hget, -⟩ := (mem_groupsWithoutStats_of_openObject h).1 hi
    exact (List.getElem?_eq_some_iff.1 hget).1

/-- **Pruning is safe.** The row group of a unit that meets the query is selected. -/
theorem mem_matching_of_intersects (h : openObject hfx file idRowGroups = .ok store)
    (hbound : ∀ rowGroup ∈ store.file.rowGroups, rowGroup.StatisticsBound) {queryBbox : UnitBox}
    {i : ℕ} {row : CatchmentRow} (hrow : row ∈ groupRows store.file.rowGroups i)
    {unit : CatchmentUnit} (hunit : rowUnit hfx store.file.columns row = .ok unit)
    (hmeets : unit.bbox.intersects queryBbox = true) :
    i ∈ (store.rowGroups.filter (·.bbox.intersects queryBbox)).map (·.index) ++
      store.groupsWithoutStats := by
  obtain ⟨group, hgroup, hget, hrow⟩ := mem_rows_of_mem_groupRows hrow
  cases hbbox : extractRowGroupBbox hfx group.statistics with
  | none =>
    exact List.mem_append_right _ ((mem_groupsWithoutStats_of_openObject h).2 ⟨group, hget, hbbox⟩)
  | some bbox =>
    have hcovers := (hbound group hgroup).covers hbbox hrow hunit
    refine List.mem_append_left _ (List.mem_map.2 ⟨⟨i, bbox⟩, ?_, rfl⟩)
    exact List.mem_filter.2
      ⟨(mem_rowGroups_of_openObject h).2 ⟨group, hget, hbbox⟩, hcovers.intersects hmeets⟩

theorem CatchmentStore.IndexesRows.mem_selected (h : store.IndexesRows) {ids : List UnitId} {i : ℕ}
    {row : CatchmentRow} (hrow : row ∈ groupRows store.file.rowGroups i) {id : UnitId}
    (hid : row .id = some id) (hmem : id ∈ ids) :
    i ∈ ids.filterMap fun id => (store.idRowGroups id).map (·.val) := by
  obtain ⟨group, -, hget, -⟩ := mem_rows_of_mem_groupRows hrow
  have hlt := (List.getElem?_eq_some_iff.1 hget).1
  have hindex := (h id ⟨i, hlt⟩).2 ⟨row, hrow, hid⟩
  exact List.mem_filterMap.2 ⟨id, hmem, by rw [hindex]; rfl⟩

/-- The projection of `query_by_ids` reads every column of a unit but the labels. -/
theorem rowUnit_fullProjection (row : CatchmentRow) :
    rowUnit hfx store.fullProjection row =
      CatchmentUnit.withoutLabels <$> rowUnit hfx store.file.columns row := by
  have hmem : ∀ column, column ∈ store.fullProjection ↔
      column ∈ fullProjectionColumns ∧ column ∈ store.file.columns :=
    fun column => mem_projectLeaves_idxOf?
  refine rowUnit_map_withoutLabels ?_ ?_ ?_
  · intro column hcolumn
    have hfull : column ∈ fullProjectionColumns := by
      revert column
      decide
    rw [hmem]
    exact and_iff_right hfull
  · rw [hmem]
    exact fun h => absurd h.1 (by decide)
  · rw [hmem]
    exact fun h => absurd h.1 (by decide)

end Selection

/-! ## Geometries -/

section GeometryRow

variable {hfx : HfxUnit} {columns : List CatchmentColumn} {row : CatchmentRow} {Polygon : Type}
  {toGeo : List UInt8 → Except String (GeoGeometry Polygon)}

/-- The decoded geometry of a unit. -/
def decodedRow (toGeo : List UInt8 → Except String (GeoGeometry Polygon)) (unit : CatchmentUnit) :
    Option (DecodedCatchmentGeometryRow Polygon) :=
  (decodeWkbMultiPolygonBytes toGeo unit.geometry).toOption.map (⟨unit.id, ·⟩)

theorem toOption_rowGeometry {projected : List CatchmentColumn} {ids : List UnitId}
    {unit : CatchmentUnit} (hunit : rowUnit hfx columns row = .ok unit) (hid : .id ∈ projected)
    (hgeometry : .geometry ∈ projected) :
    (rowGeometry hfx toGeo projected ids row).toOption =
      if unit.id ∈ ids then (decodedRow toGeo unit).map some else some none := by
  have hread := readFrom_of_rowUnit hunit
  have hidCell : row.cell projected .id = some unit.id :=
    (if_pos hid).trans (cell_eq_some hread.id).2
  have hgeometryCell : row.cell projected .geometry = some unit.geometry :=
    (if_pos hgeometry).trans (cell_eq_some hread.geometry).2
  rw [rowGeometry, hidCell, hgeometryCell, toOption_bind]
  simp only [toOption_mapError, toOption_bind, nonNull, toOption_ok, Option.bind_some, hread.checked,
    checked]
  by_cases hmem : unit.id ∈ ids
  · rw [if_neg (not_not.2 hmem), if_pos hmem, decodedRow]
    simp only [toOption_bind, toOption_mapError, toOption_ok, Option.bind_some]
    cases (decodeWkbMultiPolygonBytes toGeo unit.geometry).toOption with
    | none => rfl
    | some geometry => rfl
  · rw [if_pos hmem, if_neg hmem]
    rfl

/-- The decoded geometries of the requested rows, in order. -/
theorem flatMap_rowGeometry {projected : List CatchmentColumn} {ids : List UnitId}
    (hid : .id ∈ projected) (hgeometry : .geometry ∈ projected) {rows : List CatchmentRow}
    (hvalid : ∀ row ∈ rows, ∃ unit, rowUnit hfx columns row = .ok unit) :
    (rows.flatMap fun row =>
      ((rowGeometry hfx toGeo projected ids row).toOption.map Option.toList).getD []) =
      ((rows.filterMap (rowUnit? hfx columns)).filter (·.id ∈ ids)).filterMap (decodedRow toGeo) := by
  induction rows with
  | nil => rfl
  | cons row rows ih =>
    obtain ⟨unit, hunit⟩ := hvalid row List.mem_cons_self
    rw [List.flatMap_cons, ih fun other hother => hvalid other (List.mem_cons_of_mem _ hother),
      toOption_rowGeometry hunit hid hgeometry,
      List.filterMap_cons_some (rowUnit?_eq_some_iff.2 hunit)]
    by_cases hmem : unit.id ∈ ids
    · rw [if_pos hmem, List.filter_cons, if_pos (decide_eq_true hmem)]
      cases hdecoded : decodedRow toGeo unit with
      | none =>
        rw [List.filterMap_cons_none hdecoded]
        rfl
      | some decoded =>
        rw [List.filterMap_cons_some hdecoded]
        rfl
    · rw [if_neg hmem, List.filter_cons, if_neg fun h => hmem (of_decide_eq_true h)]
      rfl

end GeometryRow

/-! ## The queries of valid rows -/

section Valid

variable {hfx : HfxUnit} {file : CatchmentFile}
  {idRowGroups : UnitId → Option (Fin file.rowGroups.length)} {store : CatchmentStore}

theorem queryByBbox_eq_scan (hopen : openObject hfx file idRowGroups = .ok store)
    (hbound : ∀ rowGroup ∈ file.rowGroups, rowGroup.StatisticsBound) (hvalid : file.Valid hfx)
    (queryBbox : UnitBox) :
    store.queryByBbox hfx queryBbox =
      .ok ((file.units hfx).filter (·.bbox.intersects queryBbox)) := by
  obtain rfl := file_of_openObject hopen
  rw [← toOption_eq_some_iff, CatchmentStore.toOption_queryByBbox (openObject_eq_ok hopen).1
    fun i hi => lt_of_mem_matching hopen hi, mapM_map_flatten_eq_some_iff]
  refine ⟨?_, ?_⟩
  · intro row hrow
    exact isSome_keptUnit_iff.2 (hvalid row (mem_fileRows_of_mem_selected hrow))
  · rw [CatchmentFile.units, ← flatMap_keptUnit]
    refine flatMap_selected _ (fun i hi => lt_of_mem_matching hopen hi) ?_
    intro i hi row hrow
    refine keptUnit_eq_nil ?_
    intro unit hunit hmeets
    exact hi (mem_matching_of_intersects hopen hbound hrow hunit hmeets)

theorem queryByIds_eq_scan (hopen : openObject hfx file idRowGroups = .ok store)
    (hindex : store.IndexesRows) (hvalid : file.Valid hfx) (ids : List UnitId) :
    store.queryByIds hfx ids =
      .ok (((file.units hfx).filter (·.id ∈ ids)).map CatchmentUnit.withoutLabels) := by
  obtain rfl := file_of_openObject hopen
  rw [← toOption_eq_some_iff, CatchmentStore.toOption_queryByIds (openObject_eq_ok hopen).1,
    mapM_map_flatten_eq_some_iff]
  refine ⟨?_, ?_⟩
  · intro row hrow
    obtain ⟨unit, hunit⟩ := hvalid row (mem_fileRows_of_mem_selected hrow)
    refine isSome_keptUnit_iff.2 ⟨unit.withoutLabels, ?_⟩
    rw [rowUnit_fullProjection, hunit]
    rfl
  · rw [CatchmentFile.units, ← flatMap_keptUnit_withoutLabels rowUnit_fullProjection _ (fun _ => rfl)]
    refine flatMap_selected _ (fun i hi => CatchmentStore.lt_of_mem_idRowGroups hi) ?_
    intro i hi row hrow
    refine keptUnit_eq_nil ?_
    intro unit hunit hmem
    have hid := (cell_eq_some (readFrom_of_rowUnit hunit).id).2
    exact hi (hindex.mem_selected hrow hid (of_decide_eq_true hmem))

variable {Polygon : Type} {toGeo : List UInt8 → Except String (GeoGeometry Polygon)}

theorem queryGeometriesByIds_eq_scan (hopen : openObject hfx file idRowGroups = .ok store)
    (hindex : store.IndexesRows) (hvalid : file.Valid hfx) {ids : List UnitId}
    (hdecodes : ∀ unit ∈ file.units hfx, unit.id ∈ ids → (decodedRow toGeo unit).isSome) :
    store.queryGeometriesByIds hfx toGeo ids =
      .ok (((file.units hfx).filter (·.id ∈ ids)).filterMap (decodedRow toGeo)) := by
  obtain rfl := file_of_openObject hopen
  have hrequired := (openObject_eq_ok hopen).1
  obtain ⟨hid, hgeometry⟩ := CatchmentStore.mem_geometryProjection hrequired
  rw [← toOption_eq_some_iff, CatchmentStore.toOption_queryGeometriesByIds hrequired,
    mapM_map_flatten_eq_some_iff]
  refine ⟨?_, ?_⟩
  · intro row hrow
    have hrow := mem_fileRows_of_mem_selected hrow
    obtain ⟨unit, hunit⟩ := hvalid row hrow
    rw [Option.isSome_map, toOption_rowGeometry hunit hid hgeometry]
    by_cases hmem : unit.id ∈ ids
    · rw [if_pos hmem, Option.isSome_map]
      exact hdecodes unit (List.mem_filterMap.2 ⟨row, hrow, rowUnit?_eq_some_iff.2 hunit⟩) hmem
    · rw [if_neg hmem]
      rfl
  · rw [CatchmentFile.units, ← flatMap_rowGeometry hid hgeometry hvalid]
    refine flatMap_selected _ (fun i hi => CatchmentStore.lt_of_mem_idRowGroups hi) ?_
    intro i hi row hrow
    obtain ⟨group, hgroup, -, hmem⟩ := mem_rows_of_mem_groupRows hrow
    obtain ⟨unit, hunit⟩ := hvalid row (List.mem_flatMap.2 ⟨group, hgroup, hmem⟩)
    have hcell := (cell_eq_some (readFrom_of_rowUnit hunit).id).2
    have hnot : unit.id ∉ ids := fun hmem => hi (hindex.mem_selected hrow hcell hmem)
    rw [toOption_rowGeometry hunit hid hgeometry, if_neg hnot]
    rfl

/-- **Queries are scans.** For every file that opens, every split into row groups and batches, stored
statistics that bound the rows and an index that maps each id to its row group: a bbox query returns the
units whose bbox intersects it, an id query the units whose id is listed, a geometry query their decoded
geometries, in file order and each once. -/
theorem queries_eq_scan (hfx : HfxUnit) (toGeo : List UInt8 → Except String (GeoGeometry Polygon))
    (file : CatchmentFile) (idRowGroups : UnitId → Option (Fin file.rowGroups.length))
    (store : CatchmentStore) (hopen : openObject hfx file idRowGroups = .ok store)
    (hindex : store.IndexesRows)
    (hbound : ∀ rowGroup ∈ file.rowGroups, rowGroup.StatisticsBound) (hvalid : file.Valid hfx) :
    (∀ queryBbox, store.queryByBbox hfx queryBbox =
      .ok ((file.units hfx).filter (·.bbox.intersects queryBbox))) ∧
    ∀ ids, store.queryByIds hfx ids =
        .ok (((file.units hfx).filter (·.id ∈ ids)).map CatchmentUnit.withoutLabels) ∧
      ((∀ unit ∈ file.units hfx, unit.id ∈ ids → (decodedRow toGeo unit).isSome) →
        store.queryGeometriesByIds hfx toGeo ids =
          .ok (((file.units hfx).filter (·.id ∈ ids)).filterMap (decodedRow toGeo))) :=
  ⟨queryByBbox_eq_scan hopen hbound hvalid, fun ids => ⟨queryByIds_eq_scan hopen hindex hvalid ids,
    queryGeometriesByIds_eq_scan hopen hindex hvalid⟩⟩

end Valid

/-! ### A file of two triangles -/

/-- `POLYGON ((0 0, 1 0, 0 1, 0 0))`. -/
def triangleWkb : List UInt8 :=
  [1, 3, 0, 0, 0, 1, 0, 0, 0, 4, 0, 0, 0] ++ List.replicate 16 0 ++
    [0, 0, 0, 0, 0, 0, 0xF0, 0x3F] ++ List.replicate 16 0 ++ [0, 0, 0, 0, 0, 0, 0xF0, 0x3F] ++
    List.replicate 16 0

/-- The decoder where the file needs it. -/
def triangleToGeo (wkb : List UInt8) : Except String (GeoGeometry (List (ℤ × ℤ))) :=
  if wkb = triangleWkb then .ok (.polygon [(0, 0), (1, 0), (0, 1), (0, 0)])
  else .error "unexpected end of input"

/-- Constructors that accept everything. -/
def acceptingHfxUnit : HfxUnit where
  unitId _ := none
  level _ := none
  areaKm2 _ := none
  outletCoord _ _ := none
  boundingBox _ _ _ _ := none
  wkbGeometry _ := none
  midpoint _ _ := 0x3FE0000000000000

/-- The triangle as a row, with the source id of the unit. -/
def triangleRow (id : ℤ) (sourceId : Option String) : CatchmentRow
  | .id => some id
  | .level => some 0
  | .parentId => none
  | .areaKm2 => some ⟨false, 0x3F000000⟩
  | .upAreaKm2 => none
  | .outletLon => none
  | .outletLat => none
  | .bboxXmin => some ⟨false, 0⟩
  | .bboxYmin => some ⟨false, 0⟩
  | .bboxXmax => some ⟨false, 0x3F800000⟩
  | .bboxYmax => some ⟨false, 0x3F800000⟩
  | .geometry => some triangleWkb
  | .sourceId => sourceId
  | .levelLabel => none

/-- Unit 7 in a row group with statistics, unit 9 in one without. -/
def triangleFile (sourceId : Option String) : CatchmentFile where
  columns := [.geometry, .id, .sourceId, .areaKm2, .upAreaKm2, .bboxXmin, .bboxYmin, .bboxXmax,
    .bboxYmax, .level]
  rowGroups := [
    { batches := [[triangleRow 7 sourceId]]
      statistics := ⟨some ⟨false, 0⟩, some ⟨false, 0⟩, some ⟨false, 0x3F800000⟩,
        some ⟨false, 0x3F800000⟩⟩ },
    { batches := [[triangleRow 9 sourceId]], statistics := ⟨none, none, none, none⟩ }]

def triangleBox : UnitBox := ⟨⟨false, 0⟩, ⟨false, 0⟩, ⟨false, 0x3F800000⟩, ⟨false, 0x3F800000⟩⟩

/-- The two triangles, each in its row group, the second one without statistics. -/
def triangleStore (sourceId : Option String) : CatchmentStore where
  file := triangleFile sourceId
  rowGroups := [⟨0, triangleBox⟩]
  groupsWithoutStats := [1]
  idRowGroups id :=
    if id = 7 then some ⟨0, Nat.zero_lt_two⟩ else if id = 9 then some ⟨1, Nat.one_lt_two⟩ else none

theorem openObject_triangleFile (sourceId : Option String) :
    openObject acceptingHfxUnit (triangleFile sourceId) (triangleStore sourceId).idRowGroups =
      .ok (triangleStore sourceId) := rfl

theorem triangleStore_indexesRows (sourceId : Option String) :
    (triangleStore sourceId).IndexesRows := by
  have hrow : ∀ (i : ℕ) (_ : i < 2), groupRows (triangleFile sourceId).rowGroups i =
      [triangleRow (if i = 0 then 7 else 9) sourceId] := by
    intro i hi
    interval_cases i <;> rfl
  intro id index
  obtain ⟨i, hi⟩ := index
  have hi : i < 2 := hi
  show (if id = 7 then some _ else if id = 9 then some _ else none) = some _ ↔
    ∃ row ∈ groupRows (triangleFile sourceId).rowGroups i, row .id = some id
  rw [hrow i hi]
  simp only [List.mem_singleton, exists_eq_left, triangleRow, Option.some.injEq]
  by_cases hid : id = 7
  · rw [if_pos hid, hid]
    interval_cases i
    · exact iff_of_true rfl rfl
    · exact iff_of_false (fun h => nomatch h) (by decide)
  · by_cases hid' : id = 9
    · rw [if_neg hid, if_pos hid', hid']
      interval_cases i
      · exact iff_of_false (fun h => nomatch h) (by decide)
      · exact iff_of_true rfl rfl
    · rw [if_neg hid, if_neg hid']
      refine iff_of_false (fun h => nomatch h) ?_
      intro h
      split at h
      · exact hid h.symm
      · exact hid' h.symm

theorem triangleFile_statisticsBound (sourceId : Option String) :
    ∀ rowGroup ∈ (triangleFile sourceId).rowGroups, rowGroup.StatisticsBound := by
  intro rowGroup hmem
  simp only [triangleFile, List.mem_cons, List.not_mem_nil, or_false] at hmem
  rcases hmem with rfl | rfl
  · have hrow : ∀ row ∈ [[triangleRow 7 sourceId]].flatten, row = triangleRow 7 sourceId :=
      fun row hrow => List.mem_singleton.1 hrow
    exact {
      minx := fun v hv row hmem c hc => by
        cases hv; cases hrow row hmem; cases hc; rfl
      miny := fun v hv row hmem c hc => by
        cases hv; cases hrow row hmem; cases hc; rfl
      maxx := fun v hv row hmem c hc => by
        cases hv; cases hrow row hmem; cases hc; rfl
      maxy := fun v hv row hmem c hc => by
        cases hv; cases hrow row hmem; cases hc; rfl }
  · exact {
      minx := fun _ hv => by cases hv
      miny := fun _ hv => by cases hv
      maxx := fun _ hv => by cases hv
      maxy := fun _ hv => by cases hv }

theorem triangleFile_valid (sourceId : Option String) :
    (triangleFile sourceId).Valid acceptingHfxUnit := by
  intro row hrow
  have hcases : row ∈ [triangleRow 7 sourceId, triangleRow 9 sourceId] := hrow
  simp only [List.mem_cons, List.not_mem_nil, or_false] at hcases
  rcases hcases with rfl | rfl
  · exact ⟨_, rfl⟩
  · exact ⟨_, rfl⟩

/-- The triangle as a unit. -/
def triangleUnit (id : ℤ) (sourceId : Option String) : CatchmentUnit where
  id
  level := 0
  parentId := none
  area := ⟨false, 0x3F000000⟩
  upstreamArea := none
  outlet := ⟨0x3FE0000000000000, 0x3FE0000000000000⟩
  bbox := triangleBox
  geometry := triangleWkb
  sourceId
  levelLabel := none

theorem queryByIds_triangleStore (sourceId : Option String) :
    (triangleStore sourceId).queryByIds acceptingHfxUnit [7] = .ok [triangleUnit 7 none] := by
  have hselected : (triangleStore sourceId).selectedRowGroupsForIds [7] = [0] := rfl
  rw [CatchmentStore.queryByIds, hselected]
  rfl

theorem queryByBbox_triangleStore (sourceId : Option String) :
    (triangleStore sourceId).queryByBbox acceptingHfxUnit triangleBox =
      .ok [triangleUnit 7 sourceId, triangleUnit 9 sourceId] := by
  have hmeets : triangleBox.intersects triangleBox = true := by decide
  have hunits : (triangleFile sourceId).units acceptingHfxUnit =
      [triangleUnit 7 sourceId, triangleUnit 9 sourceId] := rfl
  rw [queryByBbox_eq_scan (openObject_triangleFile sourceId) (triangleFile_statisticsBound sourceId)
    (triangleFile_valid sourceId), hunits]
  simp only [List.filter_cons, List.filter_nil, triangleUnit, hmeets, if_true]

/-- Unit 9 is returned once, although it is asked for twice and no unit 8 is there. -/
theorem queries_eq_scan_triangles :
    (triangleStore none).queryByIds acceptingHfxUnit [9, 8, 9] =
      .ok ((((triangleFile none).units acceptingHfxUnit).filter (·.id ∈ [(9 : ℤ), 8, 9])).map
        CatchmentUnit.withoutLabels) ∧
    ((((triangleFile none).units acceptingHfxUnit).filter (·.id ∈ [(9 : ℤ), 8, 9])).map (·.id)) = [9] :=
  ⟨((queries_eq_scan acceptingHfxUnit triangleToGeo (triangleFile none) _ (triangleStore none)
    (openObject_triangleFile none) (triangleStore_indexesRows none)
    (triangleFile_statisticsBound none) (triangleFile_valid none)).2 [9, 8, 9]).1, by decide⟩

/-! ### Files of one row group -/

/-- A row group without statistics. -/
def singleGroupFile (columns : List CatchmentColumn) (batches : List (List CatchmentRow)) :
    CatchmentFile where
  columns
  rowGroups := [{ batches, statistics := ⟨none, none, none, none⟩ }]

/-- A file of one row group without statistics, opened. -/
def singleGroupStore (columns : List CatchmentColumn) (batches : List (List CatchmentRow)) :
    CatchmentStore where
  file := singleGroupFile columns batches
  rowGroups := []
  groupsWithoutStats := [0]
  idRowGroups id := if ∃ row ∈ batches.flatten, row .id = some id then some ⟨0, Nat.zero_lt_one⟩ else none

section SingleGroup

variable (columns : List CatchmentColumn) (batches : List (List CatchmentRow))

theorem singleGroupStore_indexesRows : (singleGroupStore columns batches).IndexesRows := by
  intro id index
  obtain ⟨i, hi⟩ := index
  obtain rfl : i = 0 := Nat.lt_one_iff.1 hi
  show (if ∃ row ∈ batches.flatten, row .id = some id then some _ else none) = some _ ↔
    ∃ row ∈ batches.flatten, row .id = some id
  by_cases hid : ∃ row ∈ batches.flatten, row .id = some id
  · rw [if_pos hid]
    exact iff_of_true rfl hid
  · rw [if_neg hid]
    exact iff_of_false (fun h => nomatch h) hid

theorem singleGroupFile_statisticsBound :
    ∀ rowGroup ∈ (singleGroupFile columns batches).rowGroups, rowGroup.StatisticsBound := by
  intro rowGroup hmem
  obtain rfl := List.mem_singleton.1 hmem
  exact ⟨by simp, by simp, by simp, by simp⟩

end SingleGroup

/-! ## One row on every path -/

section Agreement

variable {hfx : HfxUnit} {file : CatchmentFile}
  {idRowGroups : UnitId → Option (Fin file.rowGroups.length)} {store : CatchmentStore}

theorem mem_keptUnit {columns : List CatchmentColumn} {keep : CatchmentUnit → Bool}
    {row : CatchmentRow} {unit : CatchmentUnit} (h : unit ∈ (keptUnit hfx columns keep row).getD []) :
    rowUnit hfx columns row = .ok unit := by
  unfold keptUnit at h
  cases hunit : rowUnit hfx columns row with
  | error reason =>
    rw [hunit] at h
    exact absurd h List.not_mem_nil
  | ok found =>
    rw [hunit, toOption_ok, Option.map_some, Option.getD_some] at h
    rw [List.mem_singleton.1 (List.mem_filter.1 h).1]

theorem mem_of_queryByIds (hopen : openObject hfx file idRowGroups = .ok store) {ids : List UnitId}
    {units : List CatchmentUnit} (h : store.queryByIds hfx ids = .ok units) {unit : CatchmentUnit}
    (hunit : unit ∈ units) :
    ∃ row ∈ store.file.rows, rowUnit hfx store.fullProjection row = .ok unit := by
  rw [← toOption_eq_some_iff, CatchmentStore.toOption_queryByIds (openObject_eq_ok hopen).1,
    mapM_map_flatten_eq_some_iff] at h
  obtain ⟨-, rfl⟩ := h
  obtain ⟨row, hrow, hunit⟩ := List.mem_flatMap.1 hunit
  exact ⟨row, mem_fileRows_of_mem_selected hrow, mem_keptUnit hunit⟩

theorem mem_of_queryByBbox (hopen : openObject hfx file idRowGroups = .ok store)
    {queryBbox : UnitBox} {units : List CatchmentUnit}
    (h : store.queryByBbox hfx queryBbox = .ok units) {unit : CatchmentUnit} (hunit : unit ∈ units) :
    ∃ row ∈ store.file.rows, rowUnit hfx store.file.columns row = .ok unit := by
  rw [← toOption_eq_some_iff, CatchmentStore.toOption_queryByBbox (openObject_eq_ok hopen).1
    fun i hi => lt_of_mem_matching hopen hi, mapM_map_flatten_eq_some_iff] at h
  obtain ⟨-, rfl⟩ := h
  obtain ⟨row, hrow, hunit⟩ := List.mem_flatMap.1 hunit
  exact ⟨row, mem_fileRows_of_mem_selected hrow, mem_keptUnit hunit⟩

variable {Polygon : Type} {toGeo : List UInt8 → Except String (GeoGeometry Polygon)}

/-- A geometry that `query_geometries_by_ids` returns is decoded from a row of the file. -/
theorem mem_of_queryGeometriesByIds (hopen : openObject hfx file idRowGroups = .ok store)
    {ids : List UnitId} {decoded : List (DecodedCatchmentGeometryRow Polygon)}
    (h : store.queryGeometriesByIds hfx toGeo ids = .ok decoded)
    {geometry : DecodedCatchmentGeometryRow Polygon} (hmem : geometry ∈ decoded) :
    geometry.id ∈ ids ∧ ∃ row ∈ store.file.rows, row .id = some geometry.id ∧
      ∃ wkb, row .geometry = some wkb ∧
        decodeWkbMultiPolygonBytes toGeo wkb = .ok geometry.geometry := by
  rw [← toOption_eq_some_iff, CatchmentStore.toOption_queryGeometriesByIds (openObject_eq_ok hopen).1,
    mapM_map_flatten_eq_some_iff] at h
  obtain ⟨-, rfl⟩ := h
  obtain ⟨row, hrow, hmem⟩ := List.mem_flatMap.1 hmem
  cases hfound : rowGeometry hfx toGeo store.geometryProjection ids row with
  | error reason =>
    rw [hfound] at hmem
    exact absurd hmem List.not_mem_nil
  | ok found =>
    rw [hfound] at hmem
    obtain ⟨id, hid, -, hwkb⟩ := rowGeometry_eq_ok_iff.1 hfound
    by_cases hrequested : id ∈ ids
    · rw [if_pos hrequested] at hwkb
      obtain ⟨wkb, hwkb, polygons, hdecode, rfl⟩ := hwkb
      obtain rfl := List.mem_singleton.1 hmem
      exact ⟨hrequested, row, mem_fileRows_of_mem_selected hrow, (cell_eq_some hid).2, wkb,
        (cell_eq_some hwkb).2, hdecode⟩
    · rw [if_neg hrequested] at hwkb
      cases hwkb
      exact absurd hmem List.not_mem_nil

/-- **One row on every path.** The unit that `query_by_ids` returns for an id is the one that
`query_by_bbox` returns exactly when the row has neither label, which the projection of `query_by_ids`
leaves out; its geometry decodes to what `query_geometries_by_ids` returns. -/
theorem readByIds_eq_readByBbox_iff (toGeo : List UInt8 → Except String (GeoGeometry Polygon))
    (hopen : openObject hfx file idRowGroups = .ok store)
    (hunique : (file.rows.map fun row => row .id).Nodup) {ids : List UnitId} {queryBbox : UnitBox}
    {byIds byBbox : List CatchmentUnit} (hids : store.queryByIds hfx ids = .ok byIds)
    (hbbox : store.queryByBbox hfx queryBbox = .ok byBbox) {u v : CatchmentUnit} (hu : u ∈ byIds)
    (hv : v ∈ byBbox) {row : CatchmentRow} (hrow : row ∈ file.rows) (hrowu : row .id = some u.id)
    (hrowv : row .id = some v.id) :
    (u = v ∧ ∀ requested decoded, store.queryGeometriesByIds hfx toGeo requested = .ok decoded →
        ∀ geometry ∈ decoded, geometry.id = u.id →
          decodeWkbMultiPolygonBytes toGeo u.geometry = .ok geometry.geometry) ↔
      row.cell file.columns .sourceId = none ∧ row.cell file.columns .levelLabel = none := by
  obtain rfl := file_of_openObject hopen
  -- A row is determined by its id.
  have hsame : ∀ other ∈ store.file.rows, ∀ id, other .id = some id → row .id = some id → other = row := by
    intro other hother id hotherId hid
    exact List.inj_on_of_nodup_map hunique hother hrow (hotherId.trans hid.symm)
  obtain ⟨rowu, hmemu, hunitu⟩ := mem_of_queryByIds hopen hids hu
  obtain rfl := hsame rowu hmemu u.id (cell_eq_some (readFrom_of_rowUnit hunitu).id).2 hrowu
  obtain ⟨rowv, hmemv, hunitv⟩ := mem_of_queryByBbox hopen hbbox hv
  obtain rfl := hsame rowv hmemv v.id (cell_eq_some (readFrom_of_rowUnit hunitv).id).2 hrowv
  have hwithout : v.withoutLabels = u := by
    rw [rowUnit_fullProjection, hunitv] at hunitu
    exact Except.ok.inj hunitu
  have hgeometry : ∀ requested decoded,
      store.queryGeometriesByIds hfx toGeo requested = .ok decoded →
        ∀ geometry ∈ decoded, geometry.id = u.id →
          decodeWkbMultiPolygonBytes toGeo u.geometry = .ok geometry.geometry := by
    intro requested decoded hdecoded geometry hmem hid
    obtain ⟨-, other, hother, hotherId, wkb, hwkb, hdecode⟩ :=
      mem_of_queryGeometriesByIds hopen hdecoded hmem
    obtain rfl := hsame other hother u.id (hid ▸ hotherId) hrowu
    rw [(cell_eq_some (readFrom_of_rowUnit hunitu).geometry).2] at hwkb
    cases hwkb
    exact hdecode
  have hread := readFrom_of_rowUnit hunitv
  rw [and_iff_left hgeometry, hread.sourceId, hread.levelLabel, ← hwithout]
  exact CatchmentUnit.withoutLabels_eq_self_iff

end Agreement

/-- A row without labels reads the same on both paths. -/
theorem readByIds_eq_readByBbox_triangle :
    (triangleStore none).queryByIds acceptingHfxUnit [7] = .ok [triangleUnit 7 none] ∧
      (triangleUnit 7 none = triangleUnit 7 none ∧
        ∀ requested decoded,
          (triangleStore none).queryGeometriesByIds acceptingHfxUnit triangleToGeo requested =
            .ok decoded → ∀ geometry ∈ decoded, geometry.id = 7 →
              decodeWkbMultiPolygonBytes triangleToGeo triangleWkb = .ok geometry.geometry) :=
  ⟨queryByIds_triangleStore none, (readByIds_eq_readByBbox_iff triangleToGeo
    (openObject_triangleFile none) (by decide) (queryByIds_triangleStore none)
    (queryByBbox_triangleStore none) List.mem_cons_self List.mem_cons_self
    (show triangleRow 7 none ∈ (triangleFile none).rows from List.mem_cons_self) rfl rfl).2 ⟨rfl, rfl⟩⟩

/-- The same row with a source id: only `query_by_bbox` returns it. -/
theorem not_readByIds_eq_readByBbox :
    ¬∀ (file : CatchmentFile) (idRowGroups : UnitId → Option (Fin file.rowGroups.length))
      (store : CatchmentStore), openObject acceptingHfxUnit file idRowGroups = .ok store →
      (file.rows.map fun row => row .id).Nodup →
      ∀ ids queryBbox byIds byBbox, store.queryByIds acceptingHfxUnit ids = .ok byIds →
        store.queryByBbox acceptingHfxUnit queryBbox = .ok byBbox →
        ∀ u ∈ byIds, ∀ v ∈ byBbox, u.id = v.id → u = v := by
  intro h
  have heq := h (triangleFile (some "gauge-7")) _ (triangleStore (some "gauge-7"))
    (openObject_triangleFile _) (by decide) [7] triangleBox _ _ (queryByIds_triangleStore _)
    (queryByBbox_triangleStore _) _ List.mem_cons_self _ List.mem_cons_self rfl
  have hlabel := congrArg CatchmentUnit.sourceId heq
  cases hlabel

end Pourpoint
