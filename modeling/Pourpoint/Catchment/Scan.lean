import Pourpoint.Catchment.Store

/-!
# Queries are scans

Every query of an open store returns what a scan of the whole file would. `toOption_readRowGroups` says
what reading the selected row groups gives: the rows of the groups in order, each read once. The
selection leaves out only groups with no row that the filter keeps.
-/

namespace Pourpoint

open Library

/-! ## Opening -/

/-- The columns that an open file has. -/
def requiredColumns : List CatchmentColumn :=
  [.id, .areaKm2, .upAreaKm2, .bboxXmin, .bboxYmin, .bboxXmax, .bboxYmax, .geometry]

section Open

variable {hfx : HfxUnit} {file : CatchmentFile}
  {idRowGroups : UnitId → Option (Fin file.rowGroups.length)} {store : CatchmentStore}

theorem validateBboxStructField_eq_ok :
    validateBboxStructField file = .ok () ↔ ∀ column ∈ bboxColumns, column ∈ file.columns := by
  rw [validateBboxStructField, failWhen_bind_eq_ok_iff, failWhen_eq_ok_iff]
  constructor
  · intro h column hcolumn
    by_contra habsent
    exact h.2 ⟨column, hcolumn, habsent⟩
  · intro h
    refine ⟨?_, ?_⟩
    · intro habsent
      exact habsent .bboxXmin (by decide) (h .bboxXmin (by decide))
    · rintro ⟨column, hcolumn, habsent⟩
      exact habsent (h column hcolumn)

theorem openObject_eq_ok (h : openObject hfx file idRowGroups = .ok store) :
    (∀ column ∈ requiredColumns, column ∈ store.file.columns) ∧ store = {
      file
      rowGroups := file.rowGroups.zipIdx.filterMap fun rowGroup =>
        (extractRowGroupBbox hfx rowGroup.1.statistics).map (⟨rowGroup.2, ·⟩)
      groupsWithoutStats := file.rowGroups.zipIdx.filterMap fun rowGroup =>
        if extractRowGroupBbox hfx rowGroup.1.statistics = none then some rowGroup.2 else none
      idRowGroups } := by
  unfold openObject requireColumn at h
  simp only [failWhen_bind_eq_ok_iff, not_not] at h
  obtain ⟨hid, harea, hup, h⟩ := h
  obtain ⟨_, hbbox, h⟩ := bind_eq_ok_iff.1 h
  obtain ⟨hgeometry, h⟩ := failWhen_bind_eq_ok_iff.1 h
  rw [not_not] at hgeometry
  have hbbox := validateBboxStructField_eq_ok.1 hbbox
  cases h
  refine ⟨?_, rfl⟩
  intro column hcolumn
  simp only [requiredColumns, List.mem_cons, List.not_mem_nil, or_false] at hcolumn
  rcases hcolumn with rfl | rfl | rfl | rfl | rfl | rfl | rfl | rfl
  · exact hid
  · exact harea
  · exact hup
  · exact hbbox _ (by decide)
  · exact hbbox _ (by decide)
  · exact hbbox _ (by decide)
  · exact hbbox _ (by decide)
  · exact hgeometry

end Open

/-! ## Projections -/

theorem mem_projectLeaves {columns : List CatchmentColumn} {indices : List ℕ}
    {column : CatchmentColumn} :
    column ∈ projectLeaves columns indices ↔ ∃ i ∈ indices, columns[i]? = some column := by
  unfold projectLeaves
  simp only [List.mem_map, List.mem_filter, decide_eq_true_iff, Prod.exists, exists_and_right,
    exists_eq_right, List.mk_mem_zipIdx_iff_getElem?]
  exact ⟨fun ⟨i, h, hi⟩ => ⟨i, hi, h⟩, fun ⟨i, hi, h⟩ => ⟨i, h, hi⟩⟩

section Projection

variable {columns : List CatchmentColumn}

theorem getElem?_of_idxOf? {column : CatchmentColumn} {i : ℕ} (h : columns.idxOf? column = some i) :
    columns[i]? = some column := by
  obtain ⟨hi, heq, -⟩ := List.idxOf?_eq_some_iff.1 h
  rw [List.getElem?_eq_getElem hi, heq]

theorem exists_idxOf? {column : CatchmentColumn} (h : column ∈ columns) :
    ∃ i, columns.idxOf? column = some i :=
  Option.isSome_iff_exists.1 (List.isSome_idxOf?.2 h)

/-- The projection to the positions of some columns has those of them that the file has. -/
theorem mem_projectLeaves_idxOf? {wanted : List CatchmentColumn} {column : CatchmentColumn} :
    column ∈ projectLeaves columns (wanted.filterMap columns.idxOf?) ↔
      column ∈ wanted ∧ column ∈ columns := by
  rw [mem_projectLeaves]
  constructor
  · intro h
    obtain ⟨i, hi, hget⟩ := h
    obtain ⟨other, hother, hidx⟩ := List.mem_filterMap.1 hi
    rw [getElem?_of_idxOf? hidx] at hget
    cases hget
    exact ⟨hother, List.mem_of_getElem? (getElem?_of_idxOf? hidx)⟩
  · intro h
    obtain ⟨i, hi⟩ := exists_idxOf? h.2
    exact ⟨i, List.mem_filterMap.2 ⟨column, h.1, hi⟩, getElem?_of_idxOf? hi⟩

/-- The columns of `full_projection_indices` in its order. -/
def fullProjectionColumns : List CatchmentColumn :=
  [.id, .level, .parentId, .outletLon, .outletLat, .areaKm2, .upAreaKm2, .bboxXmin, .bboxYmin,
    .bboxXmax, .bboxYmax, .geometry]

theorem namedColumnIndex_of_mem {column : CatchmentColumn} (h : column ∈ columns) :
    ∃ i, columns.idxOf? column = some i ∧ namedColumnIndex columns column = .ok i := by
  obtain ⟨i, hi⟩ := exists_idxOf? h
  exact ⟨i, hi, by rw [namedColumnIndex, hi]; rfl⟩

theorem fullProjectionIndices_eq_ok (h : ∀ column ∈ requiredColumns, column ∈ columns) :
    fullProjectionIndices columns = .ok (fullProjectionColumns.filterMap columns.idxOf?) := by
  obtain ⟨idIndex, hid, hidOk⟩ := namedColumnIndex_of_mem (h .id (by decide))
  obtain ⟨areaIndex, harea, hareaOk⟩ := namedColumnIndex_of_mem (h .areaKm2 (by decide))
  obtain ⟨upIndex, hup, hupOk⟩ := namedColumnIndex_of_mem (h .upAreaKm2 (by decide))
  obtain ⟨geometryIndex, hgeometry, hgeometryOk⟩ := namedColumnIndex_of_mem (h .geometry (by decide))
  obtain ⟨minx, hminx⟩ := exists_idxOf? (h .bboxXmin (by decide))
  obtain ⟨miny, hminy⟩ := exists_idxOf? (h .bboxYmin (by decide))
  obtain ⟨maxx, hmaxx⟩ := exists_idxOf? (h .bboxXmax (by decide))
  obtain ⟨maxy, hmaxy⟩ := exists_idxOf? (h .bboxYmax (by decide))
  have hbbox : bboxStructLeafIndices columns = .ok [minx, miny, maxx, maxy] := by
    simp only [bboxStructLeafIndices, bboxColumns, List.map_cons, List.map_nil, hminx, hminy, hmaxx,
      hmaxy]
    rfl
  unfold fullProjectionIndices
  rw [hidOk, hbbox, hareaOk, hupOk, hgeometryOk]
  simp only [fullProjectionColumns, List.filterMap_cons, hid, harea, hup, hminx, hminy, hmaxx, hmaxy,
    hgeometry, List.filterMap_nil]
  show Except.ok _ = Except.ok _
  cases columns.idxOf? .level <;> cases columns.idxOf? .parentId <;>
    cases columns.idxOf? .outletLon <;> cases columns.idxOf? .outletLat <;> rfl

theorem geometryProjectionIndices_eq_ok (h : ∀ column ∈ requiredColumns, column ∈ columns) :
    geometryProjectionIndices columns =
      .ok (([.id, .geometry] : List CatchmentColumn).filterMap columns.idxOf?) := by
  obtain ⟨idIndex, hid, hidOk⟩ := namedColumnIndex_of_mem (h .id (by decide))
  obtain ⟨geometryIndex, hgeometry, hgeometryOk⟩ := namedColumnIndex_of_mem (h .geometry (by decide))
  unfold geometryProjectionIndices
  rw [hidOk, hgeometryOk]
  simp only [List.filterMap_cons, hid, hgeometry, List.filterMap_nil]
  rfl

end Projection

/-! ## Batches and row groups -/

section Read

variable {ε β : Type} {lift : SessionError → ε} {extract : List CatchmentRow → ℕ → Except ε (List β)}
  {f : CatchmentRow → Option (List β)}

/-- The rows of a row group, none when there is no such group. -/
def groupRows (rowGroups : List RowGroup) (index : ℕ) : List CatchmentRow :=
  (rowGroups[index]?).elim [] RowGroup.rows

theorem mapM_zipIdx {δ : Type} (g : CatchmentRow → Option δ) (batch : List CatchmentRow) (row : ℕ) :
    ((batch.zipIdx row).mapM fun x => g x.1) = batch.mapM g := by
  have h := List.mapM_map (m := Option) (f := Prod.fst) (g := g) (l := batch.zipIdx row)
  rw [List.zipIdx_map_fst] at h
  exact h.symm

theorem toOption_readBatches
    (hextract : ∀ batch row, (extract batch row).toOption = (batch.mapM f).map List.flatten)
    (batches : List (List CatchmentRow)) (row : ℕ) :
    (readBatches extract batches row).toOption = (batches.flatten.mapM f).map List.flatten := by
  induction batches generalizing row with
  | nil => rfl
  | cons batch batches ih =>
    rw [readBatches, toOption_bind, hextract, List.flatten_cons, List.mapM_append]
    simp only [toOption_bind, ih, toOption_ok]
    cases batch.mapM f with
    | none => rfl
    | some bs =>
      cases batches.flatten.mapM f with
      | none => rfl
      | some bss => simp

theorem length_absoluteRowStarts (selected : List ℕ) (rowGroups : List RowGroup)
    (index cumulative : ℕ) :
    (absoluteRowStarts selected rowGroups index cumulative).length =
      ((List.range' index rowGroups.length).filter (· ∈ selected)).length := by
  induction rowGroups generalizing index cumulative with
  | nil => rfl
  | cons rowGroup rowGroups ih =>
    rw [absoluteRowStarts, List.length_append, ih, List.length_cons, List.range'_succ]
    by_cases hmem : index ∈ selected
    · simp [hmem, Nat.add_comm]
    · simp [hmem]

/-- **Reading.** The selected row groups give their rows in order, each read once. -/
theorem toOption_readRowGroups
    (hextract : ∀ batch row, (extract batch row).toOption = (batch.mapM f).map List.flatten)
    {rowGroups : List RowGroup} {indices : List ℕ} (hindices : ∀ i ∈ indices, i < rowGroups.length) :
    (readRowGroups lift extract rowGroups (sortDedup indices)).toOption =
      (((sortDedup indices).flatMap (groupRows rowGroups)).mapM f).map List.flatten := by
  have hlength : (sortDedup indices).length ≤
      (absoluteRowStarts (sortDedup indices) rowGroups 0 0).length := by
    have hmem : (List.range rowGroups.length).filter (· ∈ sortDedup indices) =
        (List.range rowGroups.length).filter (· ∈ indices) := by simp only [mem_sortDedup]
    rw [length_absoluteRowStarts, ← List.range_eq_range', hmem, sortDedup_eq_filter_range hindices]
  have hgroup : ∀ start ∈ (sortDedup indices).zip
      (absoluteRowStarts (sortDedup indices) rowGroups 0 0),
      (readRowGroup lift extract rowGroups start.1 start.2).toOption =
        ((groupRows rowGroups start.1).mapM f).map List.flatten := by
    intro start hstart
    have hlt := hindices start.1 (mem_sortDedup.1 (List.of_mem_zip hstart).1)
    rw [readRowGroup, groupRows, List.getElem?_eq_getElem hlt]
    exact toOption_readBatches hextract _ _
  have hfst := List.mapM_map (m := Option) (f := Prod.fst)
    (g := fun i => ((groupRows rowGroups i).mapM f).map List.flatten)
    (l := (sortDedup indices).zip (absoluteRowStarts (sortDedup indices) rowGroups 0 0))
  rw [List.map_fst_zip hlength] at hfst
  rw [readRowGroups, toOption_bind, toOption_mapM, mapM_congr hgroup]
  show Option.bind (List.mapM ((fun i => ((groupRows rowGroups i).mapM f).map List.flatten) ∘ Prod.fst)
    _) _ = _
  rw [← hfst, ← mapM_map_flatten]
  exact Option.map_eq_bind.symm

end Read

/-! ## Batches of units and of geometries -/

section Extract

variable {hfx : HfxUnit} {columns : List CatchmentColumn}

/-- The unit of a row when the filter keeps it. -/
def keptUnit (hfx : HfxUnit) (columns : List CatchmentColumn) (keep : CatchmentUnit → Bool)
    (row : CatchmentRow) : Option (List CatchmentUnit) :=
  (rowUnit hfx columns row).toOption.map fun unit => [unit].filter keep

theorem checkUnitColumns_eq_ok (h : ∀ column ∈ requiredColumns, column ∈ columns) :
    checkUnitColumns columns = .ok () := by
  have hbbox : ∀ column ∈ bboxColumns, column ∈ columns := by
    intro column hcolumn
    refine h column ?_
    revert column
    decide
  unfold checkUnitColumns
  simp only [failWhen_bind_eq_ok_iff, forM_bind_eq_ok_iff, failWhen_eq_ok_iff, not_not]
  exact ⟨h _ (by decide), h _ (by decide), h _ (by decide),
    fun habsent => habsent .bboxXmin (by decide) (h _ (by decide)), hbbox, h _ (by decide)⟩

theorem toOption_extractUnits (h : ∀ column ∈ requiredColumns, column ∈ columns)
    (keep : CatchmentUnit → Bool) (batch : List CatchmentRow) (row : ℕ) :
    (do let units ← extractUnitsFromBatch hfx columns batch row
        .ok (units.filter keep) : Except SessionError _).toOption =
      (batch.mapM (keptUnit hfx columns keep)).map List.flatten := by
  have hfilter : List.filter keep = List.flatMap fun unit => [unit].filter keep := by
    funext units
    induction units with
    | nil => rfl
    | cons unit units ih => rw [List.flatMap_cons, ← ih, ← List.filter_append]; rfl
  rw [toOption_bind, extractUnitsFromBatch, checkUnitColumns_eq_ok h]
  show Option.bind (List.mapM _ (batch.zipIdx row) : Except SessionError _).toOption _ = _
  simp only [toOption_mapM, toOption_mapError, toOption_ok,
    mapM_zipIdx (fun row => (rowUnit hfx columns row).toOption)]
  rw [hfilter]
  exact Option.map_eq_bind.symm.trans (mapM_map_flatMap _ _ _)

end Extract

section ExtractGeometry

variable {hfx : HfxUnit} {columns : List CatchmentColumn} {Polygon : Type}
  {toGeo : List UInt8 → Except String (GeoGeometry Polygon)}

theorem toOption_extractGeometries (hid : .id ∈ columns) (hgeometry : .geometry ∈ columns)
    (ids : List UnitId) (batch : List CatchmentRow) (row : ℕ) :
    (extractDecodedGeometriesFromBatch hfx toGeo columns ids batch row).toOption =
      (batch.mapM fun row =>
        (rowGeometry hfx toGeo columns ids row).toOption.map Option.toList).map List.flatten := by
  have hreduce : ∀ rows : List (Option (DecodedCatchmentGeometryRow Polygon)),
      rows.reduceOption = rows.flatMap Option.toList := by
    intro rows
    induction rows with
    | nil => rfl
    | cons row rows ih =>
      cases row with
      | none => rw [List.reduceOption_cons_of_none, ih]; rfl
      | some row => rw [List.reduceOption_cons_of_some, ih]; rfl
  unfold extractDecodedGeometriesFromBatch failWhen
  simp only [hid, hgeometry, not_true_eq_false, if_false]
  show (List.mapM _ (batch.zipIdx row) >>= fun rows =>
    (.ok (List.reduceOption rows) : Except CatchmentGeometryQueryError _)).toOption = _
  simp only [toOption_bind, toOption_mapM, toOption_mapError, toOption_ok, hreduce,
    mapM_zipIdx (fun row => (rowGeometry hfx toGeo columns ids row).toOption)]
  exact Option.map_eq_bind.symm.trans (mapM_map_flatMap _ _ _)

end ExtractGeometry

/-! ## Queries -/

namespace CatchmentStore

variable {hfx : HfxUnit} {store : CatchmentStore}

/-- The rows of the row groups that the index names for some ids. -/
def rowsForIds (store : CatchmentStore) (ids : List UnitId) : List CatchmentRow :=
  (store.selectedRowGroupsForIds ids).flatMap (groupRows store.file.rowGroups)

/-- The columns that `query_by_ids` reads. -/
def fullProjection (store : CatchmentStore) : List CatchmentColumn :=
  projectLeaves store.file.columns (fullProjectionColumns.filterMap store.file.columns.idxOf?)

/-- The columns that `query_geometries_by_ids` reads. -/
def geometryProjection (store : CatchmentStore) : List CatchmentColumn :=
  projectLeaves store.file.columns
    (([.id, .geometry] : List CatchmentColumn).filterMap store.file.columns.idxOf?)

theorem lt_of_mem_idRowGroups {ids : List UnitId} {i : ℕ}
    (h : i ∈ ids.filterMap fun id => (store.idRowGroups id).map (·.val)) :
    i < store.file.rowGroups.length := by
  obtain ⟨id, -, hid⟩ := List.mem_filterMap.1 h
  obtain ⟨index, -, rfl⟩ := Option.map_eq_some_iff.1 hid
  exact index.isLt

theorem isEmpty_ids_or (ids : List UnitId) :
    (ids.isEmpty || (store.selectedRowGroupsForIds ids).isEmpty) =
      (store.selectedRowGroupsForIds ids).isEmpty := by
  cases ids with
  | nil => rfl
  | cons id ids => rfl

theorem toOption_queryByIds (h : ∀ column ∈ requiredColumns, column ∈ store.file.columns)
    (ids : List UnitId) :
    (store.queryByIds hfx ids).toOption =
      ((store.rowsForIds ids).mapM
        (keptUnit hfx store.fullProjection (·.id ∈ ids))).map List.flatten := by
  have hprojected : ∀ column ∈ requiredColumns, column ∈ store.fullProjection := by
    intro column hcolumn
    refine mem_projectLeaves_idxOf?.2 ⟨?_, h column hcolumn⟩
    revert column
    decide
  simp only [queryByIds, isEmpty_ids_or, rowsForIds]
  by_cases hempty : (store.selectedRowGroupsForIds ids).isEmpty
  · rw [if_pos hempty, List.isEmpty_iff.1 hempty]
    rfl
  · rw [if_neg hempty, fullProjectionIndices_eq_ok h]
    exact toOption_readRowGroups (toOption_extractUnits hprojected _)
      fun i hi => lt_of_mem_idRowGroups hi

theorem mem_geometryProjection (h : ∀ column ∈ requiredColumns, column ∈ store.file.columns) :
    .id ∈ store.geometryProjection ∧ .geometry ∈ store.geometryProjection :=
  ⟨mem_projectLeaves_idxOf?.2 ⟨by decide, h _ (by decide)⟩,
    mem_projectLeaves_idxOf?.2 ⟨by decide, h _ (by decide)⟩⟩

theorem toOption_queryGeometriesByIds {Polygon : Type}
    {toGeo : List UInt8 → Except String (GeoGeometry Polygon)}
    (h : ∀ column ∈ requiredColumns, column ∈ store.file.columns) (ids : List UnitId) :
    (store.queryGeometriesByIds hfx toGeo ids).toOption =
      ((store.rowsForIds ids).mapM fun row =>
        (rowGeometry hfx toGeo store.geometryProjection ids row).toOption.map Option.toList).map
          List.flatten := by
  obtain ⟨hid, hgeometry⟩ := mem_geometryProjection h
  simp only [queryGeometriesByIds, isEmpty_ids_or, rowsForIds]
  by_cases hempty : (store.selectedRowGroupsForIds ids).isEmpty
  · rw [if_pos hempty, List.isEmpty_iff.1 hempty]
    rfl
  · rw [if_neg hempty, geometryProjectionIndices_eq_ok h]
    exact toOption_readRowGroups (toOption_extractGeometries hid hgeometry ids)
      fun i hi => lt_of_mem_idRowGroups hi

theorem toOption_queryByBbox (h : ∀ column ∈ requiredColumns, column ∈ store.file.columns)
    {queryBbox : UnitBox}
    (hindices : ∀ i ∈ (store.rowGroups.filter (·.bbox.intersects queryBbox)).map (·.index) ++
      store.groupsWithoutStats, i < store.file.rowGroups.length) :
    (store.queryByBbox hfx queryBbox).toOption =
      (((store.matchingRowGroups queryBbox).flatMap (groupRows store.file.rowGroups)).mapM
        (keptUnit hfx store.file.columns (·.bbox.intersects queryBbox))).map List.flatten := by
  simp only [queryByBbox]
  by_cases hempty : (store.matchingRowGroups queryBbox).isEmpty
  · rw [if_pos hempty, List.isEmpty_iff.1 hempty]
    rfl
  · rw [if_neg hempty]
    exact toOption_readRowGroups (toOption_extractUnits h _) hindices

end CatchmentStore

end Pourpoint
