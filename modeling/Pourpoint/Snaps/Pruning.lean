import Pourpoint.Snaps.Scan

/-!
# Pruning of row groups by a box query

A box query reads the row groups whose statistics meet the query and filters their rows by a padded box.
The padding of a degenerate axis goes one float step beyond the row, and beyond the row group when the
row lies at its maximum; the box of the group is not padded. So the query returns what a scan of all row
groups returns exactly when it does not touch such padding alone (`SnapStore.queryByBbox_eq_scan_iff`).
-/

namespace Pourpoint

open Library

variable {reader : SnapReader} {file : SnapFile} {store : SnapStore}

/-! ## Candidate row groups -/

/-- The box by which a row group of an opened file is pruned. -/
def SnapFile.groupBox (reader : SnapReader) (file : SnapFile) (rowGroup : SnapRowGroup) :
    Option UnitBox :=
  rowGroupBox reader (file.schema.column? "bbox").isSome rowGroup.statistics

namespace SnapStore

theorem openObject_eq_ok (h : openObject reader file = .ok store) :
    checkSnapSchema file.schema = .ok () ∧ store = {
      file
      rowGroups := file.rowGroups.zipIdx.filterMap fun rowGroup =>
        (file.groupBox reader rowGroup.1).map (⟨rowGroup.2, ·⟩)
      groupsWithoutStats := file.rowGroups.zipIdx.filterMap fun rowGroup =>
        if file.groupBox reader rowGroup.1 = none then some rowGroup.2 else none } := by
  obtain ⟨u, hcheck, hstore⟩ := bind_eq_ok_iff.1 h
  exact ⟨hcheck, (Except.ok.inj hstore).symm⟩

theorem file_of_openObject (h : openObject reader file = .ok store) : store.file = file := by
  rw [(openObject_eq_ok h).2]

theorem mem_rowGroups (h : openObject reader file = .ok store) {i : ℕ} {box : UnitBox} :
    ⟨i, box⟩ ∈ store.rowGroups ↔
      ∃ rowGroup, file.rowGroups[i]? = some rowGroup ∧ file.groupBox reader rowGroup = some box := by
  rw [(openObject_eq_ok h).2]
  simp only [List.mem_filterMap, Option.map_eq_some_iff, SnapRowGroupBbox.mk.injEq, Prod.exists,
    List.mk_mem_zipIdx_iff_getElem?]
  constructor
  · intro h
    obtain ⟨rowGroup, j, hget, box', hbox, rfl, rfl⟩ := h
    exact ⟨rowGroup, hget, hbox⟩
  · intro h
    obtain ⟨rowGroup, hget, hbox⟩ := h
    exact ⟨rowGroup, i, hget, box, hbox, rfl, rfl⟩

theorem mem_groupsWithoutStats (h : openObject reader file = .ok store) {i : ℕ} :
    i ∈ store.groupsWithoutStats ↔
      ∃ rowGroup, file.rowGroups[i]? = some rowGroup ∧ file.groupBox reader rowGroup = none := by
  rw [(openObject_eq_ok h).2]
  simp only [List.mem_filterMap, Option.ite_none_right_eq_some, Option.some.injEq, Prod.exists,
    List.mk_mem_zipIdx_iff_getElem?]
  constructor
  · intro h
    obtain ⟨rowGroup, j, hget, hbox, rfl⟩ := h
    exact ⟨rowGroup, hget, hbox⟩
  · intro h
    obtain ⟨rowGroup, hget, hbox⟩ := h
    exact ⟨rowGroup, i, hget, hbox, rfl⟩

/-- A group is a candidate unless it has a box that fails the test. -/
theorem mem_candidates (h : openObject reader file = .ok store) {meets : UnitBox → Bool} {i : ℕ} :
    i ∈ store.candidates meets ↔ ∃ rowGroup, file.rowGroups[i]? = some rowGroup ∧
      ∀ box, file.groupBox reader rowGroup = some box → meets box = true := by
  rw [candidates, List.mem_insertionSort, List.mem_append, mem_groupsWithoutStats h]
  simp only [List.mem_map, List.mem_filter]
  constructor
  · intro hi
    rcases hi with ⟨entry, ⟨hmem, hmeets⟩, rfl⟩ | ⟨rowGroup, hget, hnone⟩
    · obtain ⟨rowGroup, hget, hbox⟩ := (mem_rowGroups h).1 hmem
      refine ⟨rowGroup, hget, fun box hbox' => ?_⟩
      rwa [Option.some.inj (hbox'.symm.trans hbox)]
    · exact ⟨rowGroup, hget, fun box hbox => nomatch hnone.symm.trans hbox⟩
  · intro hi
    obtain ⟨rowGroup, hget, hmeets⟩ := hi
    cases hbox : file.groupBox reader rowGroup with
    | none => exact Or.inr ⟨rowGroup, hget, hbox⟩
    | some box => exact Or.inl ⟨⟨i, box⟩, ⟨(mem_rowGroups h).2 ⟨rowGroup, hget, hbox⟩, hmeets box hbox⟩, rfl⟩

/-- A row of a group that is no candidate is in a pruned group. -/
theorem pruned_of_notMem_candidates (h : openObject reader file = .ok store) {meets : UnitBox → Bool}
    {i : ℕ} (hi : i ∉ store.candidates meets) {row : SnapRow} (hrow : row ∈ partAt file.parts i) :
    ∃ rowGroup ∈ file.rowGroups, row ∈ rowGroup.rows ∧
      ∃ box, file.groupBox reader rowGroup = some box ∧ ¬meets box = true := by
  cases hget : file.rowGroups[i]? with
  | none =>
    rw [partAt, SnapFile.parts, List.getElem?_map, hget] at hrow
    exact absurd hrow List.not_mem_nil
  | some rowGroup =>
    rw [partAt_parts hget] at hrow
    rw [mem_candidates h] at hi
    push Not at hi
    obtain ⟨box, hbox, hmisses⟩ := hi rowGroup hget
    exact ⟨rowGroup, List.mem_of_getElem? hget, hrow, box, hbox, hmisses⟩

theorem nodup_indices (h : openObject reader file = .ok store) :
    (store.rowGroups.map (·.index) ++ store.groupsWithoutStats).Nodup := by
  refine List.Nodup.append ?_ ?_ ?_
  · rw [(openObject_eq_ok h).2]
    refine nodup_map_index ?_ file.rowGroups
    intro x entry hentry
    obtain ⟨box, -, rfl⟩ := Option.map_eq_some_iff.1 hentry
    rfl
  · have hid : ((file.rowGroups.zipIdx.filterMap fun rowGroup =>
        if file.groupBox reader rowGroup.1 = none then some rowGroup.2 else none).map id).Nodup :=
      nodup_map_index (by
        intro x i hi
        split_ifs at hi
        exact (Option.some.inj hi).symm) file.rowGroups
    rw [List.map_id] at hid
    rw [(openObject_eq_ok h).2]
    exact hid
  · intro i hi hi'
    obtain ⟨entry, hentry, rfl⟩ := List.mem_map.1 hi
    obtain ⟨rowGroup, hget, hbox⟩ := (mem_rowGroups h).1 hentry
    obtain ⟨rowGroup', hget', hnone⟩ := (mem_groupsWithoutStats h).1 hi'
    rw [Option.some.inj (hget.symm.trans hget')] at hbox
    exact nomatch hnone.symm.trans hbox

theorem candidates_eq_filter_range (h : openObject reader file = .ok store)
    (meets : UnitBox → Bool) : store.candidates meets =
      (List.range file.parts.length).filter (· ∈ store.candidates meets) := by
  refine insertionSort_eq_filter_range ?_ ?_
  · refine (nodup_indices h).sublist (List.Sublist.append_right ?_ _)
    exact (List.filter_sublist).map _
  · intro i hi
    have hmem : i ∈ store.candidates meets := (List.mem_insertionSort (· ≤ ·)).2 hi
    obtain ⟨rowGroup, hget, -⟩ := (mem_candidates h).1 hmem
    rw [length_parts]
    exact (List.getElem?_eq_some_iff.1 hget).1

end SnapStore

/-! ## Statistics -/

/-- The statistics of a leaf are true: no row is null when the number of nulls is zero, and the extreme
value bounds the values and is one of them. -/
structure LeafTrue (rows : List SnapRow) (leaf : BboxLeaves → Option F32) (bounds : F32 → F32 → Bool)
    (statistics : LeafStatistics) : Prop where
  noNulls : statistics.nullCount = some 0 → ∀ row ∈ rows, ∃ leaves value,
    row.bbox = some leaves ∧ leaf leaves = some value
  bound : ∀ extreme, statistics.extreme = some extreme → ∀ row ∈ rows, ∀ leaves value,
    row.bbox = some leaves → leaf leaves = some value → value.isNan = false →
      bounds extreme value = true
  attained : ∀ extreme, statistics.extreme = some extreme → ∃ row ∈ rows, ∃ leaves value,
    row.bbox = some leaves ∧ leaf leaves = some value ∧ value.eq extreme = true

/-- The statistics of a row group are the true minima and maxima of the leaves. -/
structure SnapRowGroup.StatisticsTrue (rowGroup : SnapRowGroup) : Prop where
  minx : LeafTrue rowGroup.rows BboxLeaves.xmin F32.le rowGroup.statistics.minx
  miny : LeafTrue rowGroup.rows BboxLeaves.ymin F32.le rowGroup.statistics.miny
  maxx : LeafTrue rowGroup.rows BboxLeaves.xmax (fun extreme value => value.le extreme)
    rowGroup.statistics.maxx
  maxy : LeafTrue rowGroup.rows BboxLeaves.ymax (fun extreme value => value.le extreme)
    rowGroup.statistics.maxy

/-- Four leaves that are not null. -/
def BboxLeaves.ofBounds (bounds : SnapBounds) : BboxLeaves :=
  ⟨some bounds.xmin, some bounds.ymin, some bounds.xmax, some bounds.ymax⟩

theorem groupBox_eq_some {rowGroup : SnapRowGroup} {box : UnitBox}
    (h : file.groupBox reader rowGroup = some box) :
    (∀ leaf ∈ [rowGroup.statistics.minx, rowGroup.statistics.miny, rowGroup.statistics.maxx,
      rowGroup.statistics.maxy], leaf.nullCount = some 0) ∧
    rowGroup.statistics.minx.extreme = some box.minx ∧
    rowGroup.statistics.miny.extreme = some box.miny ∧
    rowGroup.statistics.maxx.extreme = some box.maxx ∧
    rowGroup.statistics.maxy.extreme = some box.maxy ∧
    reader.boundingBox box.minx box.miny box.maxx box.maxy = none := by
  simp only [SnapFile.groupBox, rowGroupBox, Option.ite_none_right_eq_some, Bool.and_eq_true] at h
  obtain ⟨⟨-, hnulls⟩, hbbox⟩ := h
  simp only [SnapStatistics.bbox, Option.bind_eq_bind, Option.bind_eq_some_iff,
    Option.ite_none_right_eq_some, Option.some.injEq] at hbbox
  obtain ⟨minx, hminx, miny, hminy, maxx, hmaxx, maxy, hmaxy, haccepted, rfl⟩ := hbbox
  refine ⟨fun leaf hleaf => ?_, hminx, hminy, hmaxx, hmaxy, haccepted⟩
  exact of_decide_eq_true (List.all_eq_true.1 hnulls leaf hleaf)

/-- The rows of a group with a box have four leaves. -/
theorem bounds_of_groupBox {rowGroup : SnapRowGroup} (htrue : rowGroup.StatisticsTrue) {box : UnitBox}
    (hbox : file.groupBox reader rowGroup = some box) {row : SnapRow} (hrow : row ∈ rowGroup.rows) :
    ∃ bounds, row.bbox = some (.ofBounds bounds) := by
  obtain ⟨hnulls, -⟩ := groupBox_eq_some hbox
  obtain ⟨leaves, xmin, hleaves, hxmin⟩ := htrue.minx.noNulls (hnulls _ (by simp)) row hrow
  obtain ⟨leaves₂, ymin, hleaves₂, hymin⟩ := htrue.miny.noNulls (hnulls _ (by simp)) row hrow
  obtain ⟨leaves₃, xmax, hleaves₃, hxmax⟩ := htrue.maxx.noNulls (hnulls _ (by simp)) row hrow
  obtain ⟨leaves₄, ymax, hleaves₄, hymax⟩ := htrue.maxy.noNulls (hnulls _ (by simp)) row hrow
  obtain rfl := Option.some.inj (hleaves.symm.trans hleaves₂)
  obtain rfl := Option.some.inj (hleaves.symm.trans hleaves₃)
  obtain rfl := Option.some.inj (hleaves.symm.trans hleaves₄)
  refine ⟨⟨xmin, ymin, xmax, ymax⟩, hleaves.trans (congrArg some ?_)⟩
  cases leaves
  simp_all [BboxLeaves.ofBounds]

/-- The four sides of supplied bounds, none of them `NaN`. -/
structure SnapBounds.Numbers (bounds : SnapBounds) : Prop where
  xmin : bounds.xmin.isNan = false
  ymin : bounds.ymin.isNan = false
  xmax : bounds.xmax.isNan = false
  ymax : bounds.ymax.isNan = false

/-- The box of a group covers the bounds of its rows. -/
structure CoversBounds (box : UnitBox) (bounds : SnapBounds) : Prop where
  xmin : box.minx.le bounds.xmin = true
  ymin : box.miny.le bounds.ymin = true
  xmax : bounds.xmax.le box.maxx = true
  ymax : bounds.ymax.le box.maxy = true

theorem coversBounds_of_groupBox {rowGroup : SnapRowGroup} (htrue : rowGroup.StatisticsTrue)
    {box : UnitBox} (hbox : file.groupBox reader rowGroup = some box) {row : SnapRow}
    (hrow : row ∈ rowGroup.rows) {bounds : SnapBounds} (hbounds : row.bbox = some (.ofBounds bounds))
    (hnumbers : bounds.Numbers) : CoversBounds box bounds := by
  obtain ⟨-, hminx, hminy, hmaxx, hmaxy, -⟩ := groupBox_eq_some hbox
  exact {
    xmin := htrue.minx.bound _ hminx row hrow _ _ hbounds rfl hnumbers.xmin
    ymin := htrue.miny.bound _ hminy row hrow _ _ hbounds rfl hnumbers.ymin
    xmax := htrue.maxx.bound _ hmaxx row hrow _ _ hbounds rfl hnumbers.xmax
    ymax := htrue.maxy.bound _ hmaxy row hrow _ _ hbounds rfl hnumbers.ymax }

/-! ## Box queries -/

/-- One axis of supplied bounds that pass validation. -/
structure AxisValid (min max limit : F32) : Prop where
  min_finite : min.isFinite = true
  max_finite : max.isFinite = true
  le_limit : limit.lt max = false
  sorted : max.lt min = false

/-- The bounds pass `SnapBounds::new`. -/
structure SnapBounds.Valid (bounds : SnapBounds) : Prop where
  x : AxisValid bounds.xmin bounds.xmax degrees180
  y : AxisValid bounds.ymin bounds.ymax degrees90

theorem SnapBounds.Valid.numbers {bounds : SnapBounds} (h : bounds.Valid) : bounds.Numbers :=
  ⟨F32.isNan_of_isFinite h.x.min_finite, F32.isNan_of_isFinite h.y.min_finite,
    F32.isNan_of_isFinite h.x.max_finite, F32.isNan_of_isFinite h.y.max_finite⟩

theorem valid_of_validBounds {bounds : SnapBounds}
    (h : (validBounds reader (some (.ofBounds bounds))).isSome = true) :
    validBounds reader (some (.ofBounds bounds)) = some (some bounds) ∧ bounds.Valid := by
  have heq : validBounds reader (some (.ofBounds bounds)) =
      (checkSnapBounds reader bounds 0).toOption.map some := toOption_map _ _
  rw [heq] at h ⊢
  unfold checkSnapBounds at h ⊢
  split_ifs at h ⊢ with hbad
  · cases h
  · simp only [not_or, not_not, Bool.not_eq_true] at hbad
    obtain ⟨⟨hxmin, hymin, hxmax, hymax⟩, -, hx, -, hy, hxs, hys⟩ := hbad
    exact ⟨rfl, ⟨hxmin, hxmax, hx, hxs⟩, ⟨hymin, hymax, hy, hys⟩⟩

/-- A valid row with supplied bounds is kept by a box query when its padded box meets the query. -/
theorem rowTarget?_ofBounds {row : SnapRow} {bounds : SnapBounds} {query : UnitBox}
    (hbounds : row.bbox = some (.ofBounds bounds)) {kept : Option SnapTargetRow}
    (h : rowTarget? reader (.boundingBox query) row = some kept) :
    bounds.Valid ∧ (kept.isSome ↔ (paddedBox bounds).intersects query = true) := by
  simp only [rowTarget?, Option.bind_eq_bind, Option.bind_eq_some_iff] at h
  obtain ⟨id, -, unitId, -, weight, -, wkb, -, -, -, geometry, -, supplied, hsupplied, box, hbox, h⟩ := h
  rw [hbounds] at hsupplied
  obtain ⟨hsome, hvalid⟩ := valid_of_validBounds (Option.isSome_of_eq_some hsupplied)
  obtain rfl := Option.some.inj (hsome.symm.trans hsupplied)
  have hpadded : box = some (paddedBox bounds) := by
    have hmap : validBox reader (.boundingBox query) (some bounds) geometry =
        (snapBbox reader bounds 0).toOption.map some := toOption_map _ _
    rw [hmap, Option.map_eq_some_iff] at hbox
    obtain ⟨padded, hpadded, rfl⟩ := hbox
    rw [toOption_eq_some_iff, snapBbox] at hpadded
    split at hpadded
    · exact congrArg some (Except.ok.inj hpadded).symm
    · cases hpadded
  subst hpadded
  refine ⟨hvalid, ?_⟩
  have hmatches : filterMatches reader (.boundingBox query) (some (paddedBox bounds)) geometry =
      (paddedBox bounds).intersects query := rfl
  rw [hmatches] at h
  by_cases hmeets : (paddedBox bounds).intersects query = true
  · simp only [hmeets, Bool.not_true, Bool.false_eq_true, if_false, Option.bind_eq_some_iff,
      Option.some.injEq] at h
    obtain ⟨-, -, -, -, -, -, role, -, rfl⟩ := h
    exact iff_of_true rfl hmeets
  · simp only [hmeets, Bool.not_false, if_true, Option.some.injEq] at h
    subst h
    exact iff_of_false Bool.false_ne_true hmeets

/-- A degenerate axis at the maximum of its row group, below the limit, and a query that starts one
float step above. -/
def TouchesPadding (min max limit groupMax queryMin : F32) : Prop :=
  min.eq max = true ∧ max.eq limit = false ∧ max.eq groupMax = true ∧
    queryMin.eq groupMax.nextUp = true

/-- The three cases of `padAxis`. -/
theorem padAxis_cases {min max limit : F32} (hvalid : AxisValid min max limit) :
    (min.numericKey < max.numericKey ∧ padAxis min max limit = (min, max)) ∨
    (min.numericKey = max.numericKey ∧ max.numericKey = limit.numericKey ∧
      padAxis min max limit = (min.nextDown, max)) ∨
    (min.eq max = true ∧ max.eq limit = false ∧ padAxis min max limit = (min, max.nextUp)) := by
  have hmin := F32.isNan_of_isFinite hvalid.min_finite
  have hmax := F32.isNan_of_isFinite hvalid.max_finite
  have hsorted : min.numericKey ≤ max.numericKey := by
    by_contra h
    exact Bool.false_ne_true (hvalid.sorted.symm.trans (F32.lt_iff.2 ⟨hmax, hmin, not_le.1 h⟩))
  by_cases heq : min.eq max = true
  · have hkey := (F32.eq_iff.1 heq).2.2
    by_cases hatlimit : max.eq limit = true
    · refine Or.inr (Or.inl ⟨hkey, (F32.eq_iff.1 hatlimit).2.2, ?_⟩)
      simp [padAxis, heq, hatlimit]
    · refine Or.inr (Or.inr ⟨heq, by simpa using hatlimit, ?_⟩)
      simp [padAxis, heq, hatlimit]
  · refine Or.inl ⟨lt_of_le_of_ne hsorted fun h => heq (F32.eq_iff.2 ⟨hmin, hmax, h⟩), ?_⟩
    simp [padAxis, heq]

/-- When the padded axis of a row meets a query, its row group meets it too or the query only touches the
padding above the group. -/
theorem group_meets_or_touchesPadding {min max limit groupMin groupMax queryMin queryMax : F32}
    (hvalid : AxisValid min max limit) (hmin : groupMin.le min = true)
    (hmax : max.le groupMax = true) (hextent : groupMin.lt groupMax = true)
    (hlimit : groupMax.le limit = true) (hlow : (padAxis min max limit).1.le queryMax = true)
    (hhigh : queryMin.le (padAxis min max limit).2 = true) :
    groupMin.le queryMax = true ∧
      (queryMin.le groupMax = true ∨ TouchesPadding min max limit groupMax queryMin) := by
  obtain ⟨hgmin, -, hmin⟩ := F32.le_iff.1 hmin
  obtain ⟨-, hgmax, hmax⟩ := F32.le_iff.1 hmax
  obtain ⟨-, -, hextent⟩ := F32.lt_iff.1 hextent
  obtain ⟨-, -, hlimit⟩ := F32.le_iff.1 hlimit
  obtain ⟨-, hqmax, hlow⟩ := F32.le_iff.1 hlow
  obtain ⟨hqmin, -, hhigh⟩ := F32.le_iff.1 hhigh
  have hup := (F32.nextUp_of_isFinite hvalid.max_finite).1
  have hdown := (F32.nextDown_of_isFinite hvalid.min_finite).1
  rcases padAxis_cases hvalid with ⟨-, hpad⟩ | ⟨hkey, hatlimit, hpad⟩ | ⟨heq, hne, hpad⟩ <;>
    rw [hpad] at hlow hhigh <;> dsimp only at hlow hhigh
  · exact ⟨F32.le_iff.2 ⟨hgmin, hqmax, by omega⟩, Or.inl (F32.le_iff.2 ⟨hqmin, hgmax, by omega⟩)⟩
  · exact ⟨F32.le_iff.2 ⟨hgmin, hqmax, by omega⟩, Or.inl (F32.le_iff.2 ⟨hqmin, hgmax, by omega⟩)⟩
  · refine ⟨F32.le_iff.2 ⟨hgmin, hqmax, by omega⟩, ?_⟩
    by_cases hinside : queryMin.numericKey ≤ groupMax.numericKey
    · exact Or.inl (F32.le_iff.2 ⟨hqmin, hgmax, hinside⟩)
    · have hgkey : max.numericKey = groupMax.numericKey := by omega
      have hmaxnum := F32.isNan_of_isFinite hvalid.max_finite
      have hgroup : max.eq groupMax = true := F32.eq_iff.2 ⟨hmaxnum, hgmax, hgkey⟩
      have hgfinite : groupMax.isFinite = true := F32.isFinite_of_eq hvalid.max_finite hgroup
      obtain ⟨hgup, hgupnum⟩ := F32.nextUp_of_isFinite hgfinite
      exact Or.inr ⟨heq, hne, hgroup, F32.eq_iff.2 ⟨hqmin, hgupnum, by omega⟩⟩

/-- Such a query does not meet the row group. -/
theorem TouchesPadding.misses {min max limit groupMax queryMin : F32} (hfinite : max.isFinite = true)
    (h : TouchesPadding min max limit groupMax queryMin) : queryMin.le groupMax = false := by
  obtain ⟨-, -, hgroup, hquery⟩ := h
  have hgup := (F32.nextUp_of_isFinite (F32.isFinite_of_eq hfinite hgroup)).1
  have hkey := (F32.eq_iff.1 hquery).2.2
  refine Bool.eq_false_iff.2 fun hle => ?_
  have := (F32.le_iff.1 hle).2.2
  omega

/-- The query meets the padded box of the bounds in nothing but the padding. -/
def TouchesOnlyPadding (box : UnitBox) (bounds : SnapBounds) (query : UnitBox) : Prop :=
  (paddedBox bounds).intersects query = true ∧
    (TouchesPadding bounds.xmin bounds.xmax degrees180 box.maxx query.minx ∨
      TouchesPadding bounds.ymin bounds.ymax degrees90 box.maxy query.miny)

theorem TouchesOnlyPadding.misses {box : UnitBox} {bounds : SnapBounds} {query : UnitBox}
    (hvalid : bounds.Valid) (h : TouchesOnlyPadding box bounds query) :
    box.intersects query = false := by
  refine Bool.eq_false_iff.2 fun hmeets => ?_
  simp only [UnitBox.intersects, Bool.and_eq_true] at hmeets
  rcases h.2 with hx | hy
  · exact Bool.false_ne_true ((hx.misses hvalid.x.max_finite).symm.trans hmeets.1.1.2)
  · exact Bool.false_ne_true ((hy.misses hvalid.y.max_finite).symm.trans hmeets.2)

/-- A box with an extent on both axes, inside the EPSG:4326 limits at the upper end. -/
structure GroupBoxValid (box : UnitBox) : Prop where
  x_extent : box.minx.lt box.maxx = true
  y_extent : box.miny.lt box.maxy = true
  x_limit : box.maxx.le degrees180 = true
  y_limit : box.maxy.le degrees90 = true

/-- A row whose padded box meets the query is in a row group that meets it, unless the query touches only
the padding. -/
theorem group_meets_or_touchesOnlyPadding {box : UnitBox} {bounds : SnapBounds} {query : UnitBox}
    (hvalid : bounds.Valid) (hcovers : CoversBounds box bounds) (hbox : GroupBoxValid box)
    (hmeets : (paddedBox bounds).intersects query = true) :
    box.intersects query = true ∨ TouchesOnlyPadding box bounds query := by
  have hmeets' := hmeets
  simp only [UnitBox.intersects, Bool.and_eq_true, paddedBox] at hmeets'
  obtain ⟨⟨⟨hlowx, hhighx⟩, hlowy⟩, hhighy⟩ := hmeets'
  obtain ⟨hx, hx'⟩ := group_meets_or_touchesPadding hvalid.x hcovers.xmin hcovers.xmax hbox.x_extent
    hbox.x_limit hlowx hhighx
  obtain ⟨hy, hy'⟩ := group_meets_or_touchesPadding hvalid.y hcovers.ymin hcovers.ymax hbox.y_extent
    hbox.y_limit hlowy hhighy
  rcases hx' with hx' | htouch
  · rcases hy' with hy' | htouch
    · left
      simp [UnitBox.intersects, hx, hx', hy, hy']
    · exact Or.inr ⟨hmeets, Or.inr htouch⟩
  · exact Or.inr ⟨hmeets, Or.inl htouch⟩

theorem le_limit_of_attained {rows : List SnapRow} {leaf : BboxLeaves → Option F32}
    {below : F32 → F32 → Bool} {statistics : LeafStatistics} {extreme limit : F32}
    (htrue : LeafTrue rows leaf below statistics) (hextreme : statistics.extreme = some extreme)
    (hvalid : ∀ row ∈ rows, ∀ leaves value, row.bbox = some leaves → leaf leaves = some value →
      value.le limit = true) : extreme.le limit = true := by
  obtain ⟨row, hrow, leaves, value, hleaves, hvalue, heq⟩ := htrue.attained extreme hextreme
  obtain ⟨-, hnum, hkey⟩ := F32.eq_iff.1 heq
  obtain ⟨-, hlimit, hle⟩ := F32.le_iff.1 (hvalid row hrow leaves value hleaves hvalue)
  exact F32.le_iff.2 ⟨hnum, hlimit, by omega⟩

theorem AxisValid.le_limit' {min max limit : F32} (h : AxisValid min max limit)
    (hlimit : limit.isNan = false) : max.le limit = true := by
  have hmax := F32.isNan_of_isFinite h.max_finite
  refine F32.le_iff.2 ⟨hmax, hlimit, not_lt.1 fun hlt => ?_⟩
  exact Bool.false_ne_true (h.le_limit.symm.trans (F32.lt_iff.2 ⟨hlimit, hmax, hlt⟩))

/-- The box of a group of valid rows, when a bounding box must have an extent. -/
theorem groupBoxValid {rowGroup : SnapRowGroup} (htrue : rowGroup.StatisticsTrue) {box : UnitBox}
    (hstrict : ∀ minx miny maxx maxy, reader.boundingBox minx miny maxx maxy = none →
      minx.lt maxx = true ∧ miny.lt maxy = true)
    (hbox : file.groupBox reader rowGroup = some box)
    (hvalid : ∀ row ∈ rowGroup.rows, ∀ bounds, row.bbox = some (.ofBounds bounds) → bounds.Valid) :
    GroupBoxValid box := by
  obtain ⟨-, -, -, hmaxx, hmaxy, haccepted⟩ := groupBox_eq_some hbox
  obtain ⟨hx, hy⟩ := hstrict _ _ _ _ haccepted
  refine ⟨hx, hy, le_limit_of_attained htrue.maxx hmaxx ?_, le_limit_of_attained htrue.maxy hmaxy ?_⟩
  · intro row hrow leaves value hleaves hvalue
    obtain ⟨bounds, hbounds⟩ := bounds_of_groupBox htrue hbox hrow
    obtain rfl := Option.some.inj (hleaves.symm.trans hbounds)
    obtain rfl := Option.some.inj hvalue
    exact (hvalid row hrow bounds hbounds).x.le_limit' (by decide)
  · intro row hrow leaves value hleaves hvalue
    obtain ⟨bounds, hbounds⟩ := bounds_of_groupBox htrue hbox hrow
    obtain rfl := Option.some.inj (hleaves.symm.trans hbounds)
    obtain rfl := Option.some.inj hvalue
    exact (hvalid row hrow bounds hbounds).y.le_limit' (by decide)

namespace SnapStore

/-- The scan of all row groups with the filter of a box query. -/
def scanByBbox (reader : SnapReader) (store : SnapStore) (queryBbox : UnitBox) :
    Except SnapReadError (List SnapTarget) := do
  let rows ← store.readTargets reader 1024 (.boundingBox queryBbox)
    (List.range store.file.rowGroups.length)
  .ok (rows.map (·.target))

/-- What selected row groups give, when all their rows are valid. -/
theorem readTargets_eq_ok_iff {size : ℕ} {filter : SnapRowFilter} {selected : List ℕ}
    (hselected : selected = (List.range store.file.parts.length).filter (· ∈ selected))
    {rows : List SnapTargetRow} : store.readTargets reader size filter selected = .ok rows ↔
      (∀ row ∈ selected.flatMap (partAt store.file.parts), (rowTargets? reader filter row).isSome) ∧
        (selected.flatMap (partAt store.file.parts)).flatMap
          (fun row => (rowTargets? reader filter row).getD []) = rows := by
  rw [← toOption_eq_some_iff, readTargets, toOption_readSelected (toOption_extractBatch filter) hselected,
    mapM_map_flatten_eq_some_iff]

theorem range_eq_filter (n : ℕ) : List.range n = (List.range n).filter (· ∈ List.range n) :=
  (List.filter_eq_self.2 fun _ hi => decide_eq_true hi).symm

/-- What the rows of the selected groups give, when the whole file can be scanned. -/
theorem queryByBbox_of_scan (hopen : openObject reader file = .ok store) {queryBbox : UnitBox}
    (hall : ∀ row ∈ file.rows, (rowTargets? reader (.boundingBox queryBbox) row).isSome) :
    store.queryByBbox reader queryBbox =
      .ok ((((store.candidates (·.intersects queryBbox)).flatMap (partAt file.parts)).flatMap fun row =>
        (rowTargets? reader (.boundingBox queryBbox) row).getD []).map (·.target)) := by
  obtain rfl := file_of_openObject hopen
  have hrows : ∀ row ∈ (store.candidates (·.intersects queryBbox)).flatMap (partAt store.file.parts),
      (rowTargets? reader (.boundingBox queryBbox) row).isSome := by
    intro row hrow
    obtain ⟨i, -, hmem⟩ := List.mem_flatMap.1 hrow
    exact hall row (mem_flatten_of_mem_partAt hmem)
  have hread : store.readTargets reader 1024 (.boundingBox queryBbox)
      (store.candidates (·.intersects queryBbox)) = .ok _ :=
    (readTargets_eq_ok_iff (candidates_eq_filter_range hopen (·.intersects queryBbox))).2
      ⟨hrows, rfl⟩
  rw [queryByBbox]
  split_ifs with hnil
  · rw [hnil]
    rfl
  · rw [hread]
    rfl

/-- **Box queries.** When the scan of the whole file returns, the query returns the same targets exactly
if it touches no row of a pruned group in its padding alone. -/
theorem queryByBbox_eq_scan_iff (hopen : openObject reader file = .ok store)
    (hstrict : ∀ minx miny maxx maxy, reader.boundingBox minx miny maxx maxy = none →
      minx.lt maxx = true ∧ miny.lt maxy = true)
    (htrue : ∀ rowGroup ∈ file.rowGroups, rowGroup.StatisticsTrue) {queryBbox : UnitBox}
    {targets : List SnapTarget} (hscan : store.scanByBbox reader queryBbox = .ok targets) :
    store.queryByBbox reader queryBbox = .ok targets ↔
      ¬∃ rowGroup ∈ file.rowGroups, ∃ box, file.groupBox reader rowGroup = some box ∧
        ∃ row ∈ rowGroup.rows, ∃ bounds, row.bbox = some (.ofBounds bounds) ∧
          TouchesOnlyPadding box bounds queryBbox := by
  have hfile := file_of_openObject hopen
  obtain ⟨rows, hread, htargets⟩ := bind_eq_ok_iff.1 hscan
  obtain rfl := Except.ok.inj htargets
  rw [← length_parts, readTargets_eq_ok_iff (range_eq_filter _), ← flatten_eq_flatMap_partAt,
    hfile] at hread
  obtain ⟨hall, rfl⟩ := hread
  have hvalid : ∀ row ∈ file.rows, ∀ bounds, row.bbox = some (.ofBounds bounds) → bounds.Valid ∧
      (((rowTargets? reader (.boundingBox queryBbox) row).getD [] ≠ []) ↔
        (paddedBox bounds).intersects queryBbox = true) := by
    intro row hrow bounds hbounds
    obtain ⟨list, hlist⟩ := Option.isSome_iff_exists.1 (hall row hrow)
    obtain ⟨kept, hkept, rfl⟩ := Option.map_eq_some_iff.1 hlist
    obtain ⟨hvalid, hiff⟩ := rowTarget?_ofBounds hbounds hkept
    refine ⟨hvalid, Iff.trans ?_ hiff⟩
    rw [hlist]
    cases kept <;> simp
  have hgroupRow : ∀ {rowGroup row}, rowGroup ∈ file.rowGroups → row ∈ rowGroup.rows →
      row ∈ file.rows := fun hmem hrow => List.mem_flatten.2 ⟨_, List.mem_map_of_mem hmem, hrow⟩
  have hselected := candidates_eq_filter_range hopen (·.intersects queryBbox)
  rw [queryByBbox_of_scan hopen hall]
  constructor
  · intro hsame hhit
    obtain ⟨rowGroup, hmem, box, hbox, row, hrow, bounds, hbounds, htouch⟩ := hhit
    obtain ⟨hbvalid, hkept⟩ := hvalid row (hgroupRow hmem hrow) bounds hbounds
    obtain ⟨i, hi⟩ := List.mem_iff_getElem?.1 hmem
    have hnot : i ∉ store.candidates (·.intersects queryBbox) := by
      intro hcandidate
      obtain ⟨other, hother, hmeets⟩ := (mem_candidates hopen).1 hcandidate
      obtain rfl := Option.some.inj (hi.symm.trans hother)
      exact Bool.false_ne_true ((htouch.misses hbvalid).symm.trans (hmeets box hbox))
    have hlt := length_flatMap_selectedParts_lt (fun row =>
        (rowTargets? reader (.boundingBox queryBbox) row).getD []) hselected
      (by rw [length_parts]; exact (List.getElem?_eq_some_iff.1 hi).1) hnot
      (by rw [partAt_parts hi]; exact hrow) (hkept.2 htouch.1)
    have hlength := congrArg List.length (Except.ok.inj hsame)
    rw [List.length_map, List.length_map] at hlength
    exact absurd hlength hlt.ne
  · intro hnone
    refine congrArg (fun rows : List SnapTargetRow => Except.ok (rows.map (·.target))) ?_
    refine flatMap_selectedParts _ hselected ?_
    intro i hi row hrow
    obtain ⟨rowGroup, hmem, hrow, box, hbox, hmisses⟩ := pruned_of_notMem_candidates hopen hi hrow
    by_contra hkept
    obtain ⟨bounds, hbounds⟩ := bounds_of_groupBox (htrue _ hmem) hbox hrow
    obtain ⟨hbvalid, hiff⟩ := hvalid row (hgroupRow hmem hrow) bounds hbounds
    have hboxValid := groupBoxValid (htrue _ hmem) hstrict hbox fun row hrow bounds hbounds =>
      (hvalid row (hgroupRow hmem hrow) bounds hbounds).1
    have hcovers := coversBounds_of_groupBox (htrue _ hmem) hbox hrow hbounds hbvalid.numbers
    rcases group_meets_or_touchesOnlyPadding hbvalid hcovers hboxValid (hiff.1 hkept) with hin | htouch
    · exact hmisses hin
    · exact hnone ⟨rowGroup, hmem, box, hbox, row, hrow, bounds, hbounds, htouch⟩

end SnapStore

/-! ### Two points -/

theorem F64.lt_self (x : F64) : x.lt x = false := by
  simp [F64.lt]

/-- The rectangle of a point. -/
def pointRect (c : F64Coord) : F64Rect := ⟨c, c, F64.lt_self c.x, F64.lt_self c.y⟩

/-- `POINT (1 1)` and `POINT (2 2)`. -/
def pointWkb (leading : List UInt8) : List UInt8 :=
  [1, 1, 0, 0, 0] ++ List.replicate 6 0 ++ leading ++ List.replicate 6 0 ++ leading

def wkbOne : List UInt8 := pointWkb [0xF0, 0x3F]

def wkbTwo : List UInt8 := pointWkb [0, 0x40]

/-- The constructors and the geometry functions where the two points need them. -/
def pointReader : SnapReader where
  snapId _ := none
  unitId _ := none
  weight _ := none
  boundingBox minx miny maxx maxy :=
    if minx.lt maxx && miny.lt maxy then none else some "minimum must be below maximum"
  wkbGeometry _ := none
  stemRole value := if value = "mainstem" then some .mainstem else none
  toGeo wkb :=
    if wkb = wkbOne then .ok (.point ⟨.finite 1, .finite 1⟩)
    else if wkb = wkbTwo then .ok (.point ⟨.finite 2, .finite 2⟩)
    else .error "unexpected end of input"
  boundingRect
    | .point c => some (pointRect c)
    | _ => none
  intersects
    | .point c, rect => (pointRect c).intersectInclusive rect
    | _, _ => false
  display _ := ""

def one32 : F32 := ⟨false, 0x3F800000⟩

def two32 : F32 := ⟨false, 0x40000000⟩

def three32 : F32 := ⟨false, 0x40400000⟩

/-- A point with its degenerate bounds. -/
def pointRow (id : ℤ) (v : F32) (wkb : List UInt8) : SnapRow where
  id := some id
  unitId := some 7
  weight := some one32
  stemRole := none
  bbox := some ⟨some v, some v, some v, some v⟩
  geometry := some wkb

def int64Root (name : String) : RootColumn := ⟨name, false, .int64, "Int64"⟩

def bboxRoot : RootColumn :=
  ⟨"bbox", true, .struct [("xmin", true), ("ymin", true), ("xmax", true), ("ymax", true)], "Struct"⟩

def weightRoot : RootColumn := ⟨"weight", false, .float32, "Float32"⟩

def geometryRoot : RootColumn := ⟨"geometry", false, .binary, "Binary"⟩

def pointSchema : SnapSchema where
  columns := [int64Root "id", int64Root "unit_id", weightRoot, bboxRoot, geometryRoot]
  nodup := by decide

/-- One row group with its true statistics. -/
def pointGroup : SnapRowGroup where
  rows := [pointRow 1 one32 wkbOne, pointRow 2 two32 wkbTwo]
  batches _ := [[pointRow 1 one32 wkbOne], [pointRow 2 two32 wkbTwo]]
  flatten_batches _ := rfl
  statistics := ⟨⟨some one32, some 0⟩, ⟨some one32, some 0⟩, ⟨some two32, some 0⟩, ⟨some two32, some 0⟩⟩

def pointFile : SnapFile := ⟨pointSchema, [pointGroup]⟩

def pointStore : SnapStore where
  file := pointFile
  rowGroups := [⟨0, ⟨one32, one32, two32, two32⟩⟩]
  groupsWithoutStats := []

theorem openObject_pointFile : SnapStore.openObject pointReader pointFile = .ok pointStore := rfl

theorem pointReader_strict (minx miny maxx maxy : F32)
    (h : pointReader.boundingBox minx miny maxx maxy = none) :
    minx.lt maxx = true ∧ miny.lt maxy = true := by
  simpa [pointReader] using h

theorem pointGroup_leafTrue {leaf : BboxLeaves → Option F32} {bounds : F32 → F32 → Bool}
    {extreme : F32} (hleaf : ∀ v, leaf ⟨some v, some v, some v, some v⟩ = some v)
    (hone : bounds extreme one32 = true) (htwo : bounds extreme two32 = true)
    (hextreme : extreme = one32 ∨ extreme = two32) :
    LeafTrue pointGroup.rows leaf bounds ⟨some extreme, some 0⟩ := by
  have hrows : ∀ row ∈ pointGroup.rows, ∃ v, row.bbox = some ⟨some v, some v, some v, some v⟩ ∧
      bounds extreme v = true := by
    intro row hrow
    simp only [pointGroup, List.mem_cons, List.not_mem_nil, or_false] at hrow
    obtain rfl | rfl := hrow
    · exact ⟨one32, rfl, hone⟩
    · exact ⟨two32, rfl, htwo⟩
  refine ⟨fun _ row hrow => ?_, fun v hv row hrow leaves value hleaves hvalue _ => ?_, fun v hv => ?_⟩
  · obtain ⟨v, hv, -⟩ := hrows row hrow
    exact ⟨_, v, hv, hleaf v⟩
  · obtain ⟨w, hw, hbound⟩ := hrows row hrow
    obtain rfl := Option.some.inj (hleaves.symm.trans hw)
    obtain rfl := Option.some.inj (hvalue.symm.trans (hleaf w))
    obtain rfl := Option.some.inj hv
    exact hbound
  · obtain rfl := Option.some.inj hv
    rcases hextreme with rfl | rfl
    · exact ⟨_, List.mem_cons_self, _, _, rfl, hleaf one32, by decide⟩
    · exact ⟨_, List.mem_cons_of_mem _ List.mem_cons_self, _, _, rfl, hleaf two32, by decide⟩

theorem pointFile_statisticsTrue : ∀ rowGroup ∈ pointFile.rowGroups, rowGroup.StatisticsTrue := by
  intro rowGroup hmem
  obtain rfl := List.mem_singleton.1 hmem
  exact {
    minx := pointGroup_leafTrue (fun _ => rfl) (by decide) (by decide) (Or.inl rfl)
    miny := pointGroup_leafTrue (fun _ => rfl) (by decide) (by decide) (Or.inl rfl)
    maxx := pointGroup_leafTrue (fun _ => rfl) (by decide) (by decide) (Or.inr rfl)
    maxy := pointGroup_leafTrue (fun _ => rfl) (by decide) (by decide) (Or.inr rfl) }

/-- A target of the file. -/
def pointTarget (id : ℤ) (v : F32) (wkb : List UInt8) : SnapTarget :=
  ⟨id, 7, one32, none, some ⟨v, v, v.nextUp, v.nextUp⟩, wkb⟩

/-- Queries up to three from the second point, and from one float step above it. -/
def pointQuery (minx : F32) : UnitBox := ⟨minx, one32, three32, three32⟩

theorem scanByBbox_pointQuery : pointStore.scanByBbox pointReader (pointQuery two32) =
    .ok [pointTarget 2 two32 wkbTwo] := by decide +kernel

theorem queryByBbox_eq_scan_iff_points :
    pointStore.queryByBbox pointReader (pointQuery two32) = .ok [pointTarget 2 two32 wkbTwo] ↔
      ¬∃ rowGroup ∈ pointFile.rowGroups, ∃ box, pointFile.groupBox pointReader rowGroup = some box ∧
        ∃ row ∈ rowGroup.rows, ∃ bounds, row.bbox = some (.ofBounds bounds) ∧
          TouchesOnlyPadding box bounds (pointQuery two32) :=
  SnapStore.queryByBbox_eq_scan_iff openObject_pointFile pointReader_strict pointFile_statisticsTrue
    scanByBbox_pointQuery

/-- The second point is at the maximum of its group, and a query that starts one step above it loses
it. -/
theorem not_queryByBbox_eq_scan :
    ¬∀ (reader : SnapReader) (file : SnapFile) (store : SnapStore) (queryBbox : UnitBox)
      (targets : List SnapTarget), SnapStore.openObject reader file = .ok store →
      (∀ minx miny maxx maxy, reader.boundingBox minx miny maxx maxy = none →
        minx.lt maxx = true ∧ miny.lt maxy = true) →
      (∀ rowGroup ∈ file.rowGroups, rowGroup.StatisticsTrue) →
      store.scanByBbox reader queryBbox = .ok targets →
        store.queryByBbox reader queryBbox = .ok targets := by
  intro h
  have hscan : pointStore.scanByBbox pointReader (pointQuery two32.nextUp) =
      .ok [pointTarget 2 two32 wkbTwo] := by decide +kernel
  have hquery : pointStore.queryByBbox pointReader (pointQuery two32.nextUp) = .ok [] := by
    decide +kernel
  have hclaim := h _ _ _ _ _ openObject_pointFile pointReader_strict pointFile_statisticsTrue hscan
  rw [hquery] at hclaim
  exact nomatch Except.ok.inj hclaim

end Pourpoint
