import Pourpoint.Catchment.IdIndex

/-!
# Reading ids with levels

The validation of an open needs the ids of the catchments with their row groups, and the levels of the
units. A local open reads them in two passes over the file, `read_all_ids_with_row_groups` and
`read_id_levels`; a remote open with an empty cache reads both in one,
`read_ids_levels_with_row_groups`. The one pass returns exactly when the two do, and returns what they
return (`readIdsLevels_eq_ok_iff`).
-/

namespace Pourpoint

open Library

/-! ## The readers -/

/-- One row of `extract_id_levels_from_batch`. -/
def readIdLevel (hfx : HfxUnit) (row : CatchmentRow) : Except String CatchmentIdLevelRow := do
  let id ← nonNull .id (row .id)
  let level ← nonNull .level (row .level)
  checked "id" (hfx.unitId id)
  checked "level" (hfx.level level)
  .ok ⟨id, level⟩

/-- `read_id_level_row_group_async`, from the absolute row at which the group starts. -/
def readIdLevelRowGroup (hfx : HfxUnit) (rows : List CatchmentRow) (absoluteStart : ℕ) :
    Except SessionError (List CatchmentIdLevelRow) :=
  (rows.zipIdx absoluteStart).mapM fun row =>
    (readIdLevel hfx row.1).mapError (.invalidRow catchmentsArtifact row.2)

/-- `id_level_projection_indices`. -/
def idLevelProjectionIndices (columns : List CatchmentColumn) : Except SessionError (List ℕ) := do
  let id ← namedColumnIndex columns .id
  let level ← namedColumnIndex columns .level
  .ok [id, level]

/-- The rows of one row group of the file. -/
def idLevelsOfGroup (hfx : HfxUnit) (file : CatchmentFile) (rowGroup : Fin file.rowGroups.length) :
    Except SessionError (List CatchmentIdLevelRow) :=
  readIdLevelRowGroup hfx (groupRows file.rowGroups rowGroup) (rowGroupStart file.rowGroups rowGroup)

/-- `read_id_levels`. -/
def readIdLevels (hfx : HfxUnit) (file : CatchmentFile) :
    Except SessionError (List CatchmentIdLevelRow) :=
  if file.rowGroups = [] then .ok []
  else do
    let _ ← idLevelProjectionIndices file.columns
    let groups ← (List.finRange file.rowGroups.length).mapM (idLevelsOfGroup hfx file)
    .ok groups.flatten

/-- What `read_ids_levels_with_row_groups` collects. -/
structure IdLevelMaps (n : ℕ) extends IdRowGroups n where
  levels : UnitId → Option Level

def IdLevelMaps.empty {n : ℕ} : IdLevelMaps n := ⟨.empty, fun _ => none⟩

/-- One row of the loop. -/
def insertIdLevel {n : ℕ} (rowGroup : Fin n) (maps : IdLevelMaps n) (row : CatchmentIdLevelRow) :
    Except SessionError (IdLevelMaps n) := do
  let read ← insertId rowGroup maps.toIdRowGroups row.id
  .ok ⟨read, Function.update maps.levels row.id (some row.level)⟩

/-- One row group of the loop. -/
def indexLevelRowGroup (hfx : HfxUnit) (file : CatchmentFile)
    (maps : IdLevelMaps file.rowGroups.length) (rowGroup : Fin file.rowGroups.length) :
    Except SessionError (IdLevelMaps file.rowGroups.length) := do
  let rows ← idLevelsOfGroup hfx file rowGroup
  rows.foldlM (insertIdLevel rowGroup) maps

/-- `read_ids_levels_with_row_groups`. The source reads all row groups before it looks at the first, so
the first error in file order is returned. -/
def readIdsLevels (hfx : HfxUnit) (file : CatchmentFile) :
    Except SessionError (IdLevelMaps file.rowGroups.length) :=
  if file.rowGroups = [] then .ok .empty
  else do
    let _ ← idLevelProjectionIndices file.columns
    (List.finRange file.rowGroups.length).foldlM (indexLevelRowGroup hfx file) .empty

/-! ## Rows -/

section

variable {hfx : HfxUnit} {file : CatchmentFile} {n : ℕ}

theorem readIdLevel_eq_ok_iff {row : CatchmentRow} {found : CatchmentIdLevelRow} :
    readIdLevel hfx row = .ok found ↔ row .id = some found.id ∧ row .level = some found.level ∧
      hfx.unitId found.id = none ∧ hfx.level found.level = none := by
  obtain ⟨id, level⟩ := found
  simp only [readIdLevel, bind_eq_ok_iff, nonNull_eq_ok, checked_eq_ok, Except.ok.injEq,
    CatchmentIdLevelRow.mk.injEq]
  constructor
  · rintro ⟨id', hid, level', hlevel, _, hcheck, _, hcheck', rfl, rfl⟩
    exact ⟨hid, hlevel, hcheck, hcheck'⟩
  · rintro ⟨hid, hlevel, hcheck, hcheck'⟩
    exact ⟨id, hid, level, hlevel, (), hcheck, (), hcheck', rfl, rfl⟩

theorem readId_of_valid {row : CatchmentRow} {id : UnitId} (hid : row .id = some id)
    (hcheck : hfx.unitId id = none) : readId hfx row = .ok id := by
  rw [readId, hid]
  simp only [hcheck]

theorem readIdLevelRowGroup_cons {row : CatchmentRow} {rows : List CatchmentRow} {start : ℕ}
    {found : List CatchmentIdLevelRow}
    (h : readIdLevelRowGroup hfx (row :: rows) start = .ok found) :
    ∃ first rest, readIdLevel hfx row = .ok first ∧
      readIdLevelRowGroup hfx rows (start + 1) = .ok rest ∧ found = first :: rest := by
  rw [readIdLevelRowGroup, List.zipIdx_cons, List.mapM_cons] at h
  obtain ⟨first, hfirst, h⟩ := bind_eq_ok_iff.1 h
  obtain ⟨rest, hrest, h⟩ := bind_eq_ok_iff.1 h
  cases h
  exact ⟨first, rest, mapError_eq_ok_iff.1 hfirst, hrest, rfl⟩

/-- The rows of a row group that was read, with their ids. -/
theorem readIdRowGroup_of_levels {rows : List CatchmentRow} {start : ℕ}
    {found : List CatchmentIdLevelRow} (h : readIdLevelRowGroup hfx rows start = .ok found) :
    readIdRowGroup hfx rows start = .ok (found.map (·.id)) := by
  induction rows generalizing start found with
  | nil =>
    cases h
    rfl
  | cons row rows ih =>
    obtain ⟨first, rest, hfirst, hrest, rfl⟩ := readIdLevelRowGroup_cons h
    obtain ⟨hid, -, hcheck, -⟩ := readIdLevel_eq_ok_iff.1 hfirst
    rw [readIdRowGroup, List.zipIdx_cons, List.mapM_cons,
      mapError_eq_ok_iff.2 (readId_of_valid hid hcheck), ok_bind]
    change (readIdRowGroup hfx rows (start + 1) >>= fun ids => pure (first.id :: ids)) = _
    rw [ih hrest]
    rfl

/-! ## One pass -/

/-- The levels after some rows: those of the rows, and else those before. -/
def levelsAfter (start : UnitId → Option Level) (rows : List CatchmentIdLevelRow) :
    UnitId → Option Level :=
  rows.foldl (fun levels row => Function.update levels row.id (some row.level)) start

theorem levelsAfter_apply (start : UnitId → Option Level) (rows : List CatchmentIdLevelRow)
    (id : UnitId) : levelsAfter start rows id = (catchmentLevels rows id).or (start id) := by
  induction rows generalizing start with
  | nil => rfl
  | cons row rows ih =>
    have hcons : levelsAfter start (row :: rows) =
        levelsAfter (Function.update start row.id (some row.level)) rows := rfl
    rw [hcons, ih, catchmentLevels, catchmentLevels, List.reverse_cons, List.find?_append]
    by_cases hid : row.id = id
    · subst hid
      rw [Function.update_self]
      cases rows.reverse.find? (·.id = row.id) <;> simp
    · rw [Function.update_of_ne (Ne.symm hid)]
      cases rows.reverse.find? (·.id = id) <;> simp [hid]

theorem levelsAfter_append (start : UnitId → Option Level) (rows rows' : List CatchmentIdLevelRow) :
    levelsAfter (levelsAfter start rows) rows' = levelsAfter start (rows ++ rows') :=
  List.foldl_append.symm

theorem foldlM_insertIdLevel {rowGroup : Fin n} (rows : List CatchmentIdLevelRow)
    (maps : IdLevelMaps n) :
    rows.foldlM (insertIdLevel rowGroup) maps =
      ((rows.map (·.id)).foldlM (insertId rowGroup) maps.toIdRowGroups).map
        (⟨·, levelsAfter maps.levels rows⟩) := by
  induction rows generalizing maps with
  | nil => rfl
  | cons row rows ih =>
    rw [List.foldlM_cons, List.map_cons, List.foldlM_cons]
    unfold insertIdLevel
    cases insertId rowGroup maps.toIdRowGroups row.id with
    | error e => rfl
    | ok read => exact ih _

/-- The loop over the row groups: its levels come from the rows that `read_id_levels` reads, and its
ids are those of `read_all_ids_with_row_groups`. -/
theorem foldlM_indexLevelRowGroup (groups : List (Fin file.rowGroups.length))
    (maps found : IdLevelMaps file.rowGroups.length) :
    groups.foldlM (indexLevelRowGroup hfx file) maps = .ok found ↔
      groups.foldlM (indexRowGroup hfx file) maps.toIdRowGroups = .ok found.toIdRowGroups ∧
        ∃ rows, groups.mapM (idLevelsOfGroup hfx file) = .ok rows ∧
          levelsAfter maps.levels rows.flatten = found.levels := by
  induction groups generalizing maps with
  | nil =>
    obtain ⟨index, levels⟩ := maps
    obtain ⟨index', levels'⟩ := found
    simp [levelsAfter, pure, Except.pure]
  | cons group groups ih =>
    rw [List.foldlM_cons, List.foldlM_cons, List.mapM_cons]
    unfold indexLevelRowGroup
    cases hrows : idLevelsOfGroup hfx file group with
    | error e =>
      refine iff_of_false (fun h => by cases h) ?_
      rintro ⟨-, rows, h, -⟩
      cases h
    | ok rows =>
      have hgroup : indexRowGroup hfx file maps.toIdRowGroups group =
          (rows.map (·.id)).foldlM (insertId group) maps.toIdRowGroups := by
        unfold indexRowGroup
        rw [readIdRowGroup_of_levels hrows, ok_bind]
      rw [ok_bind, ok_bind, hgroup, foldlM_insertIdLevel]
      cases hindex : (rows.map (·.id)).foldlM (insertId group) maps.toIdRowGroups with
      | error e =>
        refine iff_of_false (fun h => by cases h) ?_
        rintro ⟨h, -⟩
        cases h
      | ok index =>
        refine (ih ⟨index, levelsAfter maps.levels rows⟩).trans (and_congr_right fun _ => ?_)
        constructor
        · rintro ⟨rest, hrest, hlevels⟩
          refine ⟨rows :: rest, by rw [hrest]; rfl, ?_⟩
          rw [List.flatten_cons, ← levelsAfter_append, hlevels]
        · rintro ⟨all, hall, hlevels⟩
          obtain ⟨rest, hrest, hcons⟩ := bind_eq_ok_iff.1 hall
          cases hcons
          refine ⟨rest, hrest, ?_⟩
          rw [List.flatten_cons, ← levelsAfter_append] at hlevels
          exact hlevels

theorem levelsAfter_none (rows : List CatchmentIdLevelRow) :
    levelsAfter (fun _ => none) rows = catchmentLevels rows := by
  funext id
  rw [levelsAfter_apply, Option.or_none]

theorem readIdsLevels_of_ne_nil (hne : file.rowGroups ≠ [])
    {found : IdLevelMaps file.rowGroups.length} :
    readIdsLevels hfx file = .ok found ↔ (∃ indices, idLevelProjectionIndices file.columns = .ok indices) ∧
      readAllIds hfx file = .ok found.toIdRowGroups ∧
      ∃ groups, (List.finRange file.rowGroups.length).mapM (idLevelsOfGroup hfx file) = .ok groups ∧
        catchmentLevels groups.flatten = found.levels := by
  rw [readIdsLevels, if_neg hne, bind_eq_ok_iff]
  simp only [foldlM_indexLevelRowGroup, ← levelsAfter_none, readAllIds]
  exact exists_and_right

/-- The levels of one pass are those of the rows that `read_id_levels` reads. -/
theorem readIdLevels_of_readIdsLevels {found : IdLevelMaps file.rowGroups.length}
    (h : readIdsLevels hfx file = .ok found) :
    ∃ rows, readIdLevels hfx file = .ok rows ∧ catchmentLevels rows = found.levels := by
  by_cases hempty : file.rowGroups = []
  · rw [readIdsLevels, if_pos hempty] at h
    cases h
    exact ⟨[], by rw [readIdLevels, if_pos hempty], rfl⟩
  · obtain ⟨⟨indices, hprojection⟩, -, groups, hgroups, hlevels⟩ :=
      (readIdsLevels_of_ne_nil hempty).1 h
    refine ⟨groups.flatten, ?_, hlevels⟩
    rw [readIdLevels, if_neg hempty, hprojection, ok_bind, hgroups, ok_bind]

theorem readAllIds_of_nil (hempty : file.rowGroups = []) : readAllIds hfx file = .ok .empty := by
  have hnone : List.finRange file.rowGroups.length = [] := by
    rw [List.finRange_eq_nil_iff, hempty]
    rfl
  rw [readAllIds, hnone]
  rfl

/-- The ids of one pass are those that are read without levels. -/
theorem readAllIds_of_readIdsLevels {found : IdLevelMaps file.rowGroups.length}
    (h : readIdsLevels hfx file = .ok found) : readAllIds hfx file = .ok found.toIdRowGroups := by
  by_cases hempty : file.rowGroups = []
  · rw [readIdsLevels, if_pos hempty] at h
    cases h
    exact readAllIds_of_nil hempty
  · exact ((readIdsLevels_of_ne_nil hempty).1 h).2.1

/-- **One pass is two passes.** The cold read of ids and levels returns exactly when the index of the ids
and the levels are read, and it returns these. -/
theorem readIdsLevels_eq_ok_iff {found : IdLevelMaps file.rowGroups.length} :
    readIdsLevels hfx file = .ok found ↔ readAllIds hfx file = .ok found.toIdRowGroups ∧
      ∃ rows, readIdLevels hfx file = .ok rows ∧ catchmentLevels rows = found.levels := by
  constructor
  · intro h
    exact ⟨readAllIds_of_readIdsLevels h, readIdLevels_of_readIdsLevels h⟩
  rintro ⟨hids, rows, hrows, hlevels⟩
  by_cases hempty : file.rowGroups = []
  · obtain ⟨read, levels⟩ := found
    rw [readIdLevels, if_pos hempty] at hrows
    rw [readAllIds_of_nil hempty] at hids
    rw [readIdsLevels, if_pos hempty]
    cases hrows
    cases hids
    cases hlevels
    rfl
  · rw [readIdLevels, if_neg hempty] at hrows
    obtain ⟨indices, hprojection, hrows⟩ := bind_eq_ok_iff.1 hrows
    obtain ⟨groups, hgroups, hflatten⟩ := bind_eq_ok_iff.1 hrows
    cases hflatten
    exact (readIdsLevels_of_ne_nil hempty).2 ⟨⟨indices, hprojection⟩, hids, groups, hgroups, hlevels⟩

/-! ## The rows that are read -/

theorem forall₂_of_readIdLevelRowGroup {rows : List CatchmentRow} {start : ℕ}
    {found : List CatchmentIdLevelRow} (h : readIdLevelRowGroup hfx rows start = .ok found) :
    List.Forall₂ (fun row found => readIdLevel hfx row = .ok found) rows found := by
  induction rows generalizing start found with
  | nil =>
    cases h
    exact .nil
  | cons row rows ih =>
    obtain ⟨first, rest, hfirst, hrest, rfl⟩ := readIdLevelRowGroup_cons h
    exact .cons hfirst (ih hrest)

/-- Every row of the file is read, in file order. -/
theorem forall₂_of_readIdLevels {rows : List CatchmentIdLevelRow}
    (h : readIdLevels hfx file = .ok rows) :
    List.Forall₂ (fun row found => readIdLevel hfx row = .ok found) file.rows rows := by
  by_cases hempty : file.rowGroups = []
  · rw [readIdLevels, if_pos hempty] at h
    cases h
    rw [CatchmentFile.rows, hempty]
    exact .nil
  · rw [readIdLevels, if_neg hempty] at h
    obtain ⟨_, -, h⟩ := bind_eq_ok_iff.1 h
    obtain ⟨groups, hgroups, h⟩ := bind_eq_ok_iff.1 h
    cases h
    rw [CatchmentFile.rows, flatMap_rows_eq_flatMap_groupRows, ← List.map_coe_finRange_eq_range,
      List.flatMap_map]
    exact forall₂_flatten_of_mapM (fun rowGroup found => forall₂_of_readIdLevelRowGroup) hgroups

end

end Pourpoint
