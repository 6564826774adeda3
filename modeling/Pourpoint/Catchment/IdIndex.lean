import Pourpoint.Catchment.Queries

/-!
# Building the id index

`read_all_ids_with_row_groups` reads the id of every row, row group by row group, and rejects an id that
it has seen before. It returns the ids of the file, in its order, and the row group of each; the ids are
then unique (`indexesRows_of_readAllIds`).
-/

namespace Pourpoint

open Library

/-- One row of `read_id_row_group_async`. -/
def readId (hfx : HfxUnit) (row : CatchmentRow) : Except String UnitId :=
  match row .id with
  | none => .error "null id"
  | some id =>
    match hfx.unitId id with
    | none => .ok id
    | some error => .error s!"invalid unit id: {error}"

/-- `read_id_row_group_async`, from the absolute row at which the group starts. -/
def readIdRowGroup (hfx : HfxUnit) (rows : List CatchmentRow) (absoluteStart : ℕ) :
    Except SessionError (List UnitId) :=
  (rows.zipIdx absoluteStart).mapM fun row =>
    (readId hfx row.1).mapError (.invalidRow catchmentsArtifact row.2)

/-- The ids that are read, in row order, and the row group of each. -/
structure IdRowGroups (n : ℕ) where
  ids : List UnitId
  idRowGroups : UnitId → Option (Fin n)

def IdRowGroups.empty {n : ℕ} : IdRowGroups n := ⟨[], fun _ => none⟩

/-- The insertion of an id that must be new. -/
def insertId {n : ℕ} (rowGroup : Fin n) (read : IdRowGroups n) (id : UnitId) :
    Except SessionError (IdRowGroups n) :=
  match read.idRowGroups id with
  | some previous => .error (.integrityViolation
      s!"duplicate catchment id {id} found in row groups {previous} and {rowGroup}")
  | none => .ok ⟨read.ids ++ [id], Function.update read.idRowGroups id (some rowGroup)⟩

/-- The absolute row at which a row group starts. -/
def rowGroupStart (rowGroups : List RowGroup) (rowGroup : ℕ) : ℕ :=
  ((rowGroups.take rowGroup).map RowGroup.numRows).sum

/-- One row group of the loop of `read_all_ids_with_row_groups`. -/
def indexRowGroup (hfx : HfxUnit) (file : CatchmentFile) (read : IdRowGroups file.rowGroups.length)
    (rowGroup : Fin file.rowGroups.length) : Except SessionError (IdRowGroups file.rowGroups.length) := do
  let ids ← readIdRowGroup hfx (groupRows file.rowGroups rowGroup)
    (rowGroupStart file.rowGroups rowGroup)
  ids.foldlM (insertId rowGroup) read

/-- `read_all_ids_with_row_groups`. -/
def readAllIds (hfx : HfxUnit) (file : CatchmentFile) :
    Except SessionError (IdRowGroups file.rowGroups.length) :=
  (List.finRange file.rowGroups.length).foldlM (indexRowGroup hfx file) .empty

section Index

variable {hfx : HfxUnit} {file : CatchmentFile} {n : ℕ}

theorem readId_eq_ok {row : CatchmentRow} {id : UnitId} (h : readId hfx row = .ok id) :
    row .id = some id := by
  unfold readId at h
  split at h
  · cases h
  · rename_i other hrow
    split at h
    · cases h
      exact hrow
    · cases h

/-- The ids of a row group that was read. -/
theorem readIdRowGroup_eq_ok {rows : List CatchmentRow} {start : ℕ} {ids : List UnitId}
    (h : readIdRowGroup hfx rows start = .ok ids) : (rows.map fun row => row .id) = ids.map some := by
  induction rows generalizing start ids with
  | nil =>
    cases h
    rfl
  | cons row rows ih =>
    rw [readIdRowGroup, List.zipIdx_cons, List.mapM_cons] at h
    obtain ⟨id, hid, h⟩ := bind_eq_ok_iff.1 h
    obtain ⟨rest, hrest, h⟩ := bind_eq_ok_iff.1 h
    cases h
    have hrow : row .id = some id := readId_eq_ok (mapError_eq_ok_iff.1 hid)
    rw [List.map_cons, List.map_cons, hrow, ih hrest]

/-- The insertions of one row group. -/
theorem foldlM_insertId {rowGroup : Fin n} {ids : List UnitId} {start read : IdRowGroups n}
    (h : ids.foldlM (insertId rowGroup) start = .ok read) :
    ids.Nodup ∧ (∀ id ∈ ids, start.idRowGroups id = none) ∧ read.ids = start.ids ++ ids ∧
      ∀ id g, read.idRowGroups id = some g ↔
        start.idRowGroups id = some g ∨ id ∈ ids ∧ g = rowGroup := by
  induction ids generalizing start with
  | nil =>
    cases h
    simp
  | cons id ids ih =>
    rw [List.foldlM_cons] at h
    obtain ⟨next, hnext, h⟩ := bind_eq_ok_iff.1 h
    unfold insertId at hnext
    split at hnext
    · cases hnext
    · rename_i hnew
      cases hnext
      obtain ⟨hnodup, hrest, hids, hindex⟩ := ih h
      dsimp only at hrest hids hindex
      have hid : id ∉ ids := by
        intro hmem
        have := hrest id hmem
        rw [Function.update_self] at this
        cases this
      refine ⟨List.nodup_cons.2 ⟨hid, hnodup⟩, ?_, ?_, ?_⟩
      · intro other hother
        rcases List.mem_cons.1 hother with rfl | hother
        · exact hnew
        · have := hrest other hother
          rwa [Function.update_of_ne (ne_of_mem_of_not_mem hother hid)] at this
      · rw [hids, List.append_assoc, List.singleton_append]
      · intro other g
        rw [hindex, Function.update_apply]
        by_cases hother : other = id
        · subst hother
          simp [hid, hnew, eq_comm]
        · simp [hother]

/-- The insertions of the row groups. -/
theorem foldlM_rowGroups {groups : List (Fin file.rowGroups.length)}
    {start read : IdRowGroups file.rowGroups.length}
    (h : groups.foldlM (indexRowGroup hfx file) start = .ok read) :
    (groups.flatMap fun rowGroup : Fin file.rowGroups.length =>
      (groupRows file.rowGroups rowGroup).map fun row => row .id).Nodup ∧
    (∀ rowGroup ∈ groups, ∀ row ∈ groupRows file.rowGroups rowGroup,
      ∃ id, row .id = some id ∧ start.idRowGroups id = none) ∧
    (read.ids.map some = start.ids.map some ++
      groups.flatMap fun rowGroup : Fin file.rowGroups.length =>
        (groupRows file.rowGroups rowGroup).map fun row => row .id) ∧
    ∀ id g, read.idRowGroups id = some g ↔ start.idRowGroups id = some g ∨
      g ∈ groups ∧ ∃ row ∈ groupRows file.rowGroups g, row .id = some id := by
  induction groups generalizing start with
  | nil =>
    cases h
    simp
  | cons rowGroup groups ih =>
    rw [List.foldlM_cons] at h
    obtain ⟨next, hgroup, h⟩ := bind_eq_ok_iff.1 h
    obtain ⟨ids, hids, hnext⟩ := bind_eq_ok_iff.1 hgroup
    have hcells := readIdRowGroup_eq_ok hids
    have hmem : ∀ id, id ∈ ids ↔ ∃ row ∈ groupRows file.rowGroups rowGroup, row .id = some id := by
      intro id
      have hsome : some id ∈ ids.map some ↔ id ∈ ids := by simp
      rw [← hsome, ← hcells, List.mem_map]
    obtain ⟨hnodup, hnew, happended, hinserted⟩ := foldlM_insertId hnext
    obtain ⟨hrest, hfresh, hread, hindex⟩ := ih h
    refine ⟨?_, ?_, ?_, ?_⟩
    · rw [List.flatMap_cons, hcells, List.nodup_append]
      refine ⟨hnodup.map fun _ _ h => Option.some.inj h, hrest, ?_⟩
      -- An id of this row group is in the index when the later ones are read.
      intro cell hcell other hother heq
      obtain ⟨id, hid, rfl⟩ := List.mem_map.1 hcell
      obtain ⟨group, hgroup, hother⟩ := List.mem_flatMap.1 hother
      obtain ⟨row, hrow, rfl⟩ := List.mem_map.1 hother
      obtain ⟨found, hfound, hnone⟩ := hfresh group hgroup row hrow
      rw [← heq] at hfound
      cases hfound
      have hsome := (hinserted id rowGroup).2 (.inr ⟨hid, rfl⟩)
      rw [hnone] at hsome
      cases hsome
    · intro group hgroup row hrow
      rcases List.mem_cons.1 hgroup with rfl | hgroup
      · have hcell : row .id ∈ ids.map some := hcells ▸ List.mem_map_of_mem hrow
        obtain ⟨id, hid, heq⟩ := List.mem_map.1 hcell
        exact ⟨id, heq.symm, hnew id hid⟩
      · obtain ⟨id, hid, hnone⟩ := hfresh group hgroup row hrow
        refine ⟨id, hid, ?_⟩
        cases hstart : start.idRowGroups id with
        | none => rfl
        | some g =>
          rw [(hinserted id g).2 (.inl hstart)] at hnone
          cases hnone
    · rw [hread, happended, List.map_append, List.flatMap_cons, hcells, List.append_assoc]
    · intro id g
      rw [hindex, hinserted, hmem, List.mem_cons]
      constructor
      · rintro ((hstart | ⟨hrow, rfl⟩) | ⟨hg, hrow⟩)
        · exact .inl hstart
        · exact .inr ⟨.inl rfl, hrow⟩
        · exact .inr ⟨.inr hg, hrow⟩
      · rintro (hstart | ⟨rfl | hg, hrow⟩)
        · exact .inl (.inl hstart)
        · exact .inl (.inr ⟨hrow, rfl⟩)
        · exact .inr ⟨hg, hrow⟩

theorem map_id_eq_flatMap (file : CatchmentFile) : (file.rows.map fun row => row .id) =
    (List.finRange file.rowGroups.length).flatMap fun rowGroup : Fin file.rowGroups.length =>
      (groupRows file.rowGroups rowGroup).map fun row => row .id := by
  rw [CatchmentFile.rows, flatMap_rows_eq_flatMap_groupRows, List.map_flatMap,
    ← List.map_coe_finRange_eq_range, List.flatMap_map]

theorem map_id_of_readAllIds {read : IdRowGroups file.rowGroups.length}
    (hread : readAllIds hfx file = .ok read) :
    (file.rows.map fun row => row .id) = read.ids.map some := by
  obtain ⟨-, -, hids, -⟩ := foldlM_rowGroups hread
  rw [map_id_eq_flatMap]
  exact hids.symm

/-- **The index of an open store.** A store that is opened with the index that is built from its file
has unique ids, and the index names the row group of each. -/
theorem indexesRows_of_readAllIds {read : IdRowGroups file.rowGroups.length}
    {store : CatchmentStore} (hread : readAllIds hfx file = .ok read)
    (hopen : openObject hfx file read.idRowGroups = .ok store) :
    store.IndexesRows ∧ (file.rows.map fun row => row .id).Nodup := by
  obtain ⟨hnodup, -, -, hindex⟩ := foldlM_rowGroups hread
  refine ⟨?_, ?_⟩
  · have hstore : store.IndexesRows ↔ ∀ id g, read.idRowGroups id = some g ↔
        ∃ row ∈ groupRows file.rowGroups g, row .id = some id := by
      rw [(openObject_eq_ok hopen).2]
      rfl
    rw [hstore]
    intro id g
    rw [hindex]
    simp [IdRowGroups.empty]
  · rw [map_id_eq_flatMap]
    exact hnodup

/-! ## Every file with distinct valid ids is indexed -/

theorem exists_readIdRowGroup {rows : List CatchmentRow} (start : ℕ)
    (h : ∀ row ∈ rows, ∃ id, readId hfx row = .ok id) :
    ∃ ids, readIdRowGroup hfx rows start = .ok ids := by
  refine exists_mapM fun row hrow => ?_
  obtain ⟨id, hid⟩ := h row.1 (List.fst_mem_of_mem_zipIdx hrow)
  exact ⟨id, mapError_eq_ok_iff.2 hid⟩

theorem exists_foldlM_insertId {rowGroup : Fin n} {ids : List UnitId}
    {start : IdRowGroups n} (hnodup : ids.Nodup) (hnew : ∀ id ∈ ids, start.idRowGroups id = none) :
    ∃ read, ids.foldlM (insertId rowGroup) start = .ok read := by
  induction ids generalizing start with
  | nil => exact ⟨start, rfl⟩
  | cons id ids ih =>
    obtain ⟨hid, hnodup⟩ := List.nodup_cons.1 hnodup
    have hinsert : insertId rowGroup start id =
        .ok ⟨start.ids ++ [id], Function.update start.idRowGroups id (some rowGroup)⟩ := by
      rw [insertId, hnew id List.mem_cons_self]
    rw [List.foldlM_cons, hinsert, ok_bind]
    refine ih hnodup fun other hother => ?_
    dsimp only
    rw [Function.update_of_ne (ne_of_mem_of_not_mem hother hid)]
    exact hnew other (List.mem_cons_of_mem _ hother)

theorem exists_foldlM_indexRowGroup {groups : List (Fin file.rowGroups.length)}
    {start : IdRowGroups file.rowGroups.length}
    (hread : ∀ rowGroup ∈ groups, ∀ row ∈ groupRows file.rowGroups rowGroup,
      ∃ id, readId hfx row = .ok id ∧ start.idRowGroups id = none)
    (hnodup : (groups.flatMap fun rowGroup : Fin file.rowGroups.length =>
      (groupRows file.rowGroups rowGroup).map fun row => row .id).Nodup) :
    ∃ read, groups.foldlM (indexRowGroup hfx file) start = .ok read := by
  induction groups generalizing start with
  | nil => exact ⟨start, rfl⟩
  | cons rowGroup groups ih =>
    rw [List.flatMap_cons, List.nodup_append] at hnodup
    obtain ⟨hgroup, hrest, hdisjoint⟩ := hnodup
    have hhead := hread rowGroup List.mem_cons_self
    obtain ⟨ids, hids⟩ := exists_readIdRowGroup (rowGroupStart file.rowGroups rowGroup)
      fun row hrow => (hhead row hrow).imp fun _ h => h.1
    have hcells := readIdRowGroup_eq_ok hids
    have hnew : ∀ id ∈ ids, start.idRowGroups id = none := by
      intro id hid
      have hcell : some id ∈ (groupRows file.rowGroups rowGroup).map fun row => row .id :=
        hcells ▸ List.mem_map_of_mem hid
      obtain ⟨row, hrow, hrowId⟩ := List.mem_map.1 hcell
      obtain ⟨found, hfound, hnone⟩ := hhead row hrow
      rw [readId_eq_ok hfound] at hrowId
      cases hrowId
      exact hnone
    rw [hcells] at hgroup hdisjoint
    obtain ⟨next, hnext⟩ := exists_foldlM_insertId (List.Nodup.of_map _ hgroup) hnew
    have hstep : indexRowGroup hfx file start rowGroup = .ok next := by
      rw [indexRowGroup, hids, ok_bind, hnext]
    rw [List.foldlM_cons, hstep, ok_bind]
    refine ih (fun group hmem row hrow => ?_) hrest
    obtain ⟨id, hid, hnone⟩ := hread group (List.mem_cons_of_mem _ hmem) row hrow
    refine ⟨id, hid, Option.eq_none_iff_forall_ne_some.2 fun g hg => ?_⟩
    rcases ((foldlM_insertId hnext).2.2.2 id g).1 hg with hstart | ⟨hinserted, -⟩
    · rw [hnone] at hstart
      cases hstart
    · refine hdisjoint (some id) (List.mem_map_of_mem hinserted) (some id) ?_ rfl
      exact List.mem_flatMap.2 ⟨group, hmem, List.mem_map.2 ⟨row, hrow, readId_eq_ok hid⟩⟩

theorem exists_readAllIds (hread : ∀ row ∈ file.rows, ∃ id, readId hfx row = .ok id)
    (hnodup : (file.rows.map fun row => row .id).Nodup) :
    ∃ read, readAllIds hfx file = .ok read := by
  refine exists_foldlM_indexRowGroup (fun rowGroup _ row hrow => ?_) ?_
  · obtain ⟨group, hgroup, -, hmem⟩ := mem_rows_of_mem_groupRows hrow
    obtain ⟨id, hid⟩ := hread row (List.mem_flatMap.2 ⟨group, hgroup, hmem⟩)
    exact ⟨id, hid, rfl⟩
  · rwa [map_id_eq_flatMap] at hnodup

end Index

end Pourpoint
