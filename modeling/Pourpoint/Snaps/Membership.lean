import Pourpoint.Snaps.Pruning

/-!
# The membership read

The cold membership read projects a snap file to `id` and `unit_id`. It takes the positions of their leaf
columns and gives them to `ProjectionMask::roots`, which takes positions of root columns. The two agree
while no column with several leaves comes first; else the read selects other columns and fails
(`SnapStore.readAllSnapMembershipRefs_eq_iff`).
-/

namespace Pourpoint

open Library

/-! ## Positions -/

namespace SnapSchema

/-- The positions that the read gives to the projection. -/
def membershipPositions (schema : SnapSchema) : List ℕ :=
  ["id", "unit_id"].filterMap fun name => schema.leaves.idxOf? name

/-- The names of the root columns at these positions. -/
def rootsAtLeaves (schema : SnapSchema) : List String :=
  schema.membershipPositions.filterMap fun i => schema.columns[i]?.map (·.name)

/-- The read selects both columns. -/
def ProjectsMembership (schema : SnapSchema) : Prop :=
  ∀ name ∈ ["id", "unit_id"], name ∈ schema.rootsAtLeaves

instance (schema : SnapSchema) : Decidable schema.ProjectsMembership :=
  inferInstanceAs (Decidable (∀ _ ∈ _, _))

end SnapSchema

/-- `ProjectionMask::roots` takes positions of root columns. -/
structure RootPositions (roots : SnapSchema → List ℕ → Option (List ℕ)) : Prop where
  accepts : ∀ schema positions, (∀ i ∈ positions, i < schema.columns.length) →
    (roots schema positions).isSome
  selects : ∀ schema positions mask, roots schema positions = some mask →
    ∀ i, i ∈ mask ↔ i ∈ positions ∧ i < schema.columns.length

/-- A row with valid ids that are not null, and its reference. -/
structure SnapRow.RefersTo (reader : SnapReader) (row : SnapRow) (ref : SnapRef) : Prop where
  id : row.id = some ref.snapId
  unitId : row.unitId = some ref.unitId
  snapId_valid : reader.snapId ref.snapId = none
  unitId_valid : reader.unitId ref.unitId = none

section

variable {reader : SnapReader} {file : SnapFile} {store : SnapStore} {schema : SnapSchema}
  {roots : SnapSchema → List ℕ → Option (List ℕ)}

/-! ## Columns -/

theorem name_of_find? {columns : List RootColumn} {name : String} {column : RootColumn}
    (h : columns.find? (·.name = name) = some column) : column.name = name := by
  simpa using List.find?_some h

theorem requireSnapColumn_int64 {name : String} {u : Unit}
    (h : requireSnapColumn schema name .int64 "Int64" = .ok u) :
    ∃ column ∈ schema.columns, column.name = name ∧ column.type = .int64 := by
  obtain ⟨column, hcolumn, htype⟩ := require_bind_eq_ok_iff.1 h
  have htype := failWhen_eq_ok_iff.1 htype
  refine ⟨column, List.mem_of_find?_eq_some hcolumn, name_of_find? hcolumn, ?_⟩
  by_contra hne
  exact htype ⟨hne, fun h => nomatch h.2⟩

theorem int64_of_checkSnapSchema (h : checkSnapSchema schema = .ok ()) :
    ∀ name ∈ ["id", "unit_id"],
      ∃ column ∈ schema.columns, column.name = name ∧ column.type = .int64 := by
  obtain ⟨_, hid, h⟩ := bind_eq_ok_iff.1 h
  obtain ⟨_, hunit, -⟩ := bind_eq_ok_iff.1 h
  intro name hname
  simp only [List.mem_cons, List.not_mem_nil, or_false] at hname
  obtain rfl | rfl := hname
  · exact requireSnapColumn_int64 hid
  · exact requireSnapColumn_int64 hunit

theorem idxOf?_leaves {column : RootColumn} (hmem : column ∈ schema.columns)
    (htype : column.type = .int64) : ∃ i, schema.leaves.idxOf? column.name = some i := by
  refine Option.isSome_iff_exists.1 (List.isSome_idxOf?.2 ?_)
  refine List.mem_flatMap.2 ⟨column, hmem, ?_⟩
  rw [RootColumn.leaves, htype]
  exact List.mem_singleton_self _

theorem mem_projectedColumns {mask : List ℕ} {column : RootColumn} :
    column ∈ SnapStore.projectedColumns schema mask ↔ ∃ i ∈ mask, schema.columns[i]? = some column := by
  simp only [SnapStore.projectedColumns, List.mem_map, List.mem_filter, Prod.exists,
    List.mk_mem_zipIdx_iff_getElem?, decide_eq_true_iff]
  constructor
  · intro h
    obtain ⟨other, i, ⟨hget, hi⟩, rfl⟩ := h
    exact ⟨i, hi, hget⟩
  · intro h
    obtain ⟨i, hi, hget⟩ := h
    exact ⟨column, i, ⟨hget, hi⟩, rfl⟩

theorem exists_projectedColumns_iff (hroots : RootPositions roots) {mask : List ℕ}
    (hmask : roots schema schema.membershipPositions = some mask) {name : String} :
    (∃ column ∈ SnapStore.projectedColumns schema mask, column.name = name) ↔
      name ∈ schema.rootsAtLeaves := by
  simp only [mem_projectedColumns, SnapSchema.rootsAtLeaves, List.mem_filterMap,
    Option.map_eq_some_iff, hroots.selects _ _ _ hmask]
  constructor
  · intro h
    obtain ⟨column, ⟨i, ⟨hi, -⟩, hget⟩, hname⟩ := h
    exact ⟨i, hi, column, hget, hname⟩
  · intro h
    obtain ⟨i, hi, column, hget, hname⟩ := h
    exact ⟨column, ⟨i, ⟨hi, (List.getElem?_eq_some_iff.1 hget).1⟩, hget⟩, hname⟩

/-- A column that can only be an `Int64` column is found when it is there. -/
theorem int64Column_eq_ok_iff {columns : List RootColumn} {name : String}
    (htype : ∀ column ∈ columns, column.name = name → column.type = .int64) :
    SnapStore.int64Column columns name = .ok () ↔ ∃ column ∈ columns, column.name = name := by
  unfold SnapStore.int64Column
  cases hfind : columns.find? (·.name = name) with
  | none =>
    refine iff_of_false (fun h => nomatch h) fun h => ?_
    obtain ⟨column, hmem, hname⟩ := h
    exact List.find?_eq_none.1 hfind column hmem (decide_eq_true hname)
  | some column =>
    have hmem := List.mem_of_find?_eq_some hfind
    have hname := name_of_find? hfind
    have hint := htype column hmem hname
    obtain ⟨_, _, type, _⟩ := column
    subst hint
    exact iff_of_true rfl ⟨_, hmem, hname⟩

theorem int64Column_projected_iff (hopen : checkSnapSchema schema = .ok ()) (hroots : RootPositions roots)
    {mask : List ℕ} (hmask : roots schema schema.membershipPositions = some mask) {name : String}
    (hname : name ∈ ["id", "unit_id"]) :
    SnapStore.int64Column (SnapStore.projectedColumns schema mask) name = .ok () ↔
      name ∈ schema.rootsAtLeaves := by
  rw [← exists_projectedColumns_iff hroots hmask]
  refine int64Column_eq_ok_iff fun column hmem hcolumn => ?_
  obtain ⟨i, -, hget⟩ := mem_projectedColumns.1 hmem
  obtain ⟨expected, hexpected, hsame, htype⟩ := int64_of_checkSnapSchema hopen name hname
  obtain rfl : column = expected := List.inj_on_of_nodup_map schema.nodup
    (List.mem_of_getElem? hget) hexpected (hcolumn.trans hsame.symm)
  exact htype

/-! ## Rows -/

/-- The reference of a row, `none` when the row is not valid. -/
def membershipRef? (reader : SnapReader) (row : SnapRow) : Option SnapRef :=
  (SnapStore.membershipRow reader row 0).toOption

theorem toOption_membershipRow (row : SnapRow) (n : ℕ) :
    (SnapStore.membershipRow reader row n).toOption = membershipRef? reader row := by
  unfold membershipRef? SnapStore.membershipRow
  cases row.id with
  | none => rfl
  | some id =>
    cases row.unitId with
    | none => rfl
    | some unitId =>
      simp only [ok_bind]
      cases reader.snapId id with
      | some e => rfl
      | none => cases reader.unitId unitId <;> rfl

theorem membershipRef?_of_refersTo {row : SnapRow} {ref : SnapRef} (h : row.RefersTo reader ref) :
    membershipRef? reader row = some ref := by
  simp only [membershipRef?, SnapStore.membershipRow, h.id, h.unitId, ok_bind, h.snapId_valid,
    h.unitId_valid]
  rfl

theorem mapM_membershipRef? {rows : List SnapRow} {refs : List SnapRef}
    (h : List.Forall₂ (SnapRow.RefersTo reader) rows refs) :
    rows.mapM (membershipRef? reader) = some refs := by
  induction h with
  | nil => rfl
  | cons hrow _ ih =>
    rw [List.mapM_cons, membershipRef?_of_refersTo hrow, ih]
    rfl

theorem toOption_membershipBatch {columns : List RootColumn}
    (hcolumns : ∀ name ∈ ["id", "unit_id"], SnapStore.int64Column columns name = .ok ())
    (batch : List SnapRow) (n : ℕ) : (SnapStore.membershipBatch reader columns batch n).toOption =
      (batch.mapM fun row => (membershipRef? reader row).map fun ref => [ref]).map List.flatten := by
  have hsingle : ∀ refs : List SnapRef, refs.flatMap (fun ref => [ref]) = refs :=
    List.flatMap_singleton'
  rw [← mapM_map_flatMap, SnapStore.membershipBatch, hcolumns "id" (by simp),
    hcolumns "unit_id" (by simp), ok_bind, ok_bind, toOption_mapM, ← mapM_fst_zipIdx _ batch n,
    mapM_congr fun row _ => toOption_membershipRow row.1 row.2, funext hsingle]
  exact Option.map_id'.symm

/-! ## The read -/

namespace SnapSchema

theorem membershipPositions_eq (hopen : checkSnapSchema schema = .ok ()) :
    ∃ i j, schema.leaves.idxOf? "id" = some i ∧ schema.leaves.idxOf? "unit_id" = some j ∧
      schema.membershipPositions = [i, j] := by
  obtain ⟨idColumn, hid, hidName, hidType⟩ := int64_of_checkSnapSchema hopen "id" (by simp)
  obtain ⟨unitColumn, hunit, hunitName, hunitType⟩ :=
    int64_of_checkSnapSchema hopen "unit_id" (by simp)
  obtain ⟨i, hi⟩ := idxOf?_leaves hid hidType
  obtain ⟨j, hj⟩ := idxOf?_leaves hunit hunitType
  rw [hidName] at hi
  rw [hunitName] at hj
  refine ⟨i, j, hi, hj, ?_⟩
  simp only [membershipPositions, List.filterMap_cons, hi, hj, List.filterMap_nil]

/-- Two different names at two positions need both positions. -/
theorem ProjectsMembership.lt_length (h : schema.ProjectsMembership)
    (hopen : checkSnapSchema schema = .ok ()) :
    ∀ i ∈ schema.membershipPositions, i < schema.columns.length := by
  obtain ⟨i, j, -, -, hpositions⟩ := membershipPositions_eq hopen
  intro k hk
  by_contra hlt
  have hnone : schema.columns[k]? = none := List.getElem?_eq_none_iff.2 (not_lt.1 hlt)
  have hother : ∀ {a name}, schema.columns[a]?.map (·.name) = some name → a ≠ k := by
    rintro a name ha rfl
    rw [hnone] at ha
    cases ha
  obtain ⟨a, ha, hid⟩ := List.mem_filterMap.1 (h "id" (by simp))
  obtain ⟨b, hb, hunit⟩ := List.mem_filterMap.1 (h "unit_id" (by simp))
  have hsame : a = b := by
    have hak := hother hid
    have hbk := hother hunit
    rw [hpositions] at ha hb hk
    simp only [List.mem_cons, List.not_mem_nil, or_false] at ha hb hk
    omega
  subst hsame
  exact absurd (Option.some.inj (hid.symm.trans hunit)) (by decide)

end SnapSchema

namespace SnapStore

theorem readAllSnapMembershipRefs_eq (hopen : openObject reader file = .ok store) :
    store.readAllSnapMembershipRefs reader roots =
      match roots file.schema file.schema.membershipPositions with
      | none => .ok none
      | some mask => some <$> readParts (store.readRowGroup 8192 missingRowGroup
          (membershipBatch reader (projectedColumns file.schema mask)))
          (List.range file.rowGroups.length) file.rowCounts := by
  obtain ⟨i, j, hi, hj, hpositions⟩ := SnapSchema.membershipPositions_eq (openObject_eq_ok hopen).1
  obtain rfl := file_of_openObject hopen
  rw [readAllSnapMembershipRefs, hpositions]
  simp only [hi, hj, ok_bind]
  cases roots store.file.schema [i, j] with
  | none => rfl
  | some mask => rfl

theorem readParts_membership {refs : List SnapRef}
    (hrefs : List.Forall₂ (SnapRow.RefersTo reader) store.file.rows refs)
    {read : ℕ → ℕ → Except SnapReadError (List SnapRef)}
    (hread : ∀ i < store.file.rowGroups.length, ∀ start, (read i start).toOption =
      ((partAt store.file.parts i).mapM fun row =>
        (membershipRef? reader row).map fun ref => [ref]).map List.flatten) :
    readParts read (List.range store.file.rowGroups.length) store.file.rowCounts = .ok refs := by
  have hlengths : store.file.rowCounts.length = store.file.parts.length := by
    rw [SnapFile.rowCounts, List.length_map, length_parts]
  have hsingle : ∀ refs : List SnapRef, refs.flatMap (fun ref => [ref]) = refs :=
    List.flatMap_singleton'
  rw [← toOption_eq_some_iff, ← length_parts, toOption_readParts hlengths (range_eq_filter _)
    fun i hi => hread i (by rw [← length_parts]; exact List.mem_range.1 hi),
    ← flatten_eq_flatMap_partAt, ← mapM_map_flatMap, funext hsingle]
  exact (Option.map_id' (x := _)).trans (mapM_membershipRef? hrefs)

/-- The batches that are read have both columns. -/
theorem int64Column_of_readParts {columns : List RootColumn} {found : List SnapRef}
    (h : readParts (store.readRowGroup 8192 missingRowGroup (membershipBatch reader columns))
      (List.range store.file.rowGroups.length) store.file.rowCounts = .ok found)
    {rowGroup : SnapRowGroup} (hmem : rowGroup ∈ store.file.rowGroups)
    (hbatches : rowGroup.batches 8192 ≠ []) :
    ∀ name ∈ ["id", "unit_id"], int64Column columns name = .ok () := by
  obtain ⟨i, hget⟩ := List.mem_iff_getElem?.1 hmem
  have hi : i ∈ List.range store.file.rowGroups.length :=
    List.mem_range.2 (List.getElem?_eq_some_iff.1 hget).1
  obtain ⟨start, out, hread⟩ := exists_of_readParts (List.length_map _) (range_eq_filter _) h hi
  rw [readRowGroup, hget] at hread
  obtain ⟨batch, hbatch⟩ := List.exists_mem_of_ne_nil _ hbatches
  obtain ⟨start', refs, hbatch⟩ := exists_of_readChunks hread hbatch
  obtain ⟨_, hid, hbatch⟩ := bind_eq_ok_iff.1 hbatch
  obtain ⟨_, hunit, -⟩ := bind_eq_ok_iff.1 hbatch
  intro name hname
  simp only [List.mem_cons, List.not_mem_nil, or_false] at hname
  obtain rfl | rfl := hname
  · exact hid
  · exact hunit

/-- **The membership read.** All rows are valid: then the read returns their references in file order
exactly if the root columns at the positions of the two leaves are `id` and `unit_id`, or there is no batch
to read. -/
theorem readAllSnapMembershipRefs_eq_iff (hopen : openObject reader file = .ok store)
    (hroots : RootPositions roots) {refs : List SnapRef}
    (hrefs : List.Forall₂ (SnapRow.RefersTo reader) file.rows refs) :
    store.readAllSnapMembershipRefs reader roots = .ok (some refs) ↔
      file.schema.ProjectsMembership ∨ ((∀ rowGroup ∈ file.rowGroups, rowGroup.batches 8192 = []) ∧
        (roots file.schema file.schema.membershipPositions).isSome) := by
  have hschema := (openObject_eq_ok hopen).1
  rw [readAllSnapMembershipRefs_eq hopen]
  obtain rfl := file_of_openObject hopen
  cases hmask : roots store.file.schema store.file.schema.membershipPositions with
  | none =>
    refine iff_of_false (fun h => nomatch h) fun h => ?_
    rcases h with hprojects | ⟨-, hsome⟩
    · have hsome := hroots.accepts _ _ (hprojects.lt_length hschema)
      rw [hmask] at hsome
      cases hsome
    · cases hsome
  | some mask =>
    have hcolumn : ∀ name ∈ ["id", "unit_id"],
        int64Column (projectedColumns store.file.schema mask) name = .ok () ↔
          name ∈ store.file.schema.rootsAtLeaves :=
      fun name hname => int64Column_projected_iff hschema hroots hmask hname
    constructor
    · intro h
      by_cases hprojects : store.file.schema.ProjectsMembership
      · exact Or.inl hprojects
      · refine Or.inr ⟨fun rowGroup hmem => ?_, rfl⟩
        by_contra hbatches
        obtain ⟨found, hfound, -⟩ := bind_eq_ok_iff.1 h
        exact hprojects fun name hname =>
          (hcolumn name hname).1 (int64Column_of_readParts hfound hmem hbatches name hname)
    · intro h
      refine congrArg (some <$> ·) (readParts_membership hrefs fun i hi start => ?_)
      rcases h with hprojects | ⟨hbatches, -⟩
      · exact toOption_readRowGroup
          (toOption_membershipBatch fun name hname => (hcolumn name hname).2 (hprojects name hname))
          hi start
      · have hget := List.getElem?_eq_getElem hi
        have hnil := hbatches _ (List.mem_of_getElem? hget)
        have hrows := (store.file.rowGroups[i]).flatten_batches 8192
        rw [hnil, List.flatten_nil] at hrows
        rw [readRowGroup, hget, partAt_parts hget, ← hrows]
        dsimp only
        rw [hnil]
        rfl

end SnapStore

end

/-! ### The bounding box first -/

/-- The root columns at the positions, when all of them are in range. -/
def positionRoots (schema : SnapSchema) (positions : List ℕ) : Option (List ℕ) :=
  if ∀ i ∈ positions, i < schema.columns.length then some positions else none

theorem rootPositions_positionRoots : RootPositions positionRoots where
  accepts schema positions h := by
    rw [positionRoots, if_pos h]
    rfl
  selects schema positions mask h i := by
    rw [positionRoots, Option.ite_none_right_eq_some] at h
    obtain ⟨hlt, hsome⟩ := h
    obtain rfl := Option.some.inj hsome
    exact ⟨fun hi => ⟨hi, hlt i hi⟩, fun hi => hi.1⟩

/-- The two points in a file whose `bbox` struct comes first. -/
def bboxFirstFile : SnapFile where
  schema := {
    columns := [bboxRoot, int64Root "id", int64Root "unit_id", weightRoot, geometryRoot,
      ⟨"stem_role", true, .utf8, "Utf8"⟩]
    nodup := by decide }
  rowGroups := [pointGroup]

def bboxFirstStore : SnapStore where
  file := bboxFirstFile
  rowGroups := [⟨0, ⟨one32, one32, two32, two32⟩⟩]
  groupsWithoutStats := []

theorem openObject_bboxFirstFile :
    SnapStore.openObject pointReader bboxFirstFile = .ok bboxFirstStore := rfl

def pointRefs : List SnapRef := [⟨1, 7⟩, ⟨2, 7⟩]

theorem refersTo_pointRefs {rows : List SnapRow}
    (h : rows = [pointRow 1 one32 wkbOne, pointRow 2 two32 wkbTwo]) :
    List.Forall₂ (SnapRow.RefersTo pointReader) rows pointRefs := by
  subst h
  exact .cons ⟨rfl, rfl, rfl, rfl⟩ (.cons ⟨rfl, rfl, rfl, rfl⟩ .nil)

theorem readAllSnapMembershipRefs_eq_iff_points :
    pointStore.readAllSnapMembershipRefs pointReader positionRoots = .ok (some pointRefs) ↔
      pointFile.schema.ProjectsMembership ∨
        ((∀ rowGroup ∈ pointFile.rowGroups, rowGroup.batches 8192 = []) ∧
          (positionRoots pointFile.schema pointFile.schema.membershipPositions).isSome) :=
  SnapStore.readAllSnapMembershipRefs_eq_iff openObject_pointFile rootPositions_positionRoots
    (refersTo_pointRefs rfl)

/-- The four leaves of the struct shift the two positions by three. -/
theorem not_readAllSnapMembershipRefs_eq :
    ¬∀ (reader : SnapReader) (file : SnapFile) (store : SnapStore)
      (roots : SnapSchema → List ℕ → Option (List ℕ)) (refs : List SnapRef),
      SnapStore.openObject reader file = .ok store → RootPositions roots →
      List.Forall₂ (SnapRow.RefersTo reader) file.rows refs →
        store.readAllSnapMembershipRefs reader roots = .ok (some refs) := by
  intro h
  have hread : bboxFirstStore.readAllSnapMembershipRefs pointReader positionRoots =
      .error (.session (snapSchemaError "id column is not Int64")) := by decide +kernel
  have hclaim := h _ _ _ _ _ openObject_bboxFirstFile rootPositions_positionRoots
    (refersTo_pointRefs rfl)
  rw [hread] at hclaim
  cases hclaim

end Pourpoint
