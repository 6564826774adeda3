import Pourpoint.Catchment.IdLevels
import Pourpoint.Confinement
import Pourpoint.Engine.Pipeline
import Pourpoint.Graph.Rows
import Pourpoint.Snaps.Membership

/-!
# Opening a local dataset

`open_path` opens a dataset in a directory: it looks for the required files, reads the manifest and the
graph, opens the catchments with an index of their ids, validates graph and catchments against each other
and then the snap files against the catchments.

**Theorem (`openPath_eq_ok_iff`).** For a catchments file whose rows can be read, it returns a session
exactly when the session is loaded in the sense of the delineation, was read from the files of the
directory, and its snap targets are of units at the declared levels.
-/

namespace Pourpoint

open Fallible Library

/-! ## The dataset -/

/-- What a directory holds: which paths exist, and the files that can be read as what they are. -/
structure LocalDataset where
  isDir : Bool
  pathExists : UnixPath → Bool
  manifest : Option RawManifest
  graph : Option GraphFile
  catchments : Option CatchmentFile
  snap : UnixPath → Option SnapFile

/-- The constructors of `hfx` and the Parquet reader. -/
structure LocalReaders where
  hfx : Hfx
  unit : HfxUnit
  newGraph : List AdjacencyRow → Except GraphError DrainageGraph
  snap : SnapReader
  /-- `ProjectionMask::roots`. -/
  roots : SnapSchema → List ℕ → Option (List ℕ)

/-- The errors of `open_path`. -/
inductive LocalOpenError where
  | rootNotFound (path : String)
  | legacyGraphArrowRejected (path : String)
  | requiredArtifactMissing (artifact : String) (path : String)
  | unreadable (artifact : String)
  | graph (source : GraphReadError)
  | snap (source : SnapReadError)
  | session (source : SessionError)
  deriving DecidableEq, Repr

def requiredArtifacts : List String := ["manifest.json", "graph.parquet", "catchments.parquet"]

/-! ## The open -/

/-- `CatchmentStore::open`, with the ids of `read_all_ids`. The schema is checked before the ids are read. -/
def openCatchmentStore (hfx : HfxUnit) (file : CatchmentFile) :
    Except SessionError (CatchmentStore × List UnitId) := do
  let _ ← openObject hfx file fun _ => none
  let read ← readAllIds hfx file
  let store ← openObject hfx file read.idRowGroups
  .ok (store, read.ids)

/-- `validate_graph_catchments` on an open store, whose levels are read from the file. -/
def validateCatchments (hfx : HfxUnit) (manifest : Manifest) (graph : DrainageGraph)
    (file : CatchmentFile) (ids : List UnitId) : Except SessionError (UnitId → Option Level) :=
  validateCatchmentStore manifest graph {
    totalRows := file.rows.length
    ids
    levels := (readIdLevels hfx file).map catchmentLevels }

section

variable (readers : LocalReaders) (dataset : LocalDataset) (root : UnixPath)

/-- `SnapStore::open`, with the references that the cold membership validation reads. A projection that
is not accepted panics. -/
def openSnapStore (decl : SnapDecl) : Fallible LocalOpenError (DeclaredSnap × List SnapRef) := do
  let file ← orElse (.unreadable snapArtifact) (dataset.snap (root.join decl.snap))
  let store ← mapError .session (SnapStore.openObject readers.snap file)
  let refs ← mapError .snap (SnapStore.readAllSnapMembershipRefs readers.snap readers.roots store)
  let refs ← (liftM (unwrap refs) : Fallible LocalOpenError (List SnapRef))
  pure (⟨decl, store⟩, refs)

/-- The first file that is missing is the error. -/
def requireFiles : List String → Fallible LocalOpenError Unit
  | [] => pure ()
  | artifact :: artifacts => do
    failIf (dataset.pathExists (root.join artifact) = false)
      (.requiredArtifactMissing artifact (root.join artifact).display)
    requireFiles artifacts

/-- `DatasetSession::open_path`. -/
def openPath : Fallible LocalOpenError DatasetSession := do
  failIf (dataset.isDir = false) (.rootNotFound root.display)
  failIf (dataset.pathExists (root.join "graph.arrow") = true)
    (.legacyGraphArrowRejected (root.join "graph.arrow").display)
  requireFiles dataset root requiredArtifacts
  let raw ← orElse (.session .manifestJsonParse) dataset.manifest
  let parsed ← mapError .session (buildManifest readers.hfx raw)
  mapError .session (validateLocalAuxPaths dataset.pathExists root parsed.aux)
  let graphFile ← orElse (.graph .parquetParse) dataset.graph
  let graph ← mapError .graph (readGraph readers.unit readers.newGraph graphFile)
  let file ← orElse (.unreadable catchmentsArtifact) dataset.catchments
  let (catchments, ids) ← mapError .session (openCatchmentStore readers.unit file)
  let levels ← mapError .session (validateCatchments readers.unit parsed.manifest graph file ids)
  let snaps ← parsed.aux.snaps.mapM (openSnapStore readers dataset root)
  snaps.forM fun snap => mapError .session (validateSnapRefs snap.2 snap.1.decl levels)
  pure {
    manifest := parsed.manifest
    graph
    catchments
    snapStores := snaps.map (·.1)
    aux := parsed.aux }

end

/-! ## Well-formed datasets -/

/-- A snap file that opens and whose targets are of units at the declared levels. -/
structure LocalDataset.AcceptsSnap (readers : LocalReaders) (dataset : LocalDataset) (root : UnixPath)
    (rows : List CatchmentIdLevelRow) (decl : SnapDecl) (snap : DeclaredSnap) : Prop where
  decl_eq : snap.decl = decl
  opened : ∃ file, dataset.snap (root.join decl.snap) = some file ∧
    SnapStore.openObject readers.snap file = .ok snap.store
  refs : ∃ refs, SnapStore.readAllSnapMembershipRefs readers.snap readers.roots snap.store =
      .ok (some refs) ∧
    ∀ ref ∈ refs, ∃ row ∈ rows, row.id = ref.unitId ∧ row.level ∈ decl.referencesLevels

/-- The dataset is well formed, and the session is what is read from it. -/
structure LocalDataset.Accepts (readers : LocalReaders) (dataset : LocalDataset) (root : UnixPath)
    (session : DatasetSession) : Prop where
  isDir : dataset.isDir = true
  current : dataset.pathExists (root.join "graph.arrow") = false
  required : ∀ artifact ∈ requiredArtifacts, dataset.pathExists (root.join artifact) = true
  manifest : ∃ raw, dataset.manifest = some raw ∧
    buildManifest readers.hfx raw = .ok ⟨session.manifest, session.aux⟩
  aux : ∀ entry ∈ session.aux.checkedArtifacts, pathEscapesRoot entry.2.2 = false ∧
    dataset.pathExists (root.join entry.2.2) = true
  graph : ∃ file, dataset.graph = some file ∧
    readGraph readers.unit readers.newGraph file = .ok session.graph
  catchments : dataset.catchments = some session.catchments.file
  levels : session.catchments.file.rowGroups = [] ∨ .level ∈ session.catchments.file.columns
  loaded : session.Loaded readers.unit
  snaps : List.Forall₂ (dataset.AcceptsSnap readers root (session.catchments.file.idLevels readers.unit))
    session.aux.snaps session.snapStores

/-! ## Catchments -/

section Catchments

variable {hfx : HfxUnit} {file : CatchmentFile}

theorem readIdLevel_of_rowUnit {columns : List CatchmentColumn} {row : CatchmentRow} {unit : CatchmentUnit}
    (h : rowUnit hfx columns row = .ok unit) (hlevel : .level ∈ columns) :
    readIdLevel hfx row = .ok ⟨unit.id, unit.level⟩ := by
  have hread := readFrom_of_rowUnit h
  have hunit : row .level = some unit.level ∧ hfx.level unit.level = none := by
    simp only [rowUnit, bind_eq_ok_iff, levelValue, if_pos hlevel] at h
    obtain ⟨_, -, _, -, level, hvalue, _, hcheck, _, -, _, -, _, -, _, -, _, -, _, -, _, -, _, -, _, -,
      _, -, _, -, _, -, _, -, _, -, heq⟩ := h
    cases heq
    exact ⟨(cell_eq_some (nonNull_eq_ok.1 hvalue)).2, checked_eq_ok.1 hcheck⟩
  exact readIdLevel_eq_ok_iff.2 ⟨(cell_eq_some hread.id).2, hunit.1, hread.checked, hunit.2⟩

theorem idLevels_of_forall₂ {columns : List CatchmentColumn} {rows : List CatchmentRow}
    {found : List CatchmentIdLevelRow} (hvalid : ∀ row ∈ rows, ∃ unit, rowUnit hfx columns row = .ok unit)
    (hlevel : .level ∈ columns)
    (h : List.Forall₂ (fun row found => readIdLevel hfx row = .ok found) rows found) :
    (rows.filterMap (rowUnit? hfx columns)).map (fun unit => ⟨unit.id, unit.level⟩) = found := by
  induction h with
  | nil => rfl
  | @cons row found rows rest hhead _ ih =>
    obtain ⟨unit, hunit⟩ := hvalid row List.mem_cons_self
    rw [List.filterMap_cons_some (rowUnit?_eq_some_iff.2 hunit), List.map_cons,
      ih fun other hother => hvalid other (List.mem_cons_of_mem _ hother)]
    rw [readIdLevel_of_rowUnit hunit hlevel] at hhead
    cases hhead
    rfl

theorem namedColumnIndex_eq_ok_iff {columns : List CatchmentColumn} {column : CatchmentColumn} :
    (∃ index, namedColumnIndex columns column = .ok index) ↔ column ∈ columns := by
  unfold namedColumnIndex
  rw [← List.isSome_idxOf?]
  cases columns.idxOf? column with
  | none => simp [require]
  | some index => simp [require]

/-- **The ids and levels of valid rows** are read, where there is a level column. -/
theorem readIdLevels_eq_ok_iff (hvalid : file.Valid hfx) (hid : .id ∈ file.columns)
    {rows : List CatchmentIdLevelRow} : readIdLevels hfx file = .ok rows ↔
      (file.rowGroups = [] ∨ .level ∈ file.columns) ∧ file.idLevels hfx = rows := by
  have hread : ∀ found, readIdLevels hfx file = .ok found → .level ∈ file.columns →
      file.idLevels hfx = found := fun found h hlevel =>
    idLevels_of_forall₂ hvalid hlevel (forall₂_of_readIdLevels h)
  by_cases hempty : file.rowGroups = []
  · have hrows : file.idLevels hfx = [] := by
      rw [CatchmentFile.idLevels, CatchmentFile.units, CatchmentFile.rows, hempty]
      rfl
    rw [readIdLevels, if_pos hempty, hrows]
    simp [hempty]
  · constructor
    · intro h
      have hlevel : .level ∈ file.columns := by
        rw [readIdLevels, if_neg hempty] at h
        obtain ⟨_, hprojection, -⟩ := bind_eq_ok_iff.1 h
        obtain ⟨_, -, hprojection⟩ := bind_eq_ok_iff.1 hprojection
        obtain ⟨index, hindex, -⟩ := bind_eq_ok_iff.1 hprojection
        exact namedColumnIndex_eq_ok_iff.1 ⟨index, hindex⟩
      exact ⟨.inr hlevel, hread rows h hlevel⟩
    · rintro ⟨hlevel, rfl⟩
      have hlevel := hlevel.resolve_left hempty
      obtain ⟨i, hi⟩ := namedColumnIndex_eq_ok_iff.2 hid
      obtain ⟨j, hj⟩ := namedColumnIndex_eq_ok_iff.2 hlevel
      obtain ⟨groups, hgroups⟩ : ∃ groups, (List.finRange file.rowGroups.length).mapM
          (idLevelsOfGroup hfx file) = .ok groups := by
        refine exists_mapM fun rowGroup _ => exists_mapM fun row hrow => ?_
        obtain ⟨group, hgroup, -, hmem⟩ :=
          mem_rows_of_mem_groupRows (List.fst_mem_of_mem_zipIdx hrow)
        obtain ⟨unit, hunit⟩ := hvalid row.1 (List.mem_flatMap.2 ⟨group, hgroup, hmem⟩)
        exact ⟨_, mapError_eq_ok_iff.2 (readIdLevel_of_rowUnit hunit hlevel)⟩
      have hok : readIdLevels hfx file = .ok groups.flatten := by
        rw [readIdLevels, if_neg hempty, idLevelProjectionIndices, hi, ok_bind, hj, ok_bind, ok_bind,
          hgroups, ok_bind]
      rw [hok, hread _ hok hlevel]

/-- Whether a file opens does not depend on the index. -/
theorem exists_openObject {idRowGroups : UnitId → Option (Fin file.rowGroups.length)}
    {store : CatchmentStore} (h : openObject hfx file idRowGroups = .ok store)
    (other : UnitId → Option (Fin file.rowGroups.length)) :
    ∃ store, openObject hfx file other = .ok store := by
  unfold openObject at h ⊢
  obtain ⟨_, hid, h⟩ := bind_eq_ok_iff.1 h
  obtain ⟨_, harea, h⟩ := bind_eq_ok_iff.1 h
  obtain ⟨_, hup, h⟩ := bind_eq_ok_iff.1 h
  obtain ⟨_, hbbox, h⟩ := bind_eq_ok_iff.1 h
  obtain ⟨_, hgeometry, -⟩ := bind_eq_ok_iff.1 h
  simp only [hid, harea, hup, hbbox, hgeometry, ok_bind]
  exact ⟨_, rfl⟩

/-- **The catchments open** with the index of their rows, where the ids are distinct. -/
theorem openCatchmentStore_eq_ok_iff (hvalid : file.Valid hfx) {store : CatchmentStore}
    {ids : List UnitId} :
    openCatchmentStore hfx file = .ok (store, ids) ↔ store.file = file ∧
      (∃ idRowGroups, openObject hfx store.file idRowGroups = .ok store) ∧ store.IndexesRows ∧
      ((file.units hfx).map (·.id)).Nodup ∧ ids = (file.units hfx).map (·.id) := by
  have hsome : Function.Injective (List.map (some : UnitId → Option UnitId)) :=
    List.map_injective_iff.2 (Option.some_injective UnitId)
  have hrows : (file.rows.map fun row => row .id) = ((file.units hfx).map (·.id)).map some := by
    rw [map_id_rows hvalid, List.map_map]
    rfl
  have hnodup : (file.rows.map fun row => row .id).Nodup ↔ ((file.units hfx).map (·.id)).Nodup := by
    rw [hrows, List.nodup_map_iff (Option.some_injective UnitId)]
  constructor
  · intro h
    obtain ⟨_, -, h⟩ := bind_eq_ok_iff.1 h
    obtain ⟨read, hread, h⟩ := bind_eq_ok_iff.1 h
    obtain ⟨opened, hopen, h⟩ := bind_eq_ok_iff.1 h
    cases h
    obtain ⟨hindex, hids⟩ := indexesRows_of_readAllIds hread hopen
    obtain rfl := file_of_openObject hopen
    exact ⟨rfl, ⟨_, hopen⟩, hindex, hnodup.1 hids, hsome ((map_id_of_readAllIds hread).symm.trans hrows)⟩
  · rintro ⟨rfl, ⟨idRowGroups, hopen⟩, hindex, hids, rfl⟩
    have hreadable : ∀ row ∈ store.file.rows, ∃ id, readId hfx row = .ok id := by
      intro row hrow
      obtain ⟨unit, hunit⟩ := hvalid row hrow
      have hcells := readFrom_of_rowUnit hunit
      exact ⟨unit.id, readId_of_valid (cell_eq_some hcells.id).2 hcells.checked⟩
    obtain ⟨read, hread⟩ := exists_readAllIds hreadable (hnodup.2 hids)
    obtain ⟨first, hfirst⟩ := exists_openObject hopen fun _ => none
    obtain ⟨reopened, hreopened⟩ := exists_openObject hopen read.idRowGroups
    -- Both indices are that of the rows.
    have hsame : read.idRowGroups = idRowGroups := by
      have hfound := (indexesRows_of_readAllIds hread hreopened).1
      rw [(openObject_eq_ok hreopened).2] at hfound
      rw [(openObject_eq_ok hopen).2] at hindex
      funext id
      refine Option.ext fun index => ?_
      exact (hfound id index).trans (hindex id index).symm
    rw [openCatchmentStore, hfirst, ok_bind, hread, ok_bind, hsame, hopen, ok_bind,
      hsome ((map_id_of_readAllIds hread).symm.trans hrows)]

end Catchments

/-- **The validation of the catchments** decides that they are consistent with manifest and graph. -/
theorem validateCatchments_eq_ok_iff {hfx : HfxUnit} {file : CatchmentFile} (hvalid : file.Valid hfx)
    (hid : .id ∈ file.columns) {manifest : Manifest} {graph : DrainageGraph}
    {levels : UnitId → Option Level} :
    validateCatchments hfx manifest graph file ((file.units hfx).map (·.id)) = .ok levels ↔
      (file.rowGroups = [] ∨ .level ∈ file.columns) ∧
        Consistent manifest graph (file.idLevels hfx) ∧ catchmentLevels (file.idLevels hfx) = levels := by
  have hids : (file.units hfx).map (·.id) = (file.idLevels hfx).map (·.id) := by
    rw [CatchmentFile.idLevels, List.map_map]
    rfl
  have hlength : file.rows.length = (file.idLevels hfx).length := by
    have := congrArg List.length (map_id_rows hvalid)
    rw [List.length_map, List.length_map] at this
    rw [CatchmentFile.idLevels, List.length_map, this]
    rfl
  -- Once the levels are read the store is that of the rows.
  have hstore : readIdLevels hfx file = .ok (file.idLevels hfx) →
      validateCatchments hfx manifest graph file ((file.units hfx).map (·.id)) =
        validateGraphCatchments manifest graph (file.idLevels hfx) := by
    intro hread
    rw [validateCatchments, hread, hids, hlength]
    rfl
  constructor
  · intro h
    have hread : ∃ rows, readIdLevels hfx file = .ok rows := by
      obtain ⟨-, h⟩ := failWhen_bind_eq_ok_iff.1 h
      obtain ⟨_, hlevels, -⟩ := bind_eq_ok_iff.1 h
      cases hread : readIdLevels hfx file with
      | error e =>
        dsimp only at hlevels
        rw [hread] at hlevels
        cases hlevels
      | ok rows => exact ⟨rows, rfl⟩
    obtain ⟨rows, hrows⟩ := hread
    obtain ⟨hlevel, rfl⟩ := (readIdLevels_eq_ok_iff hvalid hid).1 hrows
    rw [hstore hrows] at h
    exact ⟨hlevel, consistent_of_validate h, (validateGraphCatchments_eq_ok.1 h).2.2.2.2⟩
  · rintro ⟨hlevel, hconsistent, rfl⟩
    rw [hstore ((readIdLevels_eq_ok_iff hvalid hid).2 ⟨hlevel, rfl⟩)]
    exact hconsistent.validate

/-! ## Snap files -/

theorem checkSnapRef_eq_ok_iff {rows : List CatchmentIdLevelRow} (hnodup : (rows.map (·.id)).Nodup)
    {decl : SnapDecl} {ref : SnapRef} : checkSnapRef decl (catchmentLevels rows) ref = .ok () ↔
      ∃ row ∈ rows, row.id = ref.unitId ∧ row.level ∈ decl.referencesLevels := by
  have hlevel : ∀ level, catchmentLevels rows ref.unitId = some level ↔
      ∃ row ∈ rows, row.id = ref.unitId ∧ row.level = level := by
    intro level
    constructor
    · intro h
      obtain ⟨row, hfind, hrow⟩ := Option.map_eq_some_iff.1 h
      refine ⟨row, List.mem_reverse.1 (List.mem_of_find?_eq_some hfind), ?_, hrow⟩
      simpa using List.find?_some hfind
    · rintro ⟨row, hrow, hid, rfl⟩
      rw [← hid, catchmentLevels_of_mem hnodup hrow]
  simp only [checkSnapRef, require_bind_eq_ok_iff, failWhen_eq_ok_iff, not_not, hlevel]
  constructor
  · rintro ⟨level, ⟨row, hrow, hid, rfl⟩, hmem⟩
    exact ⟨row, hrow, hid, hmem⟩
  · rintro ⟨row, hrow, hid, hmem⟩
    exact ⟨row.level, ⟨row, hrow, hid, rfl⟩, hmem⟩

theorem validateSnapRefs_eq_ok_iff {rows : List CatchmentIdLevelRow}
    (hnodup : (rows.map (·.id)).Nodup) {decl : SnapDecl} {refs : List SnapRef} :
    validateSnapRefs refs decl (catchmentLevels rows) = .ok () ↔
      ∀ ref ∈ refs, ∃ row ∈ rows, row.id = ref.unitId ∧ row.level ∈ decl.referencesLevels := by
  rw [validateSnapRefs, forM_eq_ok_iff]
  simp only [checkSnapRef_eq_ok_iff hnodup]

section Open

variable {readers : LocalReaders} {dataset : LocalDataset} {root : UnixPath}

theorem openSnapStore_eq_ok_iff {decl : SnapDecl} {snap : DeclaredSnap × List SnapRef} :
    (openSnapStore readers dataset root decl).run = .ok (.ok snap) ↔ snap.1.decl = decl ∧
      (∃ file, dataset.snap (root.join decl.snap) = some file ∧
        SnapStore.openObject readers.snap file = .ok snap.1.store) ∧
      SnapStore.readAllSnapMembershipRefs readers.snap readers.roots snap.1.store =
        .ok (some snap.2) := by
  obtain ⟨⟨found, store⟩, refs⟩ := snap
  have hunwrap : ∀ refs' : Option (List SnapRef), unwrap refs' = .ok refs ↔ refs' = some refs := by
    intro refs'
    cases refs' with
    | none => simp [unwrap]
    | some refs' => simp
  simp only [openSnapStore, bind_run_eq_ok_iff, orElse_run_eq_ok_iff, mapError_run_eq_ok_iff,
    lift_run_eq_ok_iff, pure_run_eq_ok_iff]
  constructor
  · rintro ⟨file, hfile, opened, hopen, found, hread, refs', hrefs, heq⟩
    cases heq
    rw [(hunwrap _).1 hrefs] at hread
    exact ⟨rfl, ⟨file, hfile, hopen⟩, hread⟩
  · rintro ⟨rfl, ⟨file, hfile, hopen⟩, hread⟩
    exact ⟨file, hfile, store, hopen, _, hread, refs, rfl, rfl⟩

/-- **The snap files** are opened and validated one by one. -/
theorem openSnapStores_eq_ok_iff {rows : List CatchmentIdLevelRow} (hnodup : (rows.map (·.id)).Nodup)
    {decls : List SnapDecl} {stores : List DeclaredSnap} :
    (∃ snaps, (decls.mapM (openSnapStore readers dataset root)).run = .ok (.ok snaps) ∧
      (snaps.forM fun snap => (mapError .session (validateSnapRefs snap.2 snap.1.decl
        (catchmentLevels rows)) : Fallible LocalOpenError Unit)).run = .ok (.ok ()) ∧
      snaps.map (·.1) = stores) ↔
    List.Forall₂ (dataset.AcceptsSnap readers root rows) decls stores := by
  simp only [mapM_run_eq_ok_iff fun _ _ => openSnapStore_eq_ok_iff, forM_run_eq_ok_iff,
    mapError_run_eq_ok_iff, validateSnapRefs_eq_ok_iff hnodup]
  constructor
  · rintro ⟨snaps, hopened, hrefs, rfl⟩
    induction hopened with
    | nil => exact .nil
    | @cons decl snap decls snaps hhead _ ih =>
      obtain ⟨hsnap, hrefs⟩ := List.forall_mem_cons.1 hrefs
      obtain ⟨hdecl, hopen, hread⟩ := hhead
      subst hdecl
      exact .cons ⟨rfl, hopen, _, hread, hsnap⟩ (ih hrefs)
  · intro h
    induction h with
    | nil => exact ⟨[], .nil, by simp, rfl⟩
    | @cons decl store decls stores hhead _ ih =>
      obtain ⟨snaps, hopened, hrefs, rfl⟩ := ih
      obtain ⟨hdecl, hopen, refs, hread, hsnap⟩ := hhead
      refine ⟨(store, refs) :: snaps, .cons ⟨hdecl, hopen, hread⟩ hopened, ?_, rfl⟩
      rw [List.forall_mem_cons]
      exact ⟨by rwa [hdecl], hrefs⟩

theorem requireFiles_eq_ok_iff {artifacts : List String} :
    (requireFiles dataset root artifacts).run = .ok (.ok ()) ↔
      ∀ artifact ∈ artifacts, dataset.pathExists (root.join artifact) = true := by
  induction artifacts with
  | nil => exact iff_of_true rfl (by simp)
  | cons artifact artifacts ih =>
    rw [requireFiles, bind_run_eq_ok_iff, List.forall_mem_cons, ← ih]
    simp [failIf_run_eq_ok_iff]

theorem validateLocalAuxPaths_eq_ok_iff {pathExists : UnixPath → Bool} {aux : AuxDeclarations} :
    validateLocalAuxPaths pathExists root aux = .ok () ↔ ∀ entry ∈ aux.checkedArtifacts,
      pathEscapesRoot entry.2.2 = false ∧ pathExists (root.join entry.2.2) = true := by
  unfold validateLocalAuxPaths
  rw [forM_eq_ok_iff]
  simp only [validateLocalAuxArtifact, failWhen_bind_eq_ok_iff, failWhen_eq_ok_iff]
  simp

/-- What opens is well formed. -/
theorem accepts_of_openPath {session : DatasetSession}
    (hcatchments : ∀ file, dataset.catchments = some file →
      file.Valid readers.unit ∧ ∀ rowGroup ∈ file.rowGroups, rowGroup.StatisticsBound)
    (h : (openPath readers dataset root).run = .ok (.ok session)) :
    dataset.Accepts readers root session := by
  simp only [openPath, bind_run_eq_ok_iff, orElse_run_eq_ok_iff, mapError_run_eq_ok_iff,
    failIf_run_eq_ok_iff, pure_run_eq_ok_iff] at h
  obtain ⟨_, hdir, _, hcurrent, _, hrequired, raw, hraw, parsed, hparsed, _, haux, graphFile, hgraphFile,
    graph, hgraph, file, hfile, ⟨catchments, ids⟩, hopen, levels, hlevels, snaps, hsnaps, _, hrefs, rfl⟩ := h
  obtain ⟨hvalid, hbound⟩ := hcatchments file hfile
  obtain ⟨rfl, ⟨idRowGroups, hobject⟩, hindex, hnodup, rfl⟩ :=
    (openCatchmentStore_eq_ok_iff hvalid).1 hopen
  have hid : .id ∈ catchments.file.columns := (openObject_eq_ok hobject).1 _ (by decide)
  obtain ⟨hlevel, hconsistent, rfl⟩ := (validateCatchments_eq_ok_iff hvalid hid).1 hlevels
  exact {
    isDir := by simpa using hdir
    current := by simpa using hcurrent
    required := requireFiles_eq_ok_iff.1 hrequired
    manifest := ⟨raw, hraw, hparsed⟩
    aux := validateLocalAuxPaths_eq_ok_iff.1 haux
    graph := ⟨graphFile, hgraphFile, hgraph⟩
    catchments := hfile
    levels := hlevel
    loaded := ⟨⟨idRowGroups, hobject⟩, hindex, hbound, hvalid, hconsistent⟩
    snaps := (openSnapStores_eq_ok_iff hconsistent.nodup).1 ⟨snaps, hsnaps, hrefs, rfl⟩ }

/-- What is well formed opens. -/
theorem LocalDataset.Accepts.openPath {session : DatasetSession}
    (h : dataset.Accepts readers root session) :
    (openPath readers dataset root).run = .ok (.ok session) := by
  simp only [Pourpoint.openPath, bind_run_eq_ok_iff, orElse_run_eq_ok_iff, mapError_run_eq_ok_iff,
    failIf_run_eq_ok_iff, pure_run_eq_ok_iff]
  obtain ⟨raw, hraw, hparsed⟩ := h.manifest
  obtain ⟨graphFile, hgraphFile, hgraph⟩ := h.graph
  obtain ⟨idRowGroups, hobject⟩ := h.loaded.opened
  have hid : .id ∈ session.catchments.file.columns := (openObject_eq_ok hobject).1 _ (by decide)
  obtain ⟨snaps, hsnaps, hrefs, hstores⟩ :=
    (openSnapStores_eq_ok_iff h.loaded.consistent.nodup).2 h.snaps
  refine ⟨(), by simp [h.isDir], (), by simp [h.current], (), requireFiles_eq_ok_iff.2 h.required,
    raw, hraw, _, hparsed, (), validateLocalAuxPaths_eq_ok_iff.2 h.aux, graphFile, hgraphFile, _, hgraph,
    _, h.catchments, (session.catchments, (session.catchments.file.units readers.unit).map (·.id)), ?_, _, ?_,
    snaps, hsnaps, (), hrefs, ?_⟩
  · exact (openCatchmentStore_eq_ok_iff h.loaded.valid).2
      ⟨rfl, h.loaded.opened, h.loaded.indexed, h.loaded.nodup_ids, rfl⟩
  · exact (validateCatchments_eq_ok_iff h.loaded.valid hid).2 ⟨h.levels, h.loaded.consistent, rfl⟩
  · rw [hstores]

/-- **Opening a dataset.** Over catchments whose rows can be read, the open returns a session exactly
where the dataset is well formed; the session is then loaded as the delineation needs it. -/
theorem openPath_eq_ok_iff (readers : LocalReaders) (dataset : LocalDataset) (root : UnixPath)
    (session : DatasetSession) (hcatchments : ∀ file, dataset.catchments = some file →
      file.Valid readers.unit ∧ ∀ rowGroup ∈ file.rowGroups, rowGroup.StatisticsBound) :
    (openPath readers dataset root).run = .ok (.ok session) ↔
      dataset.Accepts readers root session :=
  ⟨accepts_of_openPath hcatchments, LocalDataset.Accepts.openPath⟩

end Open

/-! ### Two triangles and two snap targets -/

def triangleReaders : LocalReaders where
  hfx := { acceptingHfx with
    schemaId := fun text => if text = "hfx.aux.snap.v2" then .ok .snapV2 else .ok (.thirdParty text) }
  unit := acceptingHfxUnit
  newGraph := uniqueGraph
  snap := pointReader
  roots := positionRoots

def triangleRoot : UnixPath := .ofString "/data/triangles"

def triangleSnapDecl : SnapDecl := ⟨"stems", "", "snap.parquet", [0], "upstream area"⟩

/-- The targets are on the unit 7. -/
def triangleDataset : LocalDataset where
  isDir := true
  pathExists path := path ≠ triangleRoot.join "graph.arrow"
  manifest := some { namedManifest "triangles" "0.1.0" with
    unitCount := some 2
    auxiliary := [{
      schema := some "hfx.aux.snap.v2"
      artifacts := [("snap", "snap.parquet")]
      metadata := .object [("name", .string "stems"), ("description", .string ""),
        ("weight_semantics", .string "upstream area"), ("references_levels", .array [.integer 0])] }] }
  graph := some {
    schema := exampleGraphSchema
    batches := [some (exampleBatch [some 9, some 7] [some 0, some 0] [[7], []] rfl rfl)]
    rowGroups := [⟨[⟨some 9, some 0, some [7]⟩, ⟨some 7, some 0, some []⟩],
      fun _ => some (.int32 (some 0) (some 0))⟩] }
  catchments := some (triangleFile none)
  snap path := if path = triangleRoot.join "snap.parquet" then some pointFile else none

def openedTriangles : DatasetSession :=
  { Engine.triangleSession with
    manifest := { Engine.triangleSession.manifest with
      createdAt := "2026-01-01"
      auxiliary := [(.snapV2, [("snap", "snap.parquet")])] }
    snapStores := [⟨triangleSnapDecl, pointStore⟩]
    aux := ⟨[], [triangleSnapDecl], [], []⟩ }

theorem triangleDataset_accepts :
    triangleDataset.Accepts triangleReaders triangleRoot openedTriangles where
  isDir := rfl
  current := by decide +kernel
  required := by decide +kernel
  manifest := ⟨_, rfl, rfl⟩
  aux := by decide +kernel
  graph := ⟨_, rfl, rfl⟩
  catchments := rfl
  levels := .inr (by decide)
  loaded := {
    opened := Engine.triangleSession_loaded.opened
    indexed := Engine.triangleSession_loaded.indexed
    bounded := Engine.triangleSession_loaded.bounded
    valid := Engine.triangleSession_loaded.valid
    consistent := validateGraphCatchments_eq_ok_iff.1 ⟨_, rfl⟩ }
  snaps := .cons ⟨rfl, ⟨pointFile, rfl, rfl⟩, pointRefs, by decide +kernel, by decide +kernel⟩ .nil

theorem openPath_eq_ok_iff_triangles :
    (openPath triangleReaders triangleDataset triangleRoot).run = .ok (.ok openedTriangles) := by
  refine (openPath_eq_ok_iff triangleReaders triangleDataset triangleRoot openedTriangles ?_).2
    triangleDataset_accepts
  intro file hfile
  cases hfile
  exact ⟨Engine.triangleSession_loaded.valid, Engine.triangleSession_loaded.bounded⟩

end Pourpoint
