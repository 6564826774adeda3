import Pourpoint.ArtifactCache
import Pourpoint.Catchment.IdLevels

/-!
# Opening a remote session

`open_remote` takes the manifest and the graph from the cache when it has a pair for the source, and
otherwise fetches and caches them. It then opens the catchments, with an id index that may come from the
cache, takes the HEAD of every snap file, and looks for a validation sidecar with the metadata of the
remote objects. When the sidecar matches, the referential validation is skipped; otherwise it runs, and
when it passes the sidecar is written.

What the bytes of the artifacts hold is a parameter (`DatasetParser`); of the catchments these are the
columns of a Parquet file, which the readers of the catchment store then read. A file write may fail: that
of the manifest and the graph fails the open, those of the id index and the sidecar do not.
-/

namespace Pourpoint.RemoteOpen

/-! ## Remote objects -/

/-- An object with its ETag. -/
structure StoredObject where
  content : List UInt8
  etag : Option String
  deriving DecidableEq, Repr

def StoredObject.size (object : StoredObject) : ℕ := object.content.length

/-- The objects of a source by their paths. -/
abbrev RemoteObjects := UnixPath → Option StoredObject

/-- The path of an artifact of a source. -/
def artifactPath (source : Source) (artifact : String) : UnixPath :=
  remoteArtifactPath (.ofString source.remoteRoot) artifact

/-- `ArtifactMeta::from_parts`. -/
def fromParts (path : String) (etag : Option String) (size : ℕ) : Option ArtifactMeta :=
  etag.map fun etag => ⟨path, etag, size⟩

section

variable (source : Source) (objects : RemoteObjects)

/-- The HEAD of an artifact, with its content. -/
def remoteObject (name artifact : String) : Except SessionError StoredObject :=
  let path := artifactPath source artifact
  require (.remoteArtifactRead name path.display) (objects path)

/-- `remote_artifact_meta`. Nothing without an ETag. -/
def remoteArtifactMeta (artifact : String) : Option ArtifactMeta :=
  (objects (artifactPath source artifact)).bind fun object =>
    fromParts artifact object.etag object.size

end

/-! ## The parser and the disk -/

/-- `IdIndex`: the ids in row order and their row groups. -/
structure IdIndex where
  ids : List UnitId
  rowGroups : List (UnitId × ℕ)
  deriving DecidableEq, Repr

/-- An id index file that this version has written and that is not cut off. -/
structure IdIndexFile where
  index : IdIndex
  fileSize : ℕ
  fileEtag : Option String
  deriving DecidableEq, Repr

/-- The index of the ids that were read. -/
def IdIndex.ofRead {n : ℕ} (read : IdRowGroups n) : IdIndex where
  ids := read.ids
  rowGroups := read.ids.filterMap fun id => (read.idRowGroups id).map fun rowGroup => (id, rowGroup.val)

/-- What the bytes of the artifacts hold, and the constructors of `hfx`. -/
structure DatasetParser where
  manifest : List UInt8 → Except SessionError ParsedManifest
  graph : List UInt8 → Except SessionError DrainageGraph
  /-- The schema checks of the catchments, and their row count. -/
  catchmentRows : List UInt8 → Except SessionError ℕ
  hfxUnit : HfxUnit
  /-- The catchments with the columns of a projection. -/
  catchments : List CatchmentColumn → List UInt8 → Except SessionError CatchmentFile
  /-- The schema checks of a snap file. -/
  openSnap : List UInt8 → Except SessionError Unit
  snapRefs : List UInt8 → Except SessionError (List SnapRef)

namespace DatasetParser

variable (parser : DatasetParser)

/-- `read_all_ids_with_row_groups`. -/
def readIds (bytes : List UInt8) : Except SessionError IdIndex := do
  let file ← parser.catchments [.id] bytes
  let read ← readAllIds parser.hfxUnit file
  .ok (.ofRead read)

/-- `read_ids_levels_with_row_groups`. -/
def readIdsLevels (bytes : List UInt8) :
    Except SessionError (IdIndex × (UnitId → Option Level)) := do
  let file ← parser.catchments [.id, .level] bytes
  let found ← Pourpoint.readIdsLevels parser.hfxUnit file
  .ok (.ofRead found.toIdRowGroups, found.levels)

/-- `read_id_levels`. -/
def readIdLevels (bytes : List UInt8) : Except SessionError (List CatchmentIdLevelRow) := do
  let file ← parser.catchments [.id, .level] bytes
  Pourpoint.readIdLevels parser.hfxUnit file

end DatasetParser

/-- The readers that the cache of manifests and graphs uses. -/
def DatasetParser.artifacts (parser : DatasetParser) : ArtifactParser DrainageGraph where
  manifest bytes := (parser.manifest bytes).toOption
  graph bytes := (parser.graph bytes).toOption

/-- The files of the cache directory. -/
structure Disk where
  files : CacheFiles
  idIndexes : List String → Option IdIndexFile

def Disk.empty : Disk := ⟨fun _ => none, fun _ => none⟩

/-- How a file write ends. -/
inductive FileFault where
  | none
  /-- It fails and leaves the file as it was. -/
  | before
  /-- It fails and leaves the file cut off. -/
  | inside
  deriving DecidableEq, Repr

/-- A file is written, torn, or not written. -/
def FileFault.write {α : Type} (fault : FileFault) (files : List String → Option α)
    (location : List String) (file : α) (torn : Option α) : List String → Option α :=
  match fault with
  | .none => Function.update files location (some file)
  | .before => files
  | .inside => Function.update files location torn

/-- The faults of one open. The manifest and graph write may stop in one of its files. -/
structure Faults where
  manifestGraph : Option (ℕ × Bool)
  idIndex : FileFault
  sidecar : FileFault
  deriving DecidableEq, Repr

def Faults.none : Faults := ⟨.none, .none, .none⟩

/-! ## Manifest and graph -/

section Open

variable (cache : RemoteArtifactCache) (parser : DatasetParser) (faults : Faults) (disk : Disk)
  (source : Source) (objects : RemoteObjects)

/-- What is fetched, with its bytes. -/
structure FetchedManifestGraph where
  parsed : ParsedManifest
  graph : DrainageGraph
  manifestBytes : List UInt8
  graphBytes : List UInt8

/-- The remote manifest and graph. -/
def fetchManifestGraph : Except SessionError FetchedManifestGraph := do
  let manifest ← remoteObject source objects "manifest.json" "manifest.json"
  let parsed ← parser.manifest manifest.content
  validateRemoteAuxPaths parsed.aux
  let graphObject ← remoteObject source objects "graph.parquet" "graph.parquet"
  let graph ← parser.graph graphObject.content
  .ok ⟨parsed, graph, manifest.content, graphObject.content⟩

/-- The manifest and the graph of the session, from the cache or fetched and cached. -/
def acquireManifestGraph : Disk × Except SessionError (ParsedManifest × DrainageGraph) :=
  match cache.readEntryForSource parser.artifacts disk.files source with
  | some pair => (disk, .ok pair)
  | none =>
    match fetchManifestGraph parser source objects with
    | .error error => (disk, .error error)
    | .ok fetched =>
      match faults.manifestGraph with
      | none =>
        ({ disk with
            files := cache.writeManifestGraph disk.files source fetched.parsed.manifest
              fetched.manifestBytes fetched.graphBytes },
          .ok (fetched.parsed, fetched.graph))
      | some (completed, inside) =>
        ({ disk with
            files := RemoteArtifactCache.stopped disk.files
              (cache.manifestGraphWrites source fetched.parsed.manifest fetched.manifestBytes
                fetched.graphBytes) completed inside },
          .error (.cache "write"))

/-! ## Catchments -/

/-- `IdIndex::load_from_path`. -/
def loadIdIndex (location : List String) (expectedSize : ℕ) (expectedEtag : String) :
    Option IdIndex :=
  (disk.idIndexes location).bind fun file =>
    if file.fileSize = expectedSize ∧ file.fileEtag = some expectedEtag then some file.index else none

/-- `read_or_build_id_index`: the index, and the levels when they were read with the ids. -/
def readOrBuildIdIndex (location : List String) (object : StoredObject) :
    Disk × Except SessionError (IdIndex × Option (UnitId → Option Level)) :=
  match object.etag with
  | none => (disk, (parser.readIds object.content).map fun index => (index, none))
  | some etag =>
    match loadIdIndex disk location object.size etag with
    | some index => (disk, .ok (index, none))
    | none =>
      match parser.readIdsLevels object.content with
      | .error error => (disk, .error error)
      | .ok (index, levels) =>
        ({ disk with
            idIndexes := faults.idIndex.write disk.idIndexes location
              ⟨index, object.size, some etag⟩ none },
          .ok (index, some levels))

/-- The opened catchments and their index. -/
structure OpenedCatchments where
  object : StoredObject
  totalRows : ℕ
  idIndex : IdIndex
  levelsFromOpen : Option (UnitId → Option Level)

/-- The catchments are opened, from a stored id index where there is one. -/
def openCatchments (fabricName adapterVersion : String) :
    Disk × Except SessionError OpenedCatchments :=
  match remoteObject source objects "catchments.parquet" "catchments.parquet" with
  | .error error => (disk, .error error)
  | .ok object =>
    match parser.catchmentRows object.content with
    | .error error => (disk, .error error)
    | .ok totalRows =>
      let location := cache.locate (cache.idIndexPath fabricName adapterVersion "catchments.parquet")
      let (disk, index) := readOrBuildIdIndex parser faults disk location object
      (disk, index.map fun index => ⟨object, totalRows, index.1, index.2⟩)

/-! ## The validation sidecar -/

def tokenFormatVersion : ℕ := 2

def validationLogicVersion : String := "r2-snap-membership-v2"

def sortByPath (metas : List ArtifactMeta) : List ArtifactMeta :=
  metas.insertionSort fun left right => left.path ≤ right.path

/-- `ValidationSidecar::current`. -/
def currentSidecar (hfxFormatVersion : String) (manifest graph catchments : ArtifactMeta)
    (snaps : List ArtifactMeta) : ValidationSidecar where
  tokenFormatVersion := tokenFormatVersion
  validationLogicVersion := validationLogicVersion
  hfxFormatVersion := hfxFormatVersion
  manifest := manifest
  graph := graph
  catchments := catchments
  snaps := sortByPath snaps

/-- `ValidationSidecar::matches`. -/
def sidecarMatches (sidecar : ValidationSidecar) (hfxFormatVersion : String)
    (manifest graph catchments : ArtifactMeta) (snaps : List ArtifactMeta) : Bool :=
  sidecar.tokenFormatVersion = tokenFormatVersion &&
    sidecar.validationLogicVersion = validationLogicVersion &&
    sidecar.hfxFormatVersion = hfxFormatVersion && sidecar.manifest = manifest &&
    sidecar.graph = graph && sidecar.catchments = catchments && sidecar.snaps = sortByPath snaps

/-- What a sidecar is about. -/
structure ValidationSidecarInputs where
  hfxFormatVersion : String
  manifest : Option ArtifactMeta
  graph : Option ArtifactMeta
  catchments : Option ArtifactMeta
  snaps : Option (List ArtifactMeta)
  deriving DecidableEq, Repr

/-- `read_validation_sidecar`. -/
def readValidationSidecar (fabricName adapterVersion : String) : Option ValidationSidecar :=
  match disk.files (cache.locate (cache.validationSidecarPath fabricName adapterVersion)) with
  | some (.sidecar sidecar) => some sidecar
  | _ => none

/-- `validation_sidecar_matches`. -/
def validationSidecarMatches (fabricName adapterVersion : String) (inputs : ValidationSidecarInputs) :
    Bool :=
  match inputs.manifest, inputs.graph, inputs.catchments, inputs.snaps with
  | some manifest, some graph, some catchments, some snaps =>
    (readValidationSidecar cache disk fabricName adapterVersion).any fun sidecar =>
      sidecarMatches sidecar inputs.hfxFormatVersion manifest graph catchments snaps
  | _, _, _, _ => false

/-- `validation_sidecar_for_current_metadata`. -/
def validationSidecarForCurrentMetadata (inputs : ValidationSidecarInputs) :
    Option ValidationSidecar := do
  let manifest ← inputs.manifest
  let graph ← inputs.graph
  let catchments ← inputs.catchments
  let snaps ← inputs.snaps
  some (currentSidecar inputs.hfxFormatVersion manifest graph catchments snaps)

/-- `write_validation_sidecar_best_effort`. -/
def writeValidationSidecarBestEffort (fabricName adapterVersion : String)
    (sidecar : ValidationSidecar) : Disk :=
  let location := cache.locate (cache.validationSidecarPath fabricName adapterVersion)
  { disk with files := faults.sidecar.write disk.files location (.sidecar sidecar) (some .torn) }

/-! ## Snap files -/

/-- The objects of the declared snap files. -/
def snapHeads (aux : AuxDeclarations) : Except SessionError (List (SnapDecl × StoredObject)) :=
  aux.snaps.mapM fun decl => do
    let object ← remoteObject source objects "snap.parquet" decl.snap
    .ok (decl, object)

/-- What a sidecar keeps of the snap files. -/
def snapMeta (heads : List (SnapDecl × StoredObject)) : Option (List ArtifactMeta) :=
  heads.mapM fun head => fromParts head.1.snap head.2.etag head.2.size

/-- A snap store, with its references when they were read at the open. -/
structure OpenedSnap where
  decl : SnapDecl
  content : List UInt8
  refs : Option (List SnapRef)

/-- `LazyMetadata` when the validation is skipped, otherwise `ColdMembershipValidation`. -/
def openSnapStores (lazyMetadata : Bool) (heads : List (SnapDecl × StoredObject)) :
    Except SessionError (List OpenedSnap) :=
  heads.mapM fun head => do
    parser.openSnap head.2.content
    if lazyMetadata then .ok ⟨head.1, head.2.content, none⟩
    else
      let refs ← parser.snapRefs head.2.content
      .ok ⟨head.1, head.2.content, some refs⟩

/-- `read_all_snap_refs`. A lazily opened file has none loaded. -/
def readAllSnapRefs (snap : OpenedSnap) : Except SessionError (List SnapRef) :=
  match snap.refs with
  | some refs => .ok refs
  | none => .error (.snapRefsNotLoaded "snap.parquet" "LazyMetadata")

/-! ## Referential validation -/

/-- The levels of an opened catchment store. -/
def catchmentStoreLevels (catchments : OpenedCatchments) :
    Except SessionError (UnitId → Option Level) :=
  match catchments.levelsFromOpen with
  | some levels => .ok levels
  | none => (parser.readIdLevels catchments.object.content).map catchmentLevels

/-- What the validation reads of an opened store. -/
def storeReads (catchments : OpenedCatchments) : StoreReads where
  totalRows := catchments.totalRows
  ids := catchments.idIndex.ids
  levels := catchmentStoreLevels parser catchments

/-- The validation that a sidecar stands for. -/
def validateReferences (manifest : Manifest) (graph : DrainageGraph) (catchments : OpenedCatchments)
    (snaps : List OpenedSnap) : Except SessionError Unit := do
  let levels ← validateCatchmentStore manifest graph (storeReads parser catchments)
  snaps.forM fun snap => do
    let refs ← readAllSnapRefs snap
    validateSnapRefs refs snap.decl levels

/-! ## The open -/

/-- What a session uses of its dataset. -/
structure Session where
  parsed : ParsedManifest
  graph : DrainageGraph
  catchments : List UInt8
  idIndex : IdIndex
  snaps : List (List UInt8)

/-- How an open ends. -/
inductive Outcome where
  /-- An error before the validation. -/
  | failed (error : SessionError)
  /-- An error of `validate_graph_catchments` or `validate_snap_refs`. -/
  | rejected (error : SessionError)
  | validated (session : Session)
  /-- The sidecar matched and the validation was skipped. -/
  | skipped (session : Session)

/-- What the caller gets. -/
def Outcome.result : Outcome → Except SessionError Session
  | failed error | rejected error => .error error
  | validated session | skipped session => .ok session

/-- The inputs of an open. -/
def sidecarInputs (parsed : ParsedManifest) (catchments : StoredObject)
    (heads : List (SnapDecl × StoredObject)) : ValidationSidecarInputs where
  hfxFormatVersion := parsed.manifest.formatVersion
  manifest := remoteArtifactMeta source objects "manifest.json"
  graph := remoteArtifactMeta source objects "graph.parquet"
  catchments := fromParts (artifactPath source "catchments.parquet").display catchments.etag
    catchments.size
  snaps := snapMeta heads

/-- The open once the catchments are open and the HEAD of every snap file is taken. -/
def finishOpen (parsed : ParsedManifest) (graph : DrainageGraph) (catchments : OpenedCatchments)
    (heads : List (SnapDecl × StoredObject)) : Disk × Outcome :=
  let fabricName := parsed.manifest.fabricName
  let adapterVersion := parsed.manifest.adapterVersion
  let inputs := sidecarInputs source objects parsed catchments.object heads
  let validationHit := validationSidecarMatches cache disk fabricName adapterVersion inputs
  match openSnapStores parser validationHit heads with
  | .error error => (disk, .failed error)
  | .ok snaps =>
    let session : Session :=
      ⟨parsed, graph, catchments.object.content, catchments.idIndex, snaps.map (·.content)⟩
    if validationHit then (disk, .skipped session)
    else
      match validateReferences parser parsed.manifest graph catchments snaps with
      | .error error => (disk, .rejected error)
      | .ok () =>
        match validationSidecarForCurrentMetadata inputs with
        | some sidecar =>
          (writeValidationSidecarBestEffort cache faults disk fabricName adapterVersion sidecar,
            .validated session)
        | none => (disk, .validated session)

/-- `open_remote`. -/
def openRemote : Disk × Outcome :=
  match acquireManifestGraph cache parser faults disk source objects with
  | (disk, .error error) => (disk, .failed error)
  | (disk, .ok (parsed, graph)) =>
    match openCatchments cache parser faults disk source objects parsed.manifest.fabricName
        parsed.manifest.adapterVersion with
    | (disk, .error error) => (disk, .failed error)
    | (disk, .ok catchments) =>
      match snapHeads source objects parsed.aux with
      | .error error => (disk, .failed error)
      | .ok heads => finishOpen cache parser faults disk source objects parsed graph catchments heads

end Open

end Pourpoint.RemoteOpen
