import Pourpoint.Fnv
import Pourpoint.Library.Run
import Pourpoint.Manifest

/-!
# The manifest and graph cache

A remote source is a URL with a root in its store. The cache keeps the manifest and the graph of a
source in a directory named by the fabric and the adapter version of the manifest, and a small index
file for the source that names this directory. Two sources with the same fabric and adapter version
share the directory, so a write for one changes what is read for the other
(`not_readEntryForSource_isolated`). In every run in which a write finds no other manifest or graph of
another source in its directory, a source reads back its own last write or nothing
(`readEntryForSource_isolated`).

The three files of a write are overwritten in place. A write that stops after the manifest leaves it
beside the old graph; every other stopping point is harmless (`stopped_write_atomic_iff`).

What the bytes of a manifest or a graph hold is a parameter (`ArtifactParser`), a function of the
bytes. A file that was cut off inside a write is `torn`, which no reader accepts.
-/

namespace Pourpoint

/-- A remote source: the text of the URL and the root in its store. -/
structure Source where
  url : String
  remoteRoot : String
  deriving DecidableEq, Repr

/-- The content of an index file. -/
structure SourceIndexEntry where
  source : Source
  fabricName : String
  adapterVersion : String
  deriving DecidableEq, Repr

/-- `ETag`, size and path of an artifact. -/
structure ArtifactMeta where
  path : String
  etag : String
  size : ℕ
  deriving DecidableEq, Repr

/-- The record of a successful validation. `validated_at`, which nothing reads, is left out. -/
structure ValidationSidecar where
  tokenFormatVersion : ℕ
  validationLogicVersion : String
  hfxFormatVersion : String
  manifest : ArtifactMeta
  graph : ArtifactMeta
  catchments : ArtifactMeta
  snaps : List ArtifactMeta
  deriving DecidableEq, Repr

/-- A file of the cache. -/
inductive CacheFile where
  | bytes (content : List UInt8)
  | index (entry : SourceIndexEntry)
  | sidecar (sidecar : ValidationSidecar)
  | torn
  deriving DecidableEq, Repr

/-- The files by their locations. -/
abbrev CacheFiles := List String → Option CacheFile

/-- The readers of manifest and graph bytes. -/
structure ArtifactParser (Graph : Type) where
  manifest : List UInt8 → Option ParsedManifest
  graph : List UInt8 → Option Graph

/-- The cache of remote manifests and graphs: its root, and the directory that relative paths
start at. -/
structure RemoteArtifactCache where
  workingDir : List String
  root : UnixPath

namespace RemoteArtifactCache

variable (cache : RemoteArtifactCache)

/-! ## Paths -/

/-- `artifact_cache_dir`. The names are joined to the root as they are. -/
def artifactCacheDir (fabricName adapterVersion : String) : UnixPath :=
  (cache.root.join fabricName).join adapterVersion

/-- `id_index_path`. -/
def idIndexPath (fabricName adapterVersion artifact : String) : UnixPath :=
  ((cache.artifactCacheDir fabricName adapterVersion).join artifact).withExtension "idindex.arrow"

/-- `validation_sidecar_path`. -/
def validationSidecarPath (fabricName adapterVersion : String) : UnixPath :=
  (cache.artifactCacheDir fabricName adapterVersion).join "validated.json"

/-- The file name of a source: the FNV hash of its URL and root, in sixteen hexadecimal digits. -/
def sourceIndexName (source : Source) : String :=
  hex16 (fnv1a64 (utf8Bytes (source.url ++ "\n" ++ source.remoteRoot))) ++ ".json"

/-- `source_index_path`. -/
def sourceIndexPath (source : Source) : UnixPath :=
  (cache.root.join ".sources").join (sourceIndexName source)

/-- Where a path is in the file system. -/
def locate (path : UnixPath) : List String := path.resolve cache.workingDir

/-! ## Reading and writing -/

/-- The last two components of the directory are the names of the manifest. -/
def cacheKeyMatches (path : UnixPath) (manifest : Manifest) : Bool :=
  path.parent.bind UnixPath.fileName = some manifest.fabricName &&
    path.fileName = some manifest.adapterVersion

/-- The bytes of a file, if there is one that has not been cut off. -/
def contentOf : Option CacheFile → Option (List UInt8)
  | some (.bytes content) => some content
  | _ => none

def readBytes (files : CacheFiles) (location : List String) : Option (List UInt8) :=
  contentOf (files location)

variable {Graph : Type} (parser : ArtifactParser Graph)

/-- `read_entry`. The manifest must have the names of the directory. -/
def readEntry (files : CacheFiles) (path : UnixPath) : Option (ParsedManifest × Graph) := do
  let manifestBytes ← readBytes files (cache.locate (path.join "manifest.json"))
  let parsed ← parser.manifest manifestBytes
  if cacheKeyMatches path parsed.manifest then
    let graphBytes ← readBytes files (cache.locate (path.join "graph.parquet"))
    let graph ← parser.graph graphBytes
    some (parsed, graph)
  else none

/-- The index entry of a source, unless it is another source's. -/
def readSourceIndex (files : CacheFiles) (source : Source) : Option SourceIndexEntry :=
  match files (cache.locate (cache.sourceIndexPath source)) with
  | some (.index entry) => if entry.source = source then some entry else none
  | _ => none

/-- `read_entry_for_source`. -/
def readEntryForSource (files : CacheFiles) (source : Source) : Option (ParsedManifest × Graph) := do
  let entry ← cache.readSourceIndex files source
  cache.readEntry parser files (cache.artifactCacheDir entry.fabricName entry.adapterVersion)

/-- The files that `write_manifest_graph` writes, in order. -/
def manifestGraphWrites (source : Source) (manifest : Manifest) (manifestBytes graphBytes : List UInt8) :
    List (List String × CacheFile) :=
  let dir := cache.artifactCacheDir manifest.fabricName manifest.adapterVersion
  [(cache.locate (dir.join "manifest.json"), .bytes manifestBytes),
    (cache.locate (dir.join "graph.parquet"), .bytes graphBytes),
    (cache.locate (cache.sourceIndexPath source),
      .index ⟨source, manifest.fabricName, manifest.adapterVersion⟩)]

/-- Files are replaced one after the other. -/
def applyWrites (files : CacheFiles) (writes : List (List String × CacheFile)) : CacheFiles :=
  writes.foldl (fun files write => Function.update files write.1 (some write.2)) files

/-- `write_manifest_graph`. The index is written last. -/
def writeManifestGraph (files : CacheFiles) (source : Source) (manifest : Manifest)
    (manifestBytes graphBytes : List UInt8) : CacheFiles :=
  applyWrites files (cache.manifestGraphWrites source manifest manifestBytes graphBytes)

/-! ## Locations -/

variable {cache}

theorem plainName_manifest : PlainName "manifest.json" :=
  ⟨by decide, by decide, by decide, by decide⟩

theorem plainName_graph : PlainName "graph.parquet" :=
  ⟨by decide, by decide, by decide, by decide⟩

theorem plainName_sources : PlainName ".sources" :=
  ⟨by decide, by decide, by decide, by decide⟩

theorem length_sourceIndexName (source : Source) : 21 ≤ (sourceIndexName source).toList.length := by
  have := length_hex16 (fnv1a64 (utf8Bytes (source.url ++ "\n" ++ source.remoteRoot)))
  rw [sourceIndexName, String.toList_append, List.length_append]
  exact Nat.add_le_add this (show 5 ≤ ".json".toList.length by decide)

theorem sourceIndexName_ne (source : Source) {name : String} (h : name.toList.length < 21) :
    sourceIndexName source ≠ name := by
  rintro rfl
  have := length_sourceIndexName source
  omega

theorem plainName_sourceIndexName (source : Source) : PlainName (sourceIndexName source) where
  ne_empty := sourceIndexName_ne source (by decide)
  ne_dot := sourceIndexName_ne source (by decide)
  ne_dots := sourceIndexName_ne source (by decide)
  no_slash := by
    rw [sourceIndexName, String.toList_append, List.mem_append, not_or]
    exact ⟨slash_notMem_hex16 _, by decide⟩

theorem locate_manifest (dir : UnixPath) :
    cache.locate (dir.join "manifest.json") = cache.locate dir ++ ["manifest.json"] :=
  UnixPath.resolve_join_plain plainName_manifest

theorem locate_graph (dir : UnixPath) :
    cache.locate (dir.join "graph.parquet") = cache.locate dir ++ ["graph.parquet"] :=
  UnixPath.resolve_join_plain plainName_graph

theorem locate_sourceIndex (source : Source) :
    cache.locate (cache.sourceIndexPath source) =
      cache.locate cache.root ++ [".sources", sourceIndexName source] := by
  rw [locate, sourceIndexPath, UnixPath.resolve_join_plain (plainName_sourceIndexName source),
    UnixPath.resolve_join_plain plainName_sources]
  simp [locate]

theorem append_name_ne {dir dir' : List String} {name name' : String} (h : name ≠ name') :
    dir ++ [name] ≠ dir' ++ [name'] := by
  intro heq
  exact h (by simpa using (List.append_inj' heq rfl).2)

theorem append_name_inj {dir dir' : List String} {name : String} (h : dir ≠ dir') :
    dir ++ [name] ≠ dir' ++ [name] :=
  fun heq => h (List.append_inj_left' heq rfl)

theorem index_ne_file (source : Source) (dir : List String) {name : String}
    (h : name.toList.length < 21) :
    cache.locate cache.root ++ [".sources", sourceIndexName source] ≠ dir ++ [name] := by
  rw [show cache.locate cache.root ++ [".sources", sourceIndexName source] =
    (cache.locate cache.root ++ [".sources"]) ++ [sourceIndexName source] by simp]
  exact append_name_ne (sourceIndexName_ne source h)

/-- The directory of a manifest. -/
def manifestDir (cache : RemoteArtifactCache) (manifest : Manifest) : List String :=
  cache.locate (cache.artifactCacheDir manifest.fabricName manifest.adapterVersion)

theorem writeManifestGraph_apply (files : CacheFiles) (source : Source) (manifest : Manifest)
    (manifestBytes graphBytes : List UInt8) (location : List String) :
    cache.writeManifestGraph files source manifest manifestBytes graphBytes location =
      if location = cache.locate cache.root ++ [".sources", sourceIndexName source] then
        some (.index ⟨source, manifest.fabricName, manifest.adapterVersion⟩)
      else if location = cache.manifestDir manifest ++ ["graph.parquet"] then some (.bytes graphBytes)
      else if location = cache.manifestDir manifest ++ ["manifest.json"] then
        some (.bytes manifestBytes)
      else files location := by
  simp only [writeManifestGraph, manifestGraphWrites, applyWrites, List.foldl_cons, List.foldl_nil,
    Function.update_apply, locate_manifest, locate_graph, locate_sourceIndex]
  rfl

/-- The manifest and the graph that are stored in a directory. -/
structure Stored (parser : ArtifactParser Graph) (files : CacheFiles) (dir : List String)
    (parsed : ParsedManifest) (graph : Graph) : Prop where
  manifest : (readBytes files (dir ++ ["manifest.json"])).bind parser.manifest = some parsed
  graph : (readBytes files (dir ++ ["graph.parquet"])).bind parser.graph = some graph

variable {parser} {files : CacheFiles}

theorem Stored.readEntry {path : UnixPath} {parsed : ParsedManifest} {graph : Graph}
    (h : Stored parser files (cache.locate path) parsed graph) :
    cache.readEntry parser files path =
      if cacheKeyMatches path parsed.manifest then some (parsed, graph) else none := by
  obtain ⟨manifestBytes, hmanifest, hparsed⟩ := Option.bind_eq_some_iff.1 h.manifest
  obtain ⟨graphBytes, hgraph, hloaded⟩ := Option.bind_eq_some_iff.1 h.graph
  unfold RemoteArtifactCache.readEntry
  rw [locate_manifest, hmanifest, locate_graph, hgraph]
  simp [hparsed, hloaded]

theorem stored_writeManifestGraph {source : Source} {parsed : ParsedManifest} {graph : Graph}
    {manifestBytes graphBytes : List UInt8} (hmanifest : parser.manifest manifestBytes = some parsed)
    (hgraph : parser.graph graphBytes = some graph) :
    Stored parser (cache.writeManifestGraph files source parsed.manifest manifestBytes graphBytes)
      (cache.manifestDir parsed.manifest) parsed graph where
  manifest := by
    unfold readBytes
    rw [writeManifestGraph_apply, if_neg (index_ne_file source _ (by decide)).symm,
      if_neg (append_name_ne (by decide)), if_pos rfl]
    exact hmanifest
  graph := by
    unfold readBytes
    rw [writeManifestGraph_apply, if_neg (index_ne_file source _ (by decide)).symm, if_pos rfl]
    exact hgraph

/-- A write leaves the other directories as they are. -/
theorem Stored.writeManifestGraph_of_ne {source : Source} {manifest : Manifest}
    {manifestBytes graphBytes : List UInt8} {dir : List String} {parsed : ParsedManifest}
    {graph : Graph} (h : Stored parser files dir parsed graph) (hne : dir ≠ cache.manifestDir manifest) :
    Stored parser (cache.writeManifestGraph files source manifest manifestBytes graphBytes) dir parsed
      graph where
  manifest := by
    have hfile : cache.writeManifestGraph files source manifest manifestBytes graphBytes
        (dir ++ ["manifest.json"]) = files (dir ++ ["manifest.json"]) := by
      rw [writeManifestGraph_apply, if_neg (index_ne_file source _ (by decide)).symm,
        if_neg (append_name_ne (by decide)), if_neg (append_name_inj hne)]
    unfold readBytes
    rw [hfile]
    exact h.manifest
  graph := by
    have hfile : cache.writeManifestGraph files source manifest manifestBytes graphBytes
        (dir ++ ["graph.parquet"]) = files (dir ++ ["graph.parquet"]) := by
      rw [writeManifestGraph_apply, if_neg (index_ne_file source _ (by decide)).symm,
        if_neg (append_name_inj hne), if_neg (append_name_ne (by decide))]
    unfold readBytes
    rw [hfile]
    exact h.graph

/-- The index of a source after a write: its own entry, the entry before the write, or, when the write
took the file over, nothing. -/
theorem readSourceIndex_writeManifestGraph {source other : Source} {manifest : Manifest}
    {manifestBytes graphBytes : List UInt8} {entry : SourceIndexEntry}
    (h : cache.readSourceIndex
      (cache.writeManifestGraph files source manifest manifestBytes graphBytes) other = some entry) :
    (other = source ∧ entry = ⟨source, manifest.fabricName, manifest.adapterVersion⟩) ∨
      (other ≠ source ∧ cache.readSourceIndex files other = some entry) := by
  unfold readSourceIndex at h ⊢
  rw [writeManifestGraph_apply, locate_sourceIndex] at h
  rw [locate_sourceIndex]
  rw [if_neg (index_ne_file other _ (by decide)), if_neg (index_ne_file other _ (by decide))] at h
  by_cases hsame : cache.locate cache.root ++ [".sources", sourceIndexName other] =
      cache.locate cache.root ++ [".sources", sourceIndexName source]
  · rw [if_pos hsame] at h
    simp only at h
    split_ifs at h with hsource
    cases h
    exact .inl ⟨hsource.symm, rfl⟩
  · rw [if_neg hsame] at h
    refine .inr ⟨?_, h⟩
    rintro rfl
    exact hsame rfl

end RemoteArtifactCache

/-! ## Isolation of sources -/

/-- A successful `write_manifest_graph`. -/
structure SourceWrite where
  source : Source
  manifestBytes : List UInt8
  graphBytes : List UInt8
  deriving DecidableEq, Repr

/-- The files and the last write of each source. -/
structure ArtifactCacheState where
  files : CacheFiles
  lastWrite : Source → Option SourceWrite

namespace ArtifactCacheState

variable {Graph : Type} (cache : RemoteArtifactCache) (parser : ArtifactParser Graph)

def empty : ArtifactCacheState := ⟨fun _ => none, fun _ => none⟩

/-- A session writes what it has parsed. -/
def step (s : ArtifactCacheState) (write : SourceWrite) : Option ArtifactCacheState := do
  let parsed ← parser.manifest write.manifestBytes
  let _ ← parser.graph write.graphBytes
  some ⟨cache.writeManifestGraph s.files write.source parsed.manifest write.manifestBytes
      write.graphBytes,
    Function.update s.lastWrite write.source (some write)⟩

/-- The directory of the write holds no other manifest or graph of another source. -/
def NoOverwrite (s : ArtifactCacheState) (write : SourceWrite) : Prop :=
  ∀ other last parsed parsed', other ≠ write.source → s.lastWrite other = some last →
    parser.manifest last.manifestBytes = some parsed →
    parser.manifest write.manifestBytes = some parsed' →
    cache.manifestDir parsed.manifest = cache.manifestDir parsed'.manifest →
    parsed = parsed' ∧ parser.graph last.graphBytes = parser.graph write.graphBytes

/-- The last write of every source is stored, and an index names the directory of the last write. -/
structure Inv (s : ArtifactCacheState) : Prop where
  stored : ∀ source last, s.lastWrite source = some last → ∃ parsed graph,
    parser.manifest last.manifestBytes = some parsed ∧ parser.graph last.graphBytes = some graph ∧
      RemoteArtifactCache.Stored parser s.files (cache.manifestDir parsed.manifest) parsed graph
  index : ∀ source entry, cache.readSourceIndex s.files source = some entry → ∃ last parsed,
    s.lastWrite source = some last ∧ parser.manifest last.manifestBytes = some parsed ∧
      entry = ⟨source, parsed.manifest.fabricName, parsed.manifest.adapterVersion⟩

variable {cache parser} {s s' : ArtifactCacheState}

theorem step_eq_some {write : SourceWrite} (h : step cache parser s write = some s') :
    ∃ parsed graph, parser.manifest write.manifestBytes = some parsed ∧
      parser.graph write.graphBytes = some graph ∧
      s' = ⟨cache.writeManifestGraph s.files write.source parsed.manifest write.manifestBytes
          write.graphBytes,
        Function.update s.lastWrite write.source (some write)⟩ := by
  obtain ⟨parsed, hparsed, h⟩ := Option.bind_eq_some_iff.1 h
  obtain ⟨graph, hgraph, h⟩ := Option.bind_eq_some_iff.1 h
  cases h
  exact ⟨parsed, graph, hparsed, hgraph, rfl⟩

theorem empty_inv : Inv cache parser empty := by
  constructor
  · intro _ _ h
    cases h
  · intro _ _ h
    cases h

theorem step_inv {write : SourceWrite} (hinv : Inv cache parser s)
    (hok : NoOverwrite cache parser s write) (h : step cache parser s write = some s') :
    Inv cache parser s' := by
  obtain ⟨parsed, graph, hparsed, hgraph, rfl⟩ := step_eq_some h
  have hnew : RemoteArtifactCache.Stored parser (cache.writeManifestGraph s.files write.source
      parsed.manifest write.manifestBytes write.graphBytes) (cache.manifestDir parsed.manifest)
      parsed graph :=
    RemoteArtifactCache.stored_writeManifestGraph hparsed hgraph
  constructor
  · intro source last hlast
    by_cases hsource : source = write.source
    · subst hsource
      simp only [Function.update_self, Option.some.injEq] at hlast
      subst hlast
      exact ⟨parsed, graph, hparsed, hgraph, hnew⟩
    · simp only [Function.update_of_ne hsource] at hlast
      obtain ⟨old, oldGraph, hold, holdGraph, hstored⟩ := hinv.stored source last hlast
      refine ⟨old, oldGraph, hold, holdGraph, ?_⟩
      by_cases hdir : cache.manifestDir old.manifest = cache.manifestDir parsed.manifest
      · -- The directory is shared: the write holds the same manifest and graph.
        obtain ⟨rfl, hsame⟩ := hok source last old parsed hsource hlast hold hparsed hdir
        rw [holdGraph, hgraph] at hsame
        cases hsame
        exact hnew
      · exact hstored.writeManifestGraph_of_ne hdir
  · intro source entry hentry
    rcases RemoteArtifactCache.readSourceIndex_writeManifestGraph hentry with
      ⟨rfl, rfl⟩ | ⟨hne, hold⟩
    · exact ⟨write, parsed, by simp, hparsed, rfl⟩
    · obtain ⟨last, old, hlast, rest⟩ := hinv.index source entry hold
      exact ⟨last, old, by simpa [Function.update_of_ne hne] using hlast, rest⟩

/-- **Isolation.** After every run of writes that find no other manifest or graph of another source in
their directory, a source reads the manifest and the graph that were last written for it, or
nothing. -/
theorem readEntryForSource_isolated {writes : List SourceWrite}
    (hok : Guarded (step cache parser) (NoOverwrite cache parser) empty writes)
    (hrun : run (step cache parser) empty writes = some s) (source : Source) :
    cache.readEntryForSource parser s.files source = none ∨
      ∃ last parsed graph, s.lastWrite source = some last ∧
        parser.manifest last.manifestBytes = some parsed ∧
        parser.graph last.graphBytes = some graph ∧
        cache.readEntryForSource parser s.files source = some (parsed, graph) := by
  have hinv : Inv cache parser s :=
    run_invariant (fun _ _ _ hs hok hstep => step_inv hs hok hstep) empty_inv hok hrun
  unfold RemoteArtifactCache.readEntryForSource
  cases hindex : cache.readSourceIndex s.files source with
  | none => exact .inl rfl
  | some entry =>
    obtain ⟨last, parsed, hlast, hparsed, rfl⟩ := hinv.index source entry hindex
    obtain ⟨parsed', graph, hparsed', hgraph, hstored⟩ := hinv.stored source last hlast
    rw [hparsed] at hparsed'
    cases hparsed'
    have hread := hstored.readEntry
    simp only [Option.bind_eq_bind, Option.bind_some]
    rw [hread]
    split_ifs
    · exact .inr ⟨last, parsed, graph, hlast, hparsed, hgraph, rfl⟩
    · exact .inl rfl

/-! ### Two sources of one fabric -/

/-- A manifest of the fabric `grit` with this adapter version and unit count. -/
def gritManifest (version count : ℕ) : ParsedManifest where
  manifest :=
    { formatVersion := "0.3.0"
      fabricName := "grit"
      crs := "EPSG:4326"
      topology := .tree
      bbox := ⟨0, 0, 1, 1⟩
      unitCount := count
      createdAt := "2026-01-01"
      adapterVersion := toString version
      hasUpArea := false
      fabricVersion := none
      region := none
      auxiliary := [] }
  aux := ⟨[], [], [], []⟩

/-- A manifest is two bytes, its version and its count; a graph is one byte. -/
def gritParser : ArtifactParser ℕ where
  manifest
    | [version, count] => some (gritManifest version.toNat count.toNat)
    | _ => none
  graph
    | [size] => some size.toNat
    | _ => none

def gritCache : RemoteArtifactCache := ⟨[], UnixPath.ofString "/cache"⟩

def gritSource : Source := ⟨"s3://grit/", ""⟩

def mirrorSource : Source := ⟨"s3://mirror/", ""⟩

/-- The mirror has another adapter version. -/
theorem readEntryForSource_isolated_versions :
    ∃ s, run (step gritCache gritParser) empty
        [⟨gritSource, [1, 5], [5]⟩, ⟨mirrorSource, [2, 6], [6]⟩] = some s ∧
      (gritCache.readEntryForSource gritParser s.files gritSource).map
        (fun entry => (entry.1.manifest.unitCount, entry.2)) = some (5, 5) ∧
      (gritCache.readEntryForSource gritParser s.files gritSource = none ∨
        ∃ last parsed graph, s.lastWrite gritSource = some last ∧
          gritParser.manifest last.manifestBytes = some parsed ∧
          gritParser.graph last.graphBytes = some graph ∧
          gritCache.readEntryForSource gritParser s.files gritSource = some (parsed, graph)) := by
  have hok : Guarded (step gritCache gritParser) (NoOverwrite gritCache gritParser) empty
      [⟨gritSource, [1, 5], [5]⟩, ⟨mirrorSource, [2, 6], [6]⟩] := by
    refine ⟨fun _ _ _ _ _ h => (nomatch h), ?_⟩
    intro s hs
    refine ⟨?_, fun _ _ => trivial⟩
    obtain ⟨_, _, -, -, rfl⟩ := step_eq_some hs
    intro other last parsed parsed' hne hlast hparsed hparsed' hdir
    by_cases hother : other = gritSource
    · subst hother
      simp only [Function.update_self, Option.some.injEq] at hlast
      subst hlast
      cases hparsed
      cases hparsed'
      exact absurd hdir (by decide +kernel)
    · simp only [Function.update_of_ne hother] at hlast
      cases hlast
  exact ⟨_, rfl, by decide +kernel, readEntryForSource_isolated hok rfl gritSource⟩

/-- **A source reads the manifest and the graph of another.** -/
theorem not_readEntryForSource_isolated :
    ¬∀ (writes : List SourceWrite) (s : ArtifactCacheState) (source : Source),
      run (step gritCache gritParser) empty writes = some s →
      gritCache.readEntryForSource gritParser s.files source = none ∨
        ∃ last parsed graph, s.lastWrite source = some last ∧
          gritParser.manifest last.manifestBytes = some parsed ∧
          gritParser.graph last.graphBytes = some graph ∧
          gritCache.readEntryForSource gritParser s.files source = some (parsed, graph) := by
  intro hall
  have hcase := hall [⟨gritSource, [1, 5], [5]⟩, ⟨mirrorSource, [1, 6], [6]⟩] _ gritSource rfl
  rcases hcase with hnone | ⟨last, parsed, graph, hlast, hparsed, hgraph, hread⟩
  · have hunits := congrArg (Option.map fun entry => (entry.1.manifest.unitCount, entry.2)) hnone
    exact absurd hunits (by decide +kernel)
  · have hunits := congrArg (Option.map fun entry => (entry.1.manifest.unitCount, entry.2)) hread
    obtain rfl : (⟨gritSource, [1, 5], [5]⟩ : SourceWrite) = last := Option.some.inj hlast
    cases hparsed
    cases hgraph
    exact absurd hunits (by decide +kernel)

end ArtifactCacheState

/-! ## Writes that stop -/

namespace RemoteArtifactCache

variable {Graph : Type} {cache : RemoteArtifactCache} {parser : ArtifactParser Graph}
  {files : CacheFiles}

/-- The files after a list of writes that stopped: this many of them are complete, and when it stopped
inside the next one, its file is torn. -/
def stopped (files : CacheFiles) (writes : List (List String × CacheFile)) (completed : ℕ)
    (inside : Bool) : CacheFiles :=
  match inside, writes[completed]? with
  | true, some write =>
    Function.update (applyWrites files (writes.take completed)) write.1 (some .torn)
  | _, _ => applyWrites files (writes.take completed)

/-- The write stopped between the manifest and the graph, in the directory of the index, where another
manifest and another graph were, and the new manifest has the names of this directory. -/
def Mixes (cache : RemoteArtifactCache) (parser : ArtifactParser Graph) (files : CacheFiles)
    (source : Source) (parsed : ParsedManifest) (graph : Graph) (completed : ℕ) (inside : Bool) :
    Prop :=
  completed = 1 ∧ inside = false ∧ ∃ entry oldGraph,
    cache.readSourceIndex files source = some entry ∧
    cache.locate (cache.artifactCacheDir entry.fabricName entry.adapterVersion) =
      cache.manifestDir parsed.manifest ∧
    cacheKeyMatches (cache.artifactCacheDir entry.fabricName entry.adapterVersion) parsed.manifest ∧
    (readBytes files (cache.manifestDir parsed.manifest ++ ["graph.parquet"])).bind parser.graph =
      some oldGraph ∧
    oldGraph ≠ graph ∧
    (readBytes files (cache.manifestDir parsed.manifest ++ ["manifest.json"])).bind parser.manifest ≠
      some parsed

theorem readEntry_eq (path : UnixPath) :
    cache.readEntry parser files path =
      ((readBytes files (cache.locate path ++ ["manifest.json"])).bind parser.manifest).bind
        fun parsed => if cacheKeyMatches path parsed.manifest then
          ((readBytes files (cache.locate path ++ ["graph.parquet"])).bind parser.graph).map
            (parsed, ·)
        else none := by
  unfold readEntry
  rw [locate_manifest, locate_graph]
  cases readBytes files (cache.locate path ++ ["manifest.json"]) with
  | none => rfl
  | some manifestBytes =>
    simp only [Option.bind_eq_bind, Option.bind_some]
    congr 1
    funext parsed
    split_ifs
    · cases readBytes files (cache.locate path ++ ["graph.parquet"]) with
      | none => rfl
      | some graphBytes =>
        simp only [Option.bind_some]
        cases parser.graph graphBytes <;> rfl
    · rfl

/-- Files that differ only in one directory are read the same, unless the index names this
directory. -/
theorem readEntryForSource_congr {files' : CacheFiles} {source : Source} {dir : List String}
    (hindex : cache.readSourceIndex files' source = cache.readSourceIndex files source)
    (houtside : ∀ other name, other ≠ dir → files' (other ++ [name]) = files (other ++ [name])) :
    cache.readEntryForSource parser files' source = cache.readEntryForSource parser files source ∨
      ∃ entry, cache.readSourceIndex files source = some entry ∧
        cache.locate (cache.artifactCacheDir entry.fabricName entry.adapterVersion) = dir := by
  by_cases hdir : ∃ entry, cache.readSourceIndex files source = some entry ∧
      cache.locate (cache.artifactCacheDir entry.fabricName entry.adapterVersion) = dir
  · exact .inr hdir
  · left
    unfold readEntryForSource
    rw [hindex]
    cases hentry : cache.readSourceIndex files source with
    | none => rfl
    | some entry =>
      have hne : cache.locate (cache.artifactCacheDir entry.fabricName entry.adapterVersion) ≠ dir :=
        fun h => hdir ⟨entry, hentry, h⟩
      simp only [Option.bind_eq_bind, Option.bind_some]
      rw [readEntry_eq, readEntry_eq]
      unfold readBytes
      rw [houtside _ _ hne, houtside _ _ hne]

/-- The files with these two files in a directory. -/
def inDir (files : CacheFiles) (dir : List String) (manifest graph : Option CacheFile) : CacheFiles :=
  Function.update (Function.update files (dir ++ ["manifest.json"]) manifest)
    (dir ++ ["graph.parquet"]) graph

theorem readSourceIndex_inDir (dir : List String) (manifest graph : Option CacheFile)
    (source : Source) :
    cache.readSourceIndex (inDir files dir manifest graph) source =
      cache.readSourceIndex files source := by
  unfold readSourceIndex inDir
  rw [locate_sourceIndex, Function.update_of_ne (index_ne_file source dir (by decide)),
    Function.update_of_ne (index_ne_file source dir (by decide))]

theorem readEntryForSource_of_index {source : Source} {entry : SourceIndexEntry} {dir : List String}
    (hentry : cache.readSourceIndex files source = some entry)
    (hdir : cache.locate (cache.artifactCacheDir entry.fabricName entry.adapterVersion) = dir) :
    cache.readEntryForSource parser files source =
      ((contentOf (files (dir ++ ["manifest.json"]))).bind parser.manifest).bind fun parsed =>
        if cacheKeyMatches (cache.artifactCacheDir entry.fabricName entry.adapterVersion)
            parsed.manifest then
          ((contentOf (files (dir ++ ["graph.parquet"]))).bind parser.graph).map (parsed, ·)
        else none := by
  unfold readEntryForSource
  rw [hentry]
  simp only [Option.bind_eq_bind, Option.bind_some]
  rw [readEntry_eq, hdir, readBytes, readBytes]

theorem readEntryForSource_inDir_of_index {source : Source} {entry : SourceIndexEntry}
    {dir : List String} {manifest graph : Option CacheFile}
    (hentry : cache.readSourceIndex files source = some entry)
    (hdir : cache.locate (cache.artifactCacheDir entry.fabricName entry.adapterVersion) = dir) :
    cache.readEntryForSource parser (inDir files dir manifest graph) source =
      ((contentOf manifest).bind parser.manifest).bind fun parsed =>
        if cacheKeyMatches (cache.artifactCacheDir entry.fabricName entry.adapterVersion)
            parsed.manifest then
          ((contentOf graph).bind parser.graph).map (parsed, ·)
        else none := by
  have hmanifest : inDir files dir manifest graph (dir ++ ["manifest.json"]) = manifest := by
    rw [inDir, Function.update_of_ne (append_name_ne (by decide)), Function.update_self]
  have hgraph : inDir files dir manifest graph (dir ++ ["graph.parquet"]) = graph := by
    rw [inDir, Function.update_self]
  rw [readEntryForSource_of_index ((readSourceIndex_inDir dir manifest graph source).trans hentry)
    hdir, hmanifest, hgraph]

theorem readEntryForSource_inDir (dir : List String) (manifest graph : Option CacheFile)
    (source : Source) :
    cache.readEntryForSource parser (inDir files dir manifest graph) source =
        cache.readEntryForSource parser files source ∨
      ∃ entry, cache.readSourceIndex files source = some entry ∧
        cache.locate (cache.artifactCacheDir entry.fabricName entry.adapterVersion) = dir := by
  have houtside : ∀ other name, other ≠ dir →
      inDir files dir manifest graph (other ++ [name]) = files (other ++ [name]) := by
    intro other name hne
    have hlocation : ∀ file, other ++ [name] ≠ dir ++ [file] :=
      fun file h => hne (List.append_inj_left' h rfl)
    rw [inDir, Function.update_of_ne (hlocation _), Function.update_of_ne (hlocation _)]
  exact readEntryForSource_congr (readSourceIndex_inDir dir manifest graph source) houtside

/-- What is read after the write is nothing, the old pair or the new pair. -/
def Atomic (cache : RemoteArtifactCache) (parser : ArtifactParser Graph) (files after : CacheFiles)
    (source : Source) (parsed : ParsedManifest) (graph : Graph) : Prop :=
  cache.readEntryForSource parser after source = none ∨
    cache.readEntryForSource parser after source = cache.readEntryForSource parser files source ∨
    cache.readEntryForSource parser after source = some (parsed, graph)

section Stopped

variable {source : Source} {parsed : ParsedManifest} {graph : Graph}
  {manifestBytes graphBytes : List UInt8}

theorem inDir_manifest (dir : List String) (file : Option CacheFile) :
    inDir files dir file (files (dir ++ ["graph.parquet"])) =
      Function.update files (dir ++ ["manifest.json"]) file := by
  have hne : dir ++ ["graph.parquet"] ≠ dir ++ ["manifest.json"] := append_name_ne (by decide)
  have hgraph : files (dir ++ ["graph.parquet"]) =
      Function.update files (dir ++ ["manifest.json"]) file (dir ++ ["graph.parquet"]) :=
    (Function.update_of_ne hne file files).symm
  rw [inDir, hgraph, Function.update_eq_self]

theorem manifestGraphWrites_eq :
    cache.manifestGraphWrites source parsed.manifest manifestBytes graphBytes =
      [(cache.manifestDir parsed.manifest ++ ["manifest.json"], .bytes manifestBytes),
        (cache.manifestDir parsed.manifest ++ ["graph.parquet"], .bytes graphBytes),
        (cache.locate (cache.sourceIndexPath source),
          .index ⟨source, parsed.manifest.fabricName, parsed.manifest.adapterVersion⟩)] := by
  simp only [manifestGraphWrites, locate_manifest, locate_graph, manifestDir]

theorem stopped_zero_inside :
    stopped files (cache.manifestGraphWrites source parsed.manifest manifestBytes graphBytes) 0 true =
      inDir files (cache.manifestDir parsed.manifest) (some .torn)
        (files (cache.manifestDir parsed.manifest ++ ["graph.parquet"])) := by
  rw [inDir_manifest, manifestGraphWrites_eq]
  rfl

theorem stopped_one :
    stopped files (cache.manifestGraphWrites source parsed.manifest manifestBytes graphBytes) 1 false =
      inDir files (cache.manifestDir parsed.manifest) (some (.bytes manifestBytes))
        (files (cache.manifestDir parsed.manifest ++ ["graph.parquet"])) := by
  rw [inDir_manifest, manifestGraphWrites_eq]
  rfl

theorem stopped_one_inside :
    stopped files (cache.manifestGraphWrites source parsed.manifest manifestBytes graphBytes) 1 true =
      inDir files (cache.manifestDir parsed.manifest) (some (.bytes manifestBytes)) (some .torn) := by
  rw [manifestGraphWrites_eq]
  rfl

theorem stopped_two :
    stopped files (cache.manifestGraphWrites source parsed.manifest manifestBytes graphBytes) 2 false =
      inDir files (cache.manifestDir parsed.manifest) (some (.bytes manifestBytes))
        (some (.bytes graphBytes)) := by
  rw [manifestGraphWrites_eq]
  rfl

theorem readSourceIndex_stopped_two_inside :
    cache.readSourceIndex (stopped files
      (cache.manifestGraphWrites source parsed.manifest manifestBytes graphBytes) 2 true) source =
        none := by
  have hindex : stopped files
      (cache.manifestGraphWrites source parsed.manifest manifestBytes graphBytes) 2 true
      (cache.locate (cache.sourceIndexPath source)) = some .torn := by
    rw [manifestGraphWrites_eq]
    exact Function.update_self _ _ _
  unfold readSourceIndex
  rw [hindex]

theorem stopped_three (completed : ℕ) (inside : Bool) :
    stopped files (cache.manifestGraphWrites source parsed.manifest manifestBytes graphBytes)
        (completed + 3) inside =
      cache.writeManifestGraph files source parsed.manifest manifestBytes graphBytes := by
  have hend : (cache.manifestGraphWrites source parsed.manifest manifestBytes
      graphBytes)[completed + 3]? = none := by
    rw [List.getElem?_eq_none_iff]
    exact Nat.le_add_left 3 completed
  unfold stopped
  rw [hend, List.take_of_length_le (Nat.le_add_left 3 completed)]
  cases inside <;> rfl

/-- A complete write is read back, or nothing is. -/
theorem atomic_writeManifestGraph (hparsed : parser.manifest manifestBytes = some parsed)
    (hgraph : parser.graph graphBytes = some graph) :
    cache.Atomic parser files
      (cache.writeManifestGraph files source parsed.manifest manifestBytes graphBytes) source parsed
      graph := by
  unfold Atomic readEntryForSource
  cases hentry : cache.readSourceIndex
      (cache.writeManifestGraph files source parsed.manifest manifestBytes graphBytes) source with
  | none => exact .inl rfl
  | some entry =>
    rcases readSourceIndex_writeManifestGraph hentry with ⟨-, rfl⟩ | ⟨hne, -⟩
    · have hstored : Stored parser (cache.writeManifestGraph files source parsed.manifest
          manifestBytes graphBytes) (cache.manifestDir parsed.manifest) parsed graph :=
        stored_writeManifestGraph hparsed hgraph
      simp only [Option.bind_eq_bind, Option.bind_some]
      rw [hstored.readEntry]
      split_ifs
      · exact .inr (.inr rfl)
      · exact .inl rfl
    · exact absurd rfl hne

/-- Two files of which one cannot be read, or that are the new pair. -/
theorem atomic_inDir {manifest graphFile : Option CacheFile}
    (h : (contentOf manifest).bind parser.manifest = none ∨
      (contentOf graphFile).bind parser.graph = none ∨
      ((contentOf manifest).bind parser.manifest = some parsed ∧
        (contentOf graphFile).bind parser.graph = some graph)) (dir : List String) :
    cache.Atomic parser files (inDir files dir manifest graphFile) source parsed graph := by
  have hcases : cache.readEntryForSource parser (inDir files dir manifest graphFile) source = _ ∨ _ :=
    readEntryForSource_inDir dir manifest graphFile source
  rcases hcases with hsame | ⟨entry, hentry, hdir⟩
  · exact .inr (.inl hsame)
  · unfold Atomic
    rw [readEntryForSource_inDir_of_index hentry hdir]
    rcases h with hmanifest | hgraph | ⟨hmanifest, hgraph⟩
    · rw [hmanifest]
      exact .inl rfl
    · rw [hgraph]
      left
      cases (contentOf manifest).bind parser.manifest <;> simp
    · rw [hmanifest, hgraph]
      simp only [Option.bind_some, Option.map_some]
      split_ifs
      · exact .inr (.inr rfl)
      · exact .inl rfl

/-- The new manifest beside the old graph. -/
theorem atomic_stopped_one_iff (hparsed : parser.manifest manifestBytes = some parsed) :
    cache.Atomic parser files (stopped files
        (cache.manifestGraphWrites source parsed.manifest manifestBytes graphBytes) 1 false)
        source parsed graph ↔
      ¬cache.Mixes parser files source parsed graph 1 false := by
  rw [stopped_one]
  have hmanifest : (contentOf (some (.bytes manifestBytes))).bind parser.manifest = some parsed :=
    hparsed
  constructor
  · rintro hatomic ⟨-, -, entry, oldGraph, hentry, hdir, hkey, hold, hgraph, hother⟩
    have hold : (contentOf (files (cache.manifestDir parsed.manifest ++ ["graph.parquet"]))).bind
        parser.graph = some oldGraph := hold
    unfold Atomic at hatomic
    rw [readEntryForSource_inDir_of_index hentry hdir, hmanifest, hold, Option.bind_some,
      if_pos hkey, readEntryForSource_of_index hentry hdir, hold] at hatomic
    rcases hatomic with hnone | hsame | hnew
    · cases hnone
    · obtain ⟨old, hparse, hpair⟩ := Option.bind_eq_some_iff.1 hsame.symm
      split_ifs at hpair
      cases hpair
      exact hother hparse
    · cases hnew
      exact hgraph rfl
  · intro hmix
    have hcases : cache.readEntryForSource parser (inDir files (cache.manifestDir parsed.manifest)
        (some (.bytes manifestBytes))
        (files (cache.manifestDir parsed.manifest ++ ["graph.parquet"]))) source = _ ∨ _ :=
      readEntryForSource_inDir _ _ _ source
    rcases hcases with hsame | ⟨entry, hentry, hdir⟩
    · exact .inr (.inl hsame)
    · unfold Atomic
      rw [readEntryForSource_inDir_of_index hentry hdir, hmanifest, Option.bind_some]
      split_ifs with hkey
      · cases hold : (contentOf (files (cache.manifestDir parsed.manifest ++
            ["graph.parquet"]))).bind parser.graph with
        | none => exact .inl rfl
        | some oldGraph =>
          right
          by_cases hgraph : oldGraph = graph
          · right
            rw [hgraph]
            rfl
          · -- The pair that was there before has the same manifest.
            left
            by_contra hdiffers
            apply hmix
            refine ⟨rfl, rfl, entry, oldGraph, hentry, hdir, hkey, hold, hgraph, ?_⟩
            intro hsame
            have hsame : (contentOf (files (cache.manifestDir parsed.manifest ++
              ["manifest.json"]))).bind parser.manifest = some parsed := hsame
            apply hdiffers
            rw [readEntryForSource_of_index hentry hdir, hsame, hold, Option.bind_some,
              if_pos hkey]
      · exact .inl rfl

/-- **When a stopped write is atomic.** Whatever was cached before, after a write that stopped at any
point the source reads nothing, the old pair or the new pair, unless the write stopped between the
manifest and the graph of a directory that held another pair. -/
theorem stopped_write_atomic_iff (hparsed : parser.manifest manifestBytes = some parsed)
    (hgraph : parser.graph graphBytes = some graph) (completed : ℕ) (inside : Bool) :
    cache.Atomic parser files (stopped files
        (cache.manifestGraphWrites source parsed.manifest manifestBytes graphBytes) completed inside)
        source parsed graph ↔
      ¬cache.Mixes parser files source parsed graph completed inside := by
  match completed, inside with
  | 0, false => exact ⟨fun _ h => absurd h.1 (by decide), fun _ => .inr (.inl rfl)⟩
  | 0, true =>
    rw [stopped_zero_inside]
    exact ⟨fun _ h => absurd h.1 (by decide), fun _ => atomic_inDir (.inl rfl) _⟩
  | 1, false => exact atomic_stopped_one_iff hparsed
  | 1, true =>
    rw [stopped_one_inside]
    exact ⟨fun _ h => absurd h.2.1 (by decide), fun _ => atomic_inDir (.inr (.inl rfl)) _⟩
  | 2, false =>
    rw [stopped_two]
    exact ⟨fun _ h => absurd h.1 (by decide),
      fun _ => atomic_inDir (.inr (.inr ⟨by exact hparsed, by exact hgraph⟩)) _⟩
  | 2, true =>
    refine ⟨fun _ h => absurd h.1 (by decide), fun _ => .inl ?_⟩
    unfold readEntryForSource
    rw [readSourceIndex_stopped_two_inside]
    rfl
  | completed + 3, inside =>
    rw [stopped_three]
    refine ⟨fun _ h => ?_, fun _ => atomic_writeManifestGraph hparsed hgraph⟩
    have := h.1
    omega

end Stopped

open ArtifactCacheState (gritManifest gritParser gritCache gritSource)

/-- A cached pair of five units. -/
def cachedFiles : CacheFiles :=
  gritCache.writeManifestGraph (fun _ => none) gritSource (gritManifest 1 5).manifest [1, 5] [5]

/-- The write of a pair of six units, stopped before its index. -/
theorem stopped_write_atomic_before_index :
    gritParser.manifest [1, 6] = some (gritManifest 1 6) ∧ gritParser.graph [6] = some 6 ∧
      gritCache.Atomic gritParser cachedFiles (stopped cachedFiles
        (gritCache.manifestGraphWrites gritSource (gritManifest 1 6).manifest [1, 6] [6]) 2 false)
        gritSource (gritManifest 1 6) 6 := by
  refine ⟨rfl, rfl, (stopped_write_atomic_iff rfl rfl 2 false).2 ?_⟩
  intro hmix
  exact absurd hmix.1 (by decide)

/-- **The new manifest is read with the old graph.** -/
theorem not_stopped_write_atomic :
    ¬∀ (files : CacheFiles) (source : Source) (manifestBytes graphBytes : List UInt8)
      (parsed : ParsedManifest) (graph : ℕ) (completed : ℕ) (inside : Bool),
      gritParser.manifest manifestBytes = some parsed → gritParser.graph graphBytes = some graph →
      gritCache.Atomic gritParser files (stopped files
        (gritCache.manifestGraphWrites source parsed.manifest manifestBytes graphBytes) completed
        inside) source parsed graph := by
  intro hall
  have hatomic := hall cachedFiles gritSource [1, 6] [6] (gritManifest 1 6) 6 1 false rfl rfl
  have hunits : ∀ {x y : Option (ParsedManifest × ℕ)}, x = y →
      x.map (fun pair => (pair.1.manifest.unitCount, pair.2)) =
        y.map (fun pair => (pair.1.manifest.unitCount, pair.2)) :=
    fun h => congrArg _ h
  rcases hatomic with hnone | hold | hnew
  · exact absurd (hunits hnone) (by decide +kernel)
  · exact absurd (hunits hold) (by decide +kernel)
  · exact absurd (hunits hnew) (by decide +kernel)

end RemoteArtifactCache

end Pourpoint
