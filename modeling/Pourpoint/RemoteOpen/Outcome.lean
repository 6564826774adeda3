import Pourpoint.Library.Success
import Pourpoint.RemoteOpen

/-!
# What an open does

An open that does not fail has a manifest and a graph, open catchments and the HEADs of its snap files,
and ends in `finishOpen` (`openRemote_cases`). Its session is made of these (`sessionOf`), whether it
was validated or skipped the validation; the disk then differs at most in a sidecar.
-/

namespace Pourpoint.RemoteOpen

open Library

/-- The session of an open. -/
def sessionOf (parsed : ParsedManifest) (graph : DrainageGraph) (catchments : OpenedCatchments)
    (heads : List (SnapDecl × StoredObject)) : Session :=
  ⟨parsed, graph, catchments.object.content, catchments.idIndex, heads.map (·.2.content)⟩

variable {cache : RemoteArtifactCache} {parser : DatasetParser} {faults : Faults} {disk disk' : Disk}
  {source : Source} {objects : RemoteObjects}

/-! ## Manifest and graph -/

/-- The pair is that of the cache, or it is fetched and the disk has it afterwards. -/
theorem acquireManifestGraph_eq_ok {pair : ParsedManifest × DrainageGraph}
    (h : acquireManifestGraph cache parser faults disk source objects = (disk', .ok pair)) :
    (cache.readEntryForSource parser.artifacts disk.files source = some pair ∧ disk' = disk) ∨
      (cache.readEntryForSource parser.artifacts disk.files source = none ∧
        ∃ fetched, fetchManifestGraph parser source objects = .ok fetched ∧
          pair = (fetched.parsed, fetched.graph) ∧
          disk' = { disk with
            files := cache.writeManifestGraph disk.files source fetched.parsed.manifest
              fetched.manifestBytes fetched.graphBytes }) := by
  unfold acquireManifestGraph at h
  cases hread : cache.readEntryForSource parser.artifacts disk.files source with
  | some cached =>
    rw [hread] at h
    cases h
    exact Or.inl ⟨rfl, rfl⟩
  | none =>
    rw [hread] at h
    refine Or.inr ⟨rfl, ?_⟩
    cases hfetch : fetchManifestGraph parser source objects with
    | error e =>
      rw [hfetch] at h
      cases h
    | ok fetched =>
      rw [hfetch] at h
      cases hfault : faults.manifestGraph with
      | none =>
        rw [hfault] at h
        cases h
        exact ⟨fetched, rfl, rfl, rfl⟩
      | some stop =>
        rw [hfault] at h
        cases h

theorem remoteObject_eq_ok {name artifact : String} {object : StoredObject} :
    remoteObject source objects name artifact = .ok object ↔
      objects (artifactPath source artifact) = some object := by
  unfold remoteObject require
  dsimp only
  cases objects (artifactPath source artifact) <;> simp

/-- The manifest and the graph that an open uses. -/
def usedPair (cache : RemoteArtifactCache) (parser : DatasetParser) (disk : Disk) (source : Source)
    (objects : RemoteObjects) : Option (ParsedManifest × DrainageGraph) :=
  match cache.readEntryForSource parser.artifacts disk.files source with
  | some pair => some pair
  | none => (fetchManifestGraph parser source objects).toOption.map
      fun fetched => (fetched.parsed, fetched.graph)

theorem usedPair_of_acquire {pair : ParsedManifest × DrainageGraph}
    (h : acquireManifestGraph cache parser faults disk source objects = (disk', .ok pair)) :
    usedPair cache parser disk source objects = some pair := by
  unfold usedPair
  rcases acquireManifestGraph_eq_ok h with ⟨hread, -⟩ | ⟨hread, fetched, hfetch, rfl, -⟩
  · rw [hread]
  · rw [hread, hfetch]
    rfl

theorem fetchManifestGraph_eq_ok {fetched : FetchedManifestGraph}
    (h : fetchManifestGraph parser source objects = .ok fetched) :
    ∃ manifest graph, objects (artifactPath source "manifest.json") = some manifest ∧
      objects (artifactPath source "graph.parquet") = some graph ∧
      parser.manifest manifest.content = .ok fetched.parsed ∧
      parser.graph graph.content = .ok fetched.graph ∧
      fetched.manifestBytes = manifest.content ∧ fetched.graphBytes = graph.content := by
  unfold fetchManifestGraph at h
  obtain ⟨manifest, hmanifest, h⟩ := bind_eq_ok h
  obtain ⟨parsed, hparsed, h⟩ := bind_eq_ok h
  obtain ⟨_, -, h⟩ := bind_eq_ok h
  obtain ⟨graphObject, hgraphObject, h⟩ := bind_eq_ok h
  obtain ⟨graph, hgraph, h⟩ := bind_eq_ok h
  cases h
  exact ⟨manifest, graphObject, remoteObject_eq_ok.1 hmanifest, remoteObject_eq_ok.1 hgraphObject,
    hparsed, hgraph, rfl, rfl⟩

/-! ## Catchments -/

theorem files_readOrBuildIdIndex (location : List String) (object : StoredObject) :
    (readOrBuildIdIndex parser faults disk location object).1.files = disk.files := by
  unfold readOrBuildIdIndex
  split
  · rfl
  · split
    · rfl
    · split <;> rfl

theorem files_openCatchments (fabricName adapterVersion : String) :
    (openCatchments cache parser faults disk source objects fabricName adapterVersion).1.files =
      disk.files := by
  unfold openCatchments
  split
  · rfl
  · split
    · rfl
    · exact files_readOrBuildIdIndex _ _

/-- Open catchments are those of the source, with an index that was read or built. -/
theorem openCatchments_eq_ok {fabricName adapterVersion : String} {catchments : OpenedCatchments} :
    openCatchments cache parser faults disk source objects fabricName adapterVersion =
        (disk', .ok catchments) ↔
      objects (artifactPath source "catchments.parquet") = some catchments.object ∧
        parser.catchmentRows catchments.object.content = .ok catchments.totalRows ∧
        readOrBuildIdIndex parser faults disk
            (cache.locate (cache.idIndexPath fabricName adapterVersion "catchments.parquet"))
            catchments.object = (disk', .ok (catchments.idIndex, catchments.levelsFromOpen)) := by
  obtain ⟨object, totalRows, idIndex, levelsFromOpen⟩ := catchments
  rw [← @remoteObject_eq_ok source objects "catchments.parquet"]
  unfold openCatchments
  cases remoteObject source objects "catchments.parquet" "catchments.parquet" with
  | error e => simp
  | ok found =>
    cases hrows : parser.catchmentRows found.content with
    | error e =>
      simp only [hrows]
      refine iff_of_false (fun h => nomatch h) ?_
      rintro ⟨hobject, hok, -⟩
      cases hobject
      rw [hrows] at hok
      cases hok
    | ok rows =>
      simp only [hrows]
      constructor
      · intro h
        obtain ⟨hdisk, hindex⟩ := Prod.mk.inj h
        cases hread : readOrBuildIdIndex parser faults disk
            (cache.locate (cache.idIndexPath fabricName adapterVersion "catchments.parquet"))
            found with
        | mk after index =>
          rw [hread] at hdisk hindex
          cases index with
          | error e => cases hindex
          | ok pair =>
            cases hindex
            exact ⟨rfl, hrows, hdisk ▸ hread⟩
      · rintro ⟨hobject, hok, hindex⟩
        cases hobject
        cases hrows.symm.trans hok
        rw [hindex]
        rfl

/-! ## Snap stores -/

/-- The stores have the contents of the snap files, whether their references are read or not. -/
theorem contents_openSnapStores {lazyMetadata : Bool} {heads : List (SnapDecl × StoredObject)}
    {snaps : List OpenedSnap} (h : openSnapStores parser lazyMetadata heads = .ok snaps) :
    snaps.map (·.content) = heads.map (·.2.content) := by
  unfold openSnapStores at h
  induction heads generalizing snaps with
  | nil =>
    cases h
    rfl
  | cons head heads ih =>
    rw [List.mapM_cons] at h
    obtain ⟨snap, hsnap, h⟩ := bind_eq_ok h
    obtain ⟨rest, hrest, h⟩ := bind_eq_ok h
    cases h
    have hcontent : snap.content = head.2.content := by
      obtain ⟨_, -, hsnap⟩ := bind_eq_ok hsnap
      split at hsnap
      · cases hsnap
        rfl
      · obtain ⟨refs, -, hsnap⟩ := bind_eq_ok hsnap
        cases hsnap
        rfl
    rw [List.map_cons, List.map_cons, hcontent, ih hrest]

/-- Files that open with their references open without them. -/
theorem openSnapStores_lazy {heads : List (SnapDecl × StoredObject)} {snaps : List OpenedSnap}
    (h : openSnapStores parser false heads = .ok snaps) :
    ∃ lazy, openSnapStores parser true heads = .ok lazy := by
  unfold openSnapStores at h ⊢
  induction heads generalizing snaps with
  | nil => exact ⟨[], rfl⟩
  | cons head heads ih =>
    rw [List.mapM_cons] at h ⊢
    obtain ⟨snap, hsnap, h⟩ := bind_eq_ok h
    obtain ⟨rest, hrest, -⟩ := bind_eq_ok h
    obtain ⟨lazy, hlazy⟩ := ih hrest
    obtain ⟨_, hopen, -⟩ := bind_eq_ok hsnap
    exact ⟨⟨head.1, head.2.content, none⟩ :: lazy, by rw [hopen, hlazy]; rfl⟩

/-! ## The end of an open -/

/-- How an open ends, with the metadata that it checked against the sidecar. -/
theorem finishOpen_cases {parsed : ParsedManifest} {graph : DrainageGraph}
    {catchments : OpenedCatchments} {heads : List (SnapDecl × StoredObject)} {outcome : Outcome}
    (h : finishOpen cache parser faults disk source objects parsed graph catchments heads =
      (disk', outcome)) :
    let inputs := sidecarInputs source objects parsed catchments.object heads
    let hit := validationSidecarMatches cache disk parsed.manifest.fabricName
      parsed.manifest.adapterVersion inputs
    (∃ e, outcome = .failed e ∧ openSnapStores parser hit heads = .error e ∧ disk' = disk) ∨
      (outcome = .skipped (sessionOf parsed graph catchments heads) ∧ hit = true ∧ disk' = disk) ∨
      (∃ e snaps, outcome = .rejected e ∧ openSnapStores parser false heads = .ok snaps ∧
        validateReferences parser parsed.manifest graph catchments snaps = .error e ∧ disk' = disk) ∨
      (outcome = .validated (sessionOf parsed graph catchments heads) ∧ hit = false ∧
        ∃ snaps, openSnapStores parser false heads = .ok snaps ∧
          validateReferences parser parsed.manifest graph catchments snaps = .ok () ∧
          disk' = match validationSidecarForCurrentMetadata inputs with
            | some sidecar => writeValidationSidecarBestEffort cache faults disk
                parsed.manifest.fabricName parsed.manifest.adapterVersion sidecar
            | none => disk) := by
  intro inputs hit
  have hsession : ∀ {snaps : List OpenedSnap}, openSnapStores parser hit heads = .ok snaps →
      (⟨parsed, graph, catchments.object.content, catchments.idIndex, snaps.map (·.content)⟩ :
        Session) = sessionOf parsed graph catchments heads := by
    intro snaps hsnaps
    rw [contents_openSnapStores hsnaps]
    rfl
  unfold finishOpen at h
  cases hsnaps : openSnapStores parser hit heads with
  | error e =>
    simp only [inputs, hit] at hsnaps
    simp only [hsnaps] at h
    cases h
    exact Or.inl ⟨e, rfl, rfl, rfl⟩
  | ok snaps =>
    have hsame := hsession hsnaps
    simp only [inputs, hit] at hsnaps
    simp only [hsnaps, hsame] at h
    cases hhit : hit with
    | true =>
      simp only [inputs, hit] at hhit
      rw [if_pos hhit] at h
      cases h
      exact Or.inr (Or.inl ⟨rfl, rfl, rfl⟩)
    | false =>
      simp only [inputs, hit] at hhit
      rw [hhit] at hsnaps
      rw [if_neg (Bool.eq_false_iff.1 hhit)] at h
      cases hvalid : validateReferences parser parsed.manifest graph catchments snaps with
      | error e =>
        rw [hvalid] at h
        cases h
        exact Or.inr (Or.inr (Or.inl ⟨e, snaps, rfl, hsnaps, hvalid, rfl⟩))
      | ok u =>
        rw [hvalid] at h
        refine Or.inr (Or.inr (Or.inr ?_))
        cases hsidecar : validationSidecarForCurrentMetadata
            (sidecarInputs source objects parsed catchments.object heads) with
        | some sidecar =>
          simp only [hsidecar] at h
          cases h
          exact ⟨rfl, rfl, snaps, hsnaps, hvalid, rfl⟩
        | none =>
          simp only [hsidecar] at h
          cases h
          exact ⟨rfl, rfl, snaps, hsnaps, hvalid, rfl⟩

/-- An open fails, or it acquires its parts and ends in `finishOpen`. -/
theorem openRemote_cases {outcome : Outcome}
    (h : openRemote cache parser faults disk source objects = (disk', outcome)) :
    (∃ e, outcome = .failed e ∧
      disk'.files = (acquireManifestGraph cache parser faults disk source objects).1.files) ∨
      ∃ diskA parsed graph diskB catchments heads,
        acquireManifestGraph cache parser faults disk source objects = (diskA, .ok (parsed, graph)) ∧
        openCatchments cache parser faults diskA source objects parsed.manifest.fabricName
          parsed.manifest.adapterVersion = (diskB, .ok catchments) ∧
        snapHeads source objects parsed.aux = .ok heads ∧
        finishOpen cache parser faults diskB source objects parsed graph catchments heads =
          (disk', outcome) := by
  unfold openRemote at h
  cases hacquire : acquireManifestGraph cache parser faults disk source objects with
  | mk diskA acquired =>
    rw [hacquire] at h
    cases acquired with
    | error e =>
      cases h
      exact Or.inl ⟨e, rfl, rfl⟩
    | ok pair =>
      obtain ⟨parsed, graph⟩ := pair
      dsimp only at h
      have hfiles := @files_openCatchments cache parser faults diskA source objects
        parsed.manifest.fabricName parsed.manifest.adapterVersion
      cases hopen : openCatchments cache parser faults diskA source objects
          parsed.manifest.fabricName parsed.manifest.adapterVersion with
      | mk diskB opened =>
        rw [hopen] at h hfiles
        cases opened with
        | error e =>
          cases h
          exact Or.inl ⟨e, rfl, hfiles⟩
        | ok catchments =>
          dsimp only at h
          cases hheads : snapHeads source objects parsed.aux with
          | error e =>
            rw [hheads] at h
            cases h
            exact Or.inl ⟨e, rfl, hfiles⟩
          | ok heads =>
            rw [hheads] at h
            exact Or.inr ⟨diskA, parsed, graph, diskB, catchments, heads, rfl, hopen, hheads, h⟩

/-- An open whose parts are there ends in `finishOpen`. -/
theorem openRemote_eq_finishOpen {diskA diskB : Disk} {parsed : ParsedManifest}
    {graph : DrainageGraph} {catchments : OpenedCatchments} {heads : List (SnapDecl × StoredObject)}
    (hacquire : acquireManifestGraph cache parser faults disk source objects =
      (diskA, .ok (parsed, graph)))
    (hopen : openCatchments cache parser faults diskA source objects parsed.manifest.fabricName
      parsed.manifest.adapterVersion = (diskB, .ok catchments))
    (hheads : snapHeads source objects parsed.aux = .ok heads) :
    openRemote cache parser faults disk source objects =
      finishOpen cache parser faults diskB source objects parsed graph catchments heads := by
  simp only [openRemote, hacquire, hopen, hheads]

end Pourpoint.RemoteOpen
