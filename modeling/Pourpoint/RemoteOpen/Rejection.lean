import Pourpoint.RemoteOpen.Outcome

/-!
# Opens after a rejected open

`open_remote` caches the manifest and the graph before it validates them, and reads them back without
a look at the remote objects. So the open that follows a rejected one uses the rejected pair also when the
dataset has been replaced (`not_result_after_rejection`): it gives what an open with an empty cache gives
exactly when the pair that it reads back is that of the new dataset, and when an id index that it
finds for the new catchments is the one that is built from them (`result_after_rejection_iff`).
-/

namespace Pourpoint.RemoteOpen

open Library

variable {cache : RemoteArtifactCache} {parser : DatasetParser} {faults faults' : Faults}
  {disk disk' : Disk} {source : Source} {objects : RemoteObjects}

theorem DatasetParser.readIdLevels_of_readIdsLevels {bytes : List UInt8} {index : IdIndex}
    {levels : UnitId → Option Level} (h : parser.readIdsLevels bytes = .ok (index, levels)) :
    ∃ rows, parser.readIdLevels bytes = .ok rows ∧ catchmentLevels rows = levels := by
  obtain ⟨file, hfile, h⟩ := bind_eq_ok_iff.1 h
  obtain ⟨found, hfound, h⟩ := bind_eq_ok_iff.1 h
  cases h
  obtain ⟨rows, hrows, hlevels⟩ := Pourpoint.readIdLevels_of_readIdsLevels hfound
  exact ⟨rows, by rw [DatasetParser.readIdLevels, hfile, ok_bind, hrows], hlevels⟩

/-! ## The same parts on another disk -/

/-- Two opened stores of one object whose checks are the same. -/
structure SameStore (parser : DatasetParser) (catchments other : OpenedCatchments) : Prop where
  object : other.object = catchments.object
  totalRows : other.totalRows = catchments.totalRows
  idIndex : other.idIndex = catchments.idIndex
  levels : catchmentStoreLevels parser other = catchmentStoreLevels parser catchments

theorem SameStore.validateReferences_eq {catchments other : OpenedCatchments}
    (h : SameStore parser catchments other) (manifest : Manifest) (graph : DrainageGraph)
    (snaps : List OpenedSnap) :
    validateReferences parser manifest graph other snaps =
      validateReferences parser manifest graph catchments snaps := by
  unfold validateReferences storeReads
  rw [h.totalRows, h.levels, h.idIndex]

/-- What passed the validation once passes it, or skips it, on any other disk. -/
theorem finishOpen_of_validated {parsed : ParsedManifest} {graph : DrainageGraph}
    {catchments other : OpenedCatchments} {heads : List (SnapDecl × StoredObject)} {session : Session}
    (hfinish : (finishOpen cache parser faults disk source objects parsed graph catchments heads).2 =
      .validated session)
    (hsame : SameStore parser catchments other) :
    (finishOpen cache parser faults' disk' source objects parsed graph other heads).2.result =
      .ok session := by
  rcases finishOpen_cases (Prod.eta (finishOpen cache parser faults disk source objects parsed graph
    catchments heads)).symm with ⟨e, he, -⟩ | ⟨hskip, -, -⟩ |
    ⟨e, _, he, -⟩ | ⟨hvalid, -, snaps, hsnaps, hreferences, -⟩
  · rw [he] at hfinish
    cases hfinish
  · rw [hskip] at hfinish
    cases hfinish
  · rw [he] at hfinish
    cases hfinish
  obtain rfl : sessionOf parsed graph catchments heads = session :=
    Outcome.validated.inj (hvalid.symm.trans hfinish)
  have hsession : sessionOf parsed graph other heads = sessionOf parsed graph catchments heads := by
    unfold sessionOf
    rw [hsame.object, hsame.idIndex]
  rcases finishOpen_cases (Prod.eta (finishOpen cache parser faults' disk' source objects parsed graph
    other heads)).symm with ⟨e, -, hfails, -⟩ | ⟨hskip, -, -⟩ | ⟨e, snaps', -, hsnaps', hfails, -⟩ |
    ⟨hvalid', -, -⟩
  · -- The snap files open with their references, so they open in either mode.
    obtain ⟨lazy, hlazy⟩ := openSnapStores_lazy hsnaps
    cases hhit : validationSidecarMatches cache disk' parsed.manifest.fabricName
        parsed.manifest.adapterVersion (sidecarInputs source objects parsed other.object heads) with
    | true =>
      rw [hhit, hlazy] at hfails
      cases hfails
    | false =>
      rw [hhit, hsnaps] at hfails
      cases hfails
  · rw [hskip, hsession]
    rfl
  · cases hsnaps.symm.trans hsnaps'
    rw [hsame.validateReferences_eq, hreferences] at hfails
    cases hfails
  · rw [hvalid', hsession]
    rfl

/-! ## The pair -/

theorem acquireManifestGraph_of_fetch {parsed : ParsedManifest} {graph : DrainageGraph}
    (hread : cache.readEntryForSource parser.artifacts disk.files source = none)
    (hfetch : ∃ fetched, fetchManifestGraph parser source objects = .ok fetched ∧
      (fetched.parsed, fetched.graph) = (parsed, graph)) :
    ∃ after, acquireManifestGraph cache parser .none disk source objects =
      (after, .ok (parsed, graph)) := by
  obtain ⟨fetched, hfetched, hpair⟩ := hfetch
  refine ⟨(acquireManifestGraph cache parser .none disk source objects).1, Prod.ext rfl ?_⟩
  simp only [acquireManifestGraph, hread, hfetched, Faults.none, hpair]

theorem acquireManifestGraph_of_empty {parsed : ParsedManifest} {graph : DrainageGraph}
    (h : acquireManifestGraph cache parser faults .empty source objects =
      (disk', .ok (parsed, graph))) :
    ∃ fetched, fetchManifestGraph parser source objects = .ok fetched ∧
      (fetched.parsed, fetched.graph) = (parsed, graph) := by
  rcases acquireManifestGraph_eq_ok h with ⟨hread, -⟩ | ⟨-, fetched, hfetch, hpair, -⟩
  · cases hread
  · exact ⟨fetched, hfetch, hpair.symm⟩

/-- After the pair was acquired the cache has this pair or none. -/
theorem readEntryForSource_of_acquire {pair found : ParsedManifest × DrainageGraph}
    (h : acquireManifestGraph cache parser faults disk source objects = (disk', .ok pair))
    (hfound : cache.readEntryForSource parser.artifacts disk'.files source = some found) :
    found = pair := by
  rcases acquireManifestGraph_eq_ok h with ⟨hread, rfl⟩ | ⟨-, fetched, hfetch, rfl, rfl⟩
  · exact Option.some.inj (hfound.symm.trans hread)
  · obtain ⟨manifest, graphObject, -, -, hmanifest, hgraph, hmanifestBytes, hgraphBytes⟩ :=
      fetchManifestGraph_eq_ok hfetch
    obtain ⟨entry, hentry, hfound⟩ := Option.bind_eq_some_iff.1 hfound
    obtain ⟨-, rfl⟩ | ⟨hne, -⟩ := RemoteArtifactCache.readSourceIndex_writeManifestGraph hentry
    · have hstored : RemoteArtifactCache.Stored parser.artifacts
          (cache.writeManifestGraph disk.files source fetched.parsed.manifest fetched.manifestBytes
            fetched.graphBytes) (cache.manifestDir fetched.parsed.manifest) fetched.parsed
          fetched.graph :=
        RemoteArtifactCache.stored_writeManifestGraph
          (toOption_eq_some_iff.2 (hmanifestBytes ▸ hmanifest))
          (toOption_eq_some_iff.2 (hgraphBytes ▸ hgraph))
      rw [hstored.readEntry] at hfound
      split_ifs at hfound
      exact (Option.some.inj hfound).symm
    · exact absurd rfl hne

/-! ## The id index -/

theorem readOrBuildIdIndex_of_load {location : List String} {object : StoredObject} {etag : String}
    {index : IdIndex} (hetag : object.etag = some etag)
    (hload : loadIdIndex disk location object.size etag = some index) :
    readOrBuildIdIndex parser faults disk location object = (disk, .ok (index, none)) := by
  simp only [readOrBuildIdIndex, hetag, hload]

/-- The index that is built on a disk without one is read or built on any disk that has no other. -/
theorem readOrBuildIdIndex_of_built {built after : Disk}
    {location : List String} {object : StoredObject} {idIndex : IdIndex}
    {levelsFromOpen : Option (UnitId → Option Level)} (hbuilt : built.idIndexes location = none)
    (h : readOrBuildIdIndex parser faults built location object =
      (after, .ok (idIndex, levelsFromOpen)))
    (hload : ∀ etag index, object.etag = some etag →
      loadIdIndex disk location object.size etag = some index → index = idIndex) (totalRows : ℕ) :
    ∃ disk' other, readOrBuildIdIndex parser faults' disk location object =
        (disk', .ok (idIndex, other)) ∧
      SameStore parser ⟨object, totalRows, idIndex, levelsFromOpen⟩
        ⟨object, totalRows, idIndex, other⟩ := by
  cases hetag : object.etag with
  | none =>
    simp only [readOrBuildIdIndex, hetag] at h ⊢
    exact ⟨disk, levelsFromOpen, Prod.ext rfl (Prod.mk.inj h).2, rfl, rfl, rfl, rfl⟩
  | some etag =>
    have hnone : loadIdIndex built location object.size etag = none := by
      rw [loadIdIndex, hbuilt]
      rfl
    simp only [readOrBuildIdIndex, hetag, hnone] at h
    cases hread : parser.readIdsLevels object.content with
    | error e =>
      rw [hread] at h
      cases h
    | ok pair =>
      obtain ⟨index, levels⟩ := pair
      rw [hread] at h
      cases h
      cases hfound : loadIdIndex disk location object.size etag with
      | some found =>
        obtain rfl := hload etag found hetag hfound
        obtain ⟨rows, hrows, hlevels⟩ := parser.readIdLevels_of_readIdsLevels hread
        refine ⟨disk, none, readOrBuildIdIndex_of_load hetag hfound, rfl, rfl, rfl, ?_⟩
        show (parser.readIdLevels object.content).map catchmentLevels = .ok levels
        rw [hrows, ← hlevels]
        rfl
      | none =>
        refine ⟨(readOrBuildIdIndex parser faults' disk location object).1, some levels,
          Prod.ext rfl ?_, rfl, rfl, rfl, rfl⟩
        simp only [readOrBuildIdIndex, hetag, hfound, hread]

/-! ## The open after the rejection -/

/-- The location of the id index of a session. -/
def idIndexLocation (cache : RemoteArtifactCache) (parsed : ParsedManifest) : List String :=
  cache.locate (cache.idIndexPath parsed.manifest.fabricName parsed.manifest.adapterVersion
    "catchments.parquet")

theorem idIndexes_acquireManifestGraph :
    (acquireManifestGraph cache parser faults disk source objects).1.idIndexes = disk.idIndexes := by
  unfold acquireManifestGraph
  split
  · rfl
  · split
    · rfl
    · split <;> rfl

/-- A rejected open leaves the files as its acquisition left them. -/
theorem files_of_rejected {error : SessionError}
    (h : openRemote cache parser faults disk source objects = (disk', .rejected error)) :
    ∃ diskA pair, acquireManifestGraph cache parser faults disk source objects = (diskA, .ok pair) ∧
      disk'.files = diskA.files := by
  rcases openRemote_cases h with ⟨e, he, -⟩ | ⟨diskA, parsed, graph, diskB, catchments, heads,
    hacquire, hopen, -, hfinish⟩
  · cases he
  · have hfiles := @files_openCatchments cache parser faults diskA source objects
      parsed.manifest.fabricName parsed.manifest.adapterVersion
    rw [hopen] at hfiles
    refine ⟨diskA, (parsed, graph), hacquire, ?_⟩
    rcases finishOpen_cases hfinish with ⟨_, he, -⟩ | ⟨he, -⟩ | ⟨_, _, -, -, -, rfl⟩ | ⟨he, -⟩
    · cases he
    · cases he
    · exact hfiles
    · cases he

/-- An open that returns has the pair it acquired, and the catchments that it opened. -/
theorem openRemote_returns {session : Session}
    (h : (openRemote cache parser faults disk source objects).2.result = .ok session) :
    ∃ diskA parsed graph diskB catchments heads,
      acquireManifestGraph cache parser faults disk source objects = (diskA, .ok (parsed, graph)) ∧
      openCatchments cache parser faults diskA source objects parsed.manifest.fabricName
        parsed.manifest.adapterVersion = (diskB, .ok catchments) ∧
      snapHeads source objects parsed.aux = .ok heads ∧
      session = sessionOf parsed graph catchments heads := by
  rcases openRemote_cases (Prod.eta (openRemote cache parser faults disk source objects)).symm with
    ⟨e, he, -⟩ | ⟨diskA, parsed, graph, diskB, catchments, heads, hacquire, hopen, hheads, hfinish⟩
  · rw [he] at h
    cases h
  · refine ⟨diskA, parsed, graph, diskB, catchments, heads, hacquire, hopen, hheads, ?_⟩
    rcases finishOpen_cases hfinish with ⟨_, he, -⟩ | ⟨he, -⟩ | ⟨_, _, he, -⟩ | ⟨he, -⟩
    · rw [he] at h
      cases h
    · rw [he] at h
      exact (Except.ok.inj h).symm
    · rw [he] at h
      cases h
    · rw [he] at h
      exact (Except.ok.inj h).symm

/-- An open that returns uses the pair and the id index that the cache has. -/
theorem stored_of_returns {session : Session}
    (h : (openRemote cache parser faults disk source objects).2.result = .ok session) :
    (∀ pair, cache.readEntryForSource parser.artifacts disk.files source = some pair →
      pair = (session.parsed, session.graph)) ∧
    ∀ object etag index, objects (artifactPath source "catchments.parquet") = some object →
      object.etag = some etag →
      loadIdIndex disk (idIndexLocation cache session.parsed) object.size etag = some index →
        index = session.idIndex := by
  obtain ⟨diskA, parsed, graph, diskB, catchments, heads, hacquire, hopen, -, rfl⟩ :=
    openRemote_returns h
  refine ⟨?_, ?_⟩
  · intro pair hread
    rcases acquireManifestGraph_eq_ok hacquire with ⟨hread', -⟩ | ⟨hnone, -⟩
    · exact Option.some.inj (hread.symm.trans hread')
    · rw [hread] at hnone
      cases hnone
  · intro object etag index hobject hetag hload
    obtain ⟨hobject', -, hindex⟩ := openCatchments_eq_ok.1 hopen
    obtain rfl := Option.some.inj (hobject'.symm.trans hobject)
    have hsame : diskA.idIndexes = disk.idIndexes := by
      rw [← @idIndexes_acquireManifestGraph cache parser faults disk source objects, hacquire]
    have hloadA : loadIdIndex diskA (idIndexLocation cache parsed) catchments.object.size etag =
        some index := by
      rw [loadIdIndex, hsame]
      exact hload
    have hread := @readOrBuildIdIndex_of_load parser faults diskA _ _ etag index hetag hloadA
    have hpair := (Prod.mk.inj (hread.symm.trans hindex)).2
    exact (Prod.mk.inj (Except.ok.inj hpair)).1

/-- What an open with an empty cache validated is returned on every disk that gives the same pair and
has no other id index of the catchments. -/
theorem result_of_validated {session : Session}
    (hvalidated : (openRemote cache parser faults .empty source objects).2 = .validated session)
    (hacquire : ∃ diskC, acquireManifestGraph cache parser faults' disk source objects =
      (diskC, .ok (session.parsed, session.graph)))
    (hindex : ∀ object etag index, objects (artifactPath source "catchments.parquet") = some object →
      object.etag = some etag →
      loadIdIndex disk (idIndexLocation cache session.parsed) object.size etag = some index →
        index = session.idIndex) :
    (openRemote cache parser faults' disk source objects).2.result = .ok session := by
  obtain ⟨diskA, parsed, graph, diskB, catchments, heads, hacquireA, hopen, hheads, rfl⟩ :=
    openRemote_returns (h := by rw [hvalidated]; rfl)
  obtain ⟨diskC, hacquireC⟩ := hacquire
  have hindexesA : diskA.idIndexes = Disk.empty.idIndexes := by
    rw [← @idIndexes_acquireManifestGraph cache parser faults .empty source objects, hacquireA]
  have hindexesC : diskC.idIndexes = disk.idIndexes := by
    rw [← @idIndexes_acquireManifestGraph cache parser faults' disk source objects, hacquireC]
  obtain ⟨hobject, hrows, hbuilt⟩ := openCatchments_eq_ok.1 hopen
  obtain ⟨object, totalRows, idIndex, levelsFromOpen⟩ := catchments
  have hload : ∀ etag index, object.etag = some etag →
      loadIdIndex diskC (idIndexLocation cache parsed) object.size etag = some index →
        index = idIndex := by
    intro etag index hetag hload
    rw [loadIdIndex, hindexesC] at hload
    exact hindex object etag index hobject hetag hload
  obtain ⟨diskD, other, hother, hsame⟩ := readOrBuildIdIndex_of_built
    (by rw [hindexesA]; rfl) hbuilt hload totalRows
  have hopenC : openCatchments cache parser faults' diskC source objects parsed.manifest.fabricName
      parsed.manifest.adapterVersion = (diskD, .ok ⟨object, totalRows, idIndex, other⟩) :=
    openCatchments_eq_ok.2 ⟨hobject, hrows, hother⟩
  rw [openRemote_eq_finishOpen hacquireC hopenC hheads]
  rw [openRemote_eq_finishOpen hacquireA hopen hheads] at hvalidated
  exact finishOpen_of_validated hvalidated hsame

/-- **After a rejection.** The next open of a consistent dataset gives what an open with an empty cache
gives exactly when the pair that the cache has kept and the id index that it has for the catchments are
those of the dataset. -/
theorem result_after_rejection_iff {rejectedObjects : RemoteObjects} {error : SessionError} {session : Session}
    (hrejected : openRemote cache parser faults disk source rejectedObjects = (disk', .rejected error))
    (hconsistent : (openRemote cache parser .none .empty source objects).2 = .validated session) :
    (openRemote cache parser .none disk' source objects).2.result =
        (openRemote cache parser .none .empty source objects).2.result ↔
      (∀ pair, usedPair cache parser disk source rejectedObjects = some pair →
        cache.readEntryForSource parser.artifacts disk'.files source = some pair →
          pair = (session.parsed, session.graph)) ∧
      ∀ object etag index, objects (artifactPath source "catchments.parquet") = some object →
        object.etag = some etag →
        loadIdIndex disk' (idIndexLocation cache session.parsed) object.size etag = some index →
          index = session.idIndex := by
  obtain ⟨diskR, used, hused, hfiles⟩ := files_of_rejected hrejected
  have hempty : (openRemote cache parser .none .empty source objects).2.result = .ok session := by
    rw [hconsistent]
    rfl
  rw [hempty]
  constructor
  · intro h
    obtain ⟨hpair, hindex⟩ := stored_of_returns h
    exact ⟨fun pair _ => hpair pair, hindex⟩
  · rintro ⟨hpair, hindex⟩
    refine result_of_validated hconsistent ?_ hindex
    cases hread : cache.readEntryForSource parser.artifacts disk'.files source with
    | none =>
      obtain ⟨diskA, parsed, graph, diskB, catchments, heads, hacquire, -, -, rfl⟩ :=
        openRemote_returns hempty
      exact acquireManifestGraph_of_fetch hread (acquireManifestGraph_of_empty hacquire)
    | some found =>
      have hfound : found = used := readEntryForSource_of_acquire hused (hfiles ▸ hread)
      subst hfound
      have hsame := hpair found (usedPair_of_acquire hused) hread
      exact ⟨disk', by rw [acquireManifestGraph, hread, hsame]⟩

/-! ### Two versions of a dataset -/

open ArtifactCacheState (gritManifest gritCache gritSource)

/-- One unit, or two of which the first drains into the second. -/
def gritGraph : List UInt8 → Except SessionError DrainageGraph
  | [1] => .ok ⟨[⟨1, 0, []⟩], by decide⟩
  | [2] => .ok ⟨[⟨1, 0, []⟩, ⟨2, 0, [1]⟩], by decide⟩
  | _ => .error (.graphParse "unexpected end of file")

/-- Catchments are a byte for each unit. -/
def gritRow (id : UInt8) : CatchmentRow
  | .id => some id.toNat
  | .level => some 0
  | _ => none

def gritDatasets : DatasetParser where
  manifest
    | [version, count] => .ok (gritManifest version.toNat count.toNat)
    | _ => .error .manifestJsonParse
  graph := gritGraph
  catchmentRows content := .ok content.length
  hfxUnit := acceptingHfxUnit
  catchments columns content := .ok (singleGroupFile columns [content.map gritRow])
  openSnap _ := .ok ()
  snapRefs _ := .ok []

def gritObjects (manifest graph catchments : StoredObject) : RemoteObjects := fun path =>
  if path = artifactPath gritSource "manifest.json" then some manifest
  else if path = artifactPath gritSource "graph.parquet" then some graph
  else if path = artifactPath gritSource "catchments.parquet" then some catchments
  else none

/-- Two units in the manifest and the catchments, one in the graph. -/
def inconsistentObjects : RemoteObjects :=
  gritObjects ⟨[1, 2], some "m1"⟩ ⟨[1], some "g1"⟩ ⟨[1, 2], some "c1"⟩

/-- One unit in the manifest and the graph, with the catchments of another. -/
def misplacedObjects : RemoteObjects :=
  gritObjects ⟨[1, 1], some "m2"⟩ ⟨[1], some "g1"⟩ ⟨[2], some "c1"⟩

/-- One unit everywhere. -/
def consistentObjects : RemoteObjects :=
  gritObjects ⟨[1, 1], some "m2"⟩ ⟨[1], some "g1"⟩ ⟨[1], some "c2"⟩

def consistentSession : Session where
  parsed := gritManifest 1 1
  graph := ⟨[⟨1, 0, []⟩], by decide⟩
  catchments := [1]
  idIndex := ⟨[1], [(1, 0)]⟩
  snaps := []

/-- The disk that a rejected open leaves. -/
def rejectedDisk (objects : RemoteObjects) : Disk :=
  (openRemote gritCache gritDatasets .none .empty gritSource objects).1

/-- The result of the next open. -/
def gritResult (disk : Disk) : Except SessionError Session :=
  (openRemote gritCache gritDatasets .none disk gritSource consistentObjects).2.result

theorem openRemote_inconsistent : ∃ error, openRemote gritCache gritDatasets .none .empty gritSource
    inconsistentObjects = (rejectedDisk inconsistentObjects, .rejected error) := ⟨_, rfl⟩

theorem openRemote_misplaced : ∃ error, openRemote gritCache gritDatasets .none .empty gritSource
    misplacedObjects = (rejectedDisk misplacedObjects, .rejected error) := ⟨_, rfl⟩

theorem openRemote_consistent : (openRemote gritCache gritDatasets .none .empty gritSource
    consistentObjects).2 = .validated consistentSession := rfl

/-- Once the catchments of the other unit are replaced the dataset opens as with an empty cache: the cached
pair is that of the dataset and the id index is of the tag of the other catchments. Once a manifest is
replaced it does not. -/
theorem result_after_rejection_iff_grit :
    gritResult (rejectedDisk misplacedObjects) = gritResult .empty ∧
      gritResult (rejectedDisk inconsistentObjects) ≠ gritResult .empty := by
  obtain ⟨_, hmisplaced⟩ := openRemote_misplaced
  obtain ⟨_, hinconsistent⟩ := openRemote_inconsistent
  constructor
  · refine (result_after_rejection_iff hmisplaced openRemote_consistent).2 ⟨?_, ?_⟩
    · rintro pair - ⟨⟩
      rfl
    · rintro object etag index ⟨⟩ ⟨⟩ hload
      have hnone : loadIdIndex (rejectedDisk misplacedObjects)
          (idIndexLocation gritCache consistentSession.parsed) 1 "c2" = none := by decide +kernel
      cases hnone.symm.trans hload
  · intro hsame
    obtain ⟨hpair, -⟩ := (result_after_rejection_iff hinconsistent openRemote_consistent).1 hsame
    -- The cached manifest counts two units.
    have hcount := congrArg (fun pair => pair.1.manifest.unitCount) (hpair _ rfl rfl)
    exact absurd hcount (by decide)

/-- **A rejected open poisons the cache.** The manifest of two units is used again. -/
theorem not_result_after_rejection :
    ¬∀ (cache : RemoteArtifactCache) (parser : DatasetParser) (faults : Faults) (disk disk' : Disk)
      (source : Source) (rejectedObjects objects : RemoteObjects) (error : SessionError)
      (session : Session),
      openRemote cache parser faults disk source rejectedObjects = (disk', .rejected error) →
      (openRemote cache parser .none .empty source objects).2 = .validated session →
        (openRemote cache parser .none disk' source objects).2.result =
          (openRemote cache parser .none .empty source objects).2.result := by
  intro h
  obtain ⟨error, hrejected⟩ := openRemote_inconsistent
  have hresult := h _ _ _ _ _ _ _ _ _ _ hrejected openRemote_consistent
  rw [openRemote_consistent] at hresult
  have hok : (gritResult (rejectedDisk inconsistentObjects)).isOk = true := by
    rw [gritResult, hresult]
    rfl
  exact absurd hok (by decide +kernel)

end Pourpoint.RemoteOpen
