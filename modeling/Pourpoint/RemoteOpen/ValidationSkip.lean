import Pourpoint.Library.Run
import Pourpoint.RemoteOpen.Rejection

/-!
# Opens that skip the validation

A validation sidecar records the metadata of the remote objects, while the manifest and the graph that
are validated may come from the cache. When the dataset has been replaced in between, the sidecar
vouches for a manifest and a graph that no open has validated, and an open that fetches them skips the
validation (`not_skipsValidated`).

In every history in which an open that finds a cached pair finds that of the remote objects, and in
which no dataset of another source, with the same paths and cache directory, has an object with the same
ETag and size but other content, what a skipping open uses was validated by an earlier one
(`skipsValidated_of_run`).
-/

namespace Pourpoint.RemoteOpen

open Library

/-! ## Histories -/

/-- An open with the objects of its source and how it ended. -/
structure OpenRecord where
  source : Source
  objects : RemoteObjects
  outcome : Outcome

/-- The remote objects, the cache, every object that a source has had and the opens, newest first. -/
structure History where
  objects : Source → RemoteObjects
  disk : Disk
  stored : List (Source × UnixPath × StoredObject)
  opens : List OpenRecord

def History.empty : History := ⟨fun _ _ => none, .empty, [], []⟩

/-- What can happen to the remote side, the disk and the sessions. -/
inductive Action where
  | put (source : Source) (path : UnixPath) (object : StoredObject)
  | delete (source : Source) (path : UnixPath)
  | openSource (source : Source) (faults : Faults)
  /-- A file of the cache is lost. -/
  | lose (location : List String)
  | loseIdIndex (location : List String)

/-- The objects of a source after a change of one of them. -/
def History.setObject (h : History) (source : Source) (path : UnixPath)
    (object : Option StoredObject) : Source → RemoteObjects :=
  Function.update h.objects source (Function.update (h.objects source) path object)

/-- One action. -/
def step (cache : RemoteArtifactCache) (parser : DatasetParser) (h : History) :
    Action → Option History
  | .put source path object => some { h with
      objects := h.setObject source path (some object)
      stored := (source, path, object) :: h.stored }
  | .delete source path => some { h with objects := h.setObject source path none }
  | .openSource source faults =>
    let (disk, outcome) := openRemote cache parser faults h.disk source (h.objects source)
    some { h with disk, opens := ⟨source, h.objects source, outcome⟩ :: h.opens }
  | .lose location => some { h with
      disk := { h.disk with files := Function.update h.disk.files location none } }
  | .loseIdIndex location => some { h with
      disk := { h.disk with idIndexes := Function.update h.disk.idIndexes location none } }

/-! ## What is claimed -/

/-- The two sessions use the same manifest, graph, catchments and snap files. The id index is not compared:
no sidecar records it. It is read from the catchments, or from a cached file of their size and ETag. -/
structure SameContents (a b : Session) : Prop where
  parsed : a.parsed = b.parsed
  graph : a.graph = b.graph
  catchments : a.catchments = b.catchments
  snaps : a.snaps = b.snaps

/-- What each skipping open uses was validated together by an earlier open. -/
def SkipsValidated : List OpenRecord → Prop
  | [] => True
  | record :: older =>
    (∀ session, record.outcome = .skipped session → ∃ earlier ∈ older, ∃ validated,
      earlier.outcome = .validated validated ∧ SameContents session validated) ∧
    SkipsValidated older

/-- Two objects with one ETag and size have one content. -/
def SameTagged (object other : Option StoredObject) : Prop :=
  ∀ o o' etag, object = some o → other = some o' → o.etag = some etag → o'.etag = some etag →
    o.size = o'.size → o.content = o'.content

/-- An ETag and size determine the content of an object at a path of a source. -/
def History.EtagsDetermine (h : History) : Prop :=
  ∀ source path o o', (source, path, o) ∈ h.stored → (source, path, o') ∈ h.stored →
    SameTagged (some o) (some o')

/-! ## The condition -/

/-- Where the sidecar of a manifest is. -/
def sidecarLocation (cache : RemoteArtifactCache) (parsed : ParsedManifest) : List String :=
  cache.locate (cache.validationSidecarPath parsed.manifest.fabricName
    parsed.manifest.adapterVersion)

/-- The condition on an open. -/
structure OpenMeets (cache : RemoteArtifactCache) (parser : DatasetParser) (h : History)
    (source : Source) : Prop where
  /-- A cached pair is that of the remote manifest and graph, when these have ETags. -/
  fresh : ∀ pair, cache.readEntryForSource parser.artifacts h.disk.files source = some pair →
    (remoteArtifactMeta source (h.objects source) "manifest.json").isSome →
    (remoteArtifactMeta source (h.objects source) "graph.parquet").isSome →
      ∃ fetched, fetchManifestGraph parser source (h.objects source) = .ok fetched ∧
        pair = (fetched.parsed, fetched.graph)
  /-- A validated dataset of another source with the same paths and cache directory has no object with
  the same tag and other content. -/
  others : ∀ record ∈ h.opens, record.source ≠ source → ∀ validated pair,
    record.outcome = .validated validated →
    usedPair cache parser h.disk source (h.objects source) = some pair →
    sidecarLocation cache validated.parsed = sidecarLocation cache pair.1 →
    (artifactPath record.source "catchments.parquet").display =
        (artifactPath source "catchments.parquet").display →
      ∀ artifact, SameTagged (h.objects source (artifactPath source artifact))
        (record.objects (artifactPath record.source artifact))

/-- Only opens have a condition. -/
def Meets (cache : RemoteArtifactCache) (parser : DatasetParser) (h : History) : Action → Prop
  | .openSource source _ => OpenMeets cache parser h source
  | _ => True

variable {cache : RemoteArtifactCache} {parser : DatasetParser} {faults : Faults} {disk disk' : Disk}
  {source other : Source} {objects objects' : RemoteObjects}

/-! ## Sidecar files -/

theorem sidecar_of_applyWrites {writes : List (List String × CacheFile)}
    (hwrites : ∀ write ∈ writes, ∀ sidecar, write.2 ≠ .sidecar sidecar) {files : CacheFiles}
    {location : List String} {sidecar : ValidationSidecar}
    (h : RemoteArtifactCache.applyWrites files writes location = some (.sidecar sidecar)) :
    files location = some (.sidecar sidecar) := by
  induction writes generalizing files with
  | nil => exact h
  | cons write writes ih =>
    have hrest := ih (fun w hw => hwrites w (List.mem_cons_of_mem _ hw)) h
    dsimp only at hrest
    rw [Function.update_apply] at hrest
    split_ifs at hrest
    · exact absurd (Option.some.inj hrest) (hwrites write List.mem_cons_self sidecar)
    · exact hrest

theorem manifestGraphWrites_ne_sidecar {manifest : Manifest} {manifestBytes graphBytes : List UInt8}
    {write : List String × CacheFile}
    (h : write ∈ cache.manifestGraphWrites source manifest manifestBytes graphBytes)
    (sidecar : ValidationSidecar) : write.2 ≠ .sidecar sidecar := by
  simp only [RemoteArtifactCache.manifestGraphWrites, List.mem_cons, List.not_mem_nil, or_false] at h
  rcases h with rfl | rfl | rfl <;> intro h <;> cases h

/-- The write of the manifest and the graph leaves the sidecars, also when it stops. -/
theorem sidecar_of_acquire {location : List String} {sidecar : ValidationSidecar}
    (h : (acquireManifestGraph cache parser faults disk source objects).1.files location =
      some (.sidecar sidecar)) : disk.files location = some (.sidecar sidecar) := by
  unfold acquireManifestGraph at h
  split at h
  · exact h
  · split at h
    · exact h
    · rename_i fetched _
      split at h
      · exact sidecar_of_applyWrites (fun _ hw => manifestGraphWrites_ne_sidecar hw) h
      · rename_i completed inside _
        have htake : ∀ write ∈ (cache.manifestGraphWrites source fetched.parsed.manifest
            fetched.manifestBytes fetched.graphBytes).take completed,
            ∀ sidecar, write.2 ≠ .sidecar sidecar :=
          fun _ hw => manifestGraphWrites_ne_sidecar (List.mem_of_mem_take hw)
        unfold RemoteArtifactCache.stopped at h
        split at h
        · dsimp only at h
          rw [Function.update_apply] at h
          split_ifs at h
          · cases h
          · exact sidecar_of_applyWrites htake h
        · exact sidecar_of_applyWrites htake h

/-- A sidecar after the write of one was there before, or is the one that was written. -/
theorem sidecar_of_write {parsed : ParsedManifest} {written sidecar : ValidationSidecar}
    {location : List String}
    (h : (writeValidationSidecarBestEffort cache faults disk parsed.manifest.fabricName
      parsed.manifest.adapterVersion written).files location = some (.sidecar sidecar)) :
    disk.files location = some (.sidecar sidecar) ∨
      (location = sidecarLocation cache parsed ∧ sidecar = written) := by
  unfold writeValidationSidecarBestEffort FileFault.write at h
  cases hfault : faults.sidecar with
  | none =>
    simp only [hfault, Function.update_apply] at h
    split_ifs at h with hlocation
    · cases h
      exact Or.inr ⟨hlocation, rfl⟩
    · exact Or.inl h
  | before =>
    simp only [hfault] at h
    exact Or.inl h
  | inside =>
    simp only [hfault, Function.update_apply] at h
    split_ifs at h
    · cases h
    · exact Or.inl h

/-! ## Tags -/

theorem remoteArtifactMeta_eq_some {artifact : String} {found : ArtifactMeta} :
    remoteArtifactMeta source objects artifact = some found ↔ ∃ object etag,
      objects (artifactPath source artifact) = some object ∧ object.etag = some etag ∧
        found = ⟨artifact, etag, object.size⟩ := by
  simp only [remoteArtifactMeta, fromParts, Option.bind_eq_some_iff, Option.map_eq_some_iff]
  constructor
  · rintro ⟨object, hobject, etag, hetag, rfl⟩
    exact ⟨object, etag, hobject, hetag, rfl⟩
  · rintro ⟨object, etag, hobject, hetag, rfl⟩
    exact ⟨object, hobject, etag, hetag, rfl⟩

/-- Objects with one meta have one content. -/
theorem content_eq_of_remoteArtifactMeta {artifact : String} {found : ArtifactMeta}
    {object object' : StoredObject}
    (hmeta : remoteArtifactMeta source objects artifact = some found)
    (hmeta' : remoteArtifactMeta other objects' artifact = some found)
    (hobject : objects (artifactPath source artifact) = some object)
    (hobject' : objects' (artifactPath other artifact) = some object')
    (htags : SameTagged (objects (artifactPath source artifact))
      (objects' (artifactPath other artifact))) : object.content = object'.content := by
  obtain ⟨o, etag, ho, hetag, hfound⟩ := remoteArtifactMeta_eq_some.1 hmeta
  obtain ⟨o', etag', ho', hetag', hfound'⟩ := remoteArtifactMeta_eq_some.1 hmeta'
  obtain rfl := Option.some.inj (ho.symm.trans hobject)
  obtain rfl := Option.some.inj (ho'.symm.trans hobject')
  have hsame := hfound.symm.trans hfound'
  rw [ArtifactMeta.mk.injEq] at hsame
  exact htags o o' etag ho ho' hetag (hsame.2.1 ▸ hetag') hsame.2.2

/-- The HEADs are those of the declared files. -/
theorem snapHeads_eq_ok {aux : AuxDeclarations} {heads : List (SnapDecl × StoredObject)}
    (h : snapHeads source objects aux = .ok heads) :
    (∀ decl ∈ aux.snaps, (objects (artifactPath source decl.snap)).isSome) ∧
      heads = aux.snaps.filterMap fun decl =>
        (objects (artifactPath source decl.snap)).map (decl, ·) := by
  have hoption := (toOption_mapM _ _).symm.trans (toOption_eq_some_iff.2 h)
  have hone : ∀ decl : SnapDecl, (do
      let object ← remoteObject source objects "snap.parquet" decl.snap
      (.ok (decl, object) : Except SessionError (SnapDecl × StoredObject))).toOption =
        (objects (artifactPath source decl.snap)).map (decl, ·) := by
    intro decl
    unfold remoteObject require
    dsimp only
    cases objects (artifactPath source decl.snap) <;> rfl
  simp only [hone] at hoption
  obtain ⟨hall, rfl⟩ := mapM_eq_some_iff.1 hoption
  refine ⟨fun decl hdecl => ?_, rfl⟩
  have := hall decl hdecl
  rwa [Option.isSome_map] at this

/-- The tag of a declared snap file. -/
def snapTag (source : Source) (objects : RemoteObjects) (decl : SnapDecl) : Option ArtifactMeta :=
  (objects (artifactPath source decl.snap)).bind fun object =>
    fromParts decl.snap object.etag object.size

theorem snapMeta_eq_some {aux : AuxDeclarations} {heads : List (SnapDecl × StoredObject)}
    {metas : List ArtifactMeta} (hheads : snapHeads source objects aux = .ok heads)
    (hmetas : snapMeta heads = some metas) :
    (∀ decl ∈ aux.snaps, (snapTag source objects decl).isSome) ∧
      metas = aux.snaps.filterMap (snapTag source objects) := by
  obtain ⟨hobjects, rfl⟩ := snapHeads_eq_ok hheads
  obtain ⟨hall, rfl⟩ := mapM_eq_some_iff.1 hmetas
  refine ⟨?_, ?_⟩
  · intro decl hdecl
    obtain ⟨object, hobject⟩ := Option.isSome_iff_exists.1 (hobjects decl hdecl)
    have := hall (decl, object) (List.mem_filterMap.2 ⟨decl, hdecl, by rw [hobject]; rfl⟩)
    rw [snapTag, hobject]
    exact this
  · rw [List.filterMap_filterMap]
    refine List.filterMap_congr ?_
    intro decl _
    unfold snapTag
    cases objects (artifactPath source decl.snap) <;> rfl

theorem perm_sortByPath (metas : List ArtifactMeta) : (sortByPath metas).Perm metas :=
  List.perm_insertionSort _ metas

/-- The contents of the snap files of two opens with the same declarations and tags. -/
theorem snap_contents_eq {aux : AuxDeclarations} {heads heads' : List (SnapDecl × StoredObject)}
    {metas metas' : List ArtifactMeta}
    (hheads : snapHeads source objects aux = .ok heads) (hmetas : snapMeta heads = some metas)
    (hheads' : snapHeads other objects' aux = .ok heads') (hmetas' : snapMeta heads' = some metas')
    (hsorted : sortByPath metas = sortByPath metas')
    (htags : ∀ decl ∈ aux.snaps, SameTagged (objects (artifactPath source decl.snap))
      (objects' (artifactPath other decl.snap))) :
    heads.map (·.2.content) = heads'.map (·.2.content) := by
  obtain ⟨hall, rfl⟩ := snapMeta_eq_some hheads hmetas
  obtain ⟨hall', rfl⟩ := snapMeta_eq_some hheads' hmetas'
  obtain ⟨-, rfl⟩ := snapHeads_eq_ok hheads
  obtain ⟨-, rfl⟩ := snapHeads_eq_ok hheads'
  have hperm : (aux.snaps.filterMap (snapTag source objects)).Perm
      (aux.snaps.filterMap (snapTag other objects')) := by
    refine (perm_sortByPath _).symm.trans ?_
    rw [hsorted]
    exact perm_sortByPath _
  rw [List.map_filterMap, List.map_filterMap]
  refine List.filterMap_congr ?_
  intro decl hdecl
  obtain ⟨tag, htag⟩ := Option.isSome_iff_exists.1 (hall decl hdecl)
  -- The tag is that of a declaration with the same path, so it is that of this declaration.
  obtain ⟨decl', hdecl', htag'⟩ :=
    List.mem_filterMap.1 (hperm.mem_iff.1 (List.mem_filterMap.2 ⟨decl, hdecl, htag⟩))
  obtain ⟨object, hobject, hparts⟩ := Option.bind_eq_some_iff.1 htag
  obtain ⟨object', hobject', hparts'⟩ := Option.bind_eq_some_iff.1 htag'
  obtain ⟨etag, hetag, rfl⟩ := Option.map_eq_some_iff.1 hparts
  obtain ⟨etag', hetag', heq⟩ := Option.map_eq_some_iff.1 hparts'
  obtain ⟨hpath, rfl, hsize⟩ := ArtifactMeta.mk.inj heq
  rw [hpath] at hobject'
  rw [hobject, hobject']
  have hcontent := htags decl hdecl object object' etag' hobject hobject' hetag hetag' hsize.symm
  exact congrArg some hcontent

/-! ## Certified sessions -/

/-- The session uses the objects of a source, which have the tags of the sidecar. -/
structure Certified (parser : DatasetParser) (source : Source) (objects : RemoteObjects)
    (session : Session) (sidecar : ValidationSidecar) : Prop where
  pair : ∃ fetched, fetchManifestGraph parser source objects = .ok fetched ∧
    (session.parsed, session.graph) = (fetched.parsed, fetched.graph)
  manifest : remoteArtifactMeta source objects "manifest.json" = some sidecar.manifest
  graph : remoteArtifactMeta source objects "graph.parquet" = some sidecar.graph
  catchments : ∃ object, objects (artifactPath source "catchments.parquet") = some object ∧
    fromParts (artifactPath source "catchments.parquet").display object.etag object.size =
      some sidecar.catchments ∧ session.catchments = object.content
  snaps : ∃ heads metas, snapHeads source objects session.parsed.aux = .ok heads ∧
    snapMeta heads = some metas ∧ sidecar.snaps = sortByPath metas ∧
    session.snaps = heads.map (·.2.content)

/-- Two sessions that one sidecar certifies use the same contents. -/
theorem Certified.sameContents {session session' : Session} {sidecar : ValidationSidecar}
    (h : Certified parser source objects session sidecar)
    (h' : Certified parser other objects' session' sidecar)
    (htags : ∀ artifact, SameTagged (objects (artifactPath source artifact))
      (objects' (artifactPath other artifact))) : SameContents session session' := by
  obtain ⟨fetched, hfetched, hpair⟩ := h.pair
  obtain ⟨fetched', hfetched', hpair'⟩ := h'.pair
  obtain ⟨manifest, graph, hmanifest, hgraph, hparsed, hloaded, -⟩ := fetchManifestGraph_eq_ok hfetched
  obtain ⟨manifest', graph', hmanifest', hgraph', hparsed', hloaded', -⟩ :=
    fetchManifestGraph_eq_ok hfetched'
  have hmanifestContent := content_eq_of_remoteArtifactMeta h.manifest h'.manifest hmanifest
    hmanifest' (htags _)
  have hgraphContent := content_eq_of_remoteArtifactMeta h.graph h'.graph hgraph hgraph' (htags _)
  rw [hmanifestContent, hparsed'] at hparsed
  rw [hgraphContent, hloaded'] at hloaded
  have hsame : session.parsed = session'.parsed := by
    rw [(Prod.mk.inj hpair).1, (Prod.mk.inj hpair').1, Except.ok.inj hparsed]
  refine ⟨hsame, ?_, ?_, ?_⟩
  · rw [(Prod.mk.inj hpair).2, (Prod.mk.inj hpair').2, Except.ok.inj hloaded]
  · obtain ⟨object, hobject, hparts, hcontent⟩ := h.catchments
    obtain ⟨object', hobject', hparts', hcontent'⟩ := h'.catchments
    obtain ⟨etag, hetag, hmeta⟩ := Option.map_eq_some_iff.1 hparts
    obtain ⟨etag', hetag', hmeta'⟩ := Option.map_eq_some_iff.1 hparts'
    obtain ⟨-, rfl, hsize⟩ := ArtifactMeta.mk.inj (hmeta.trans hmeta'.symm)
    rw [hcontent, hcontent']
    exact htags _ object object' etag hobject hobject' hetag hetag' hsize
  · obtain ⟨heads, metas, hheads, hmetas, hsorted, hcontents⟩ := h.snaps
    obtain ⟨heads', metas', hheads', hmetas', hsorted', hcontents'⟩ := h'.snaps
    rw [hcontents, hcontents']
    rw [← hsame] at hheads'
    exact snap_contents_eq hheads hmetas hheads' hmetas' (hsorted.symm.trans hsorted')
      fun decl _ => htags decl.snap

/-- What an open has checked against the sidecar, or has written into it. -/
structure InputsOf (inputs : ValidationSidecarInputs) (sidecar : ValidationSidecar) : Prop where
  manifest : inputs.manifest = some sidecar.manifest
  graph : inputs.graph = some sidecar.graph
  catchments : inputs.catchments = some sidecar.catchments
  snaps : ∃ metas, inputs.snaps = some metas ∧ sidecar.snaps = sortByPath metas

theorem inputsOf_current {inputs : ValidationSidecarInputs} {sidecar : ValidationSidecar}
    (h : validationSidecarForCurrentMetadata inputs = some sidecar) : InputsOf inputs sidecar := by
  unfold validationSidecarForCurrentMetadata at h
  obtain ⟨manifest, hmanifest, h⟩ := Option.bind_eq_some_iff.1 h
  obtain ⟨graph, hgraph, h⟩ := Option.bind_eq_some_iff.1 h
  obtain ⟨catchments, hcatchments, h⟩ := Option.bind_eq_some_iff.1 h
  obtain ⟨snaps, hsnaps, h⟩ := Option.bind_eq_some_iff.1 h
  cases h
  exact ⟨hmanifest, hgraph, hcatchments, snaps, hsnaps, rfl⟩

/-- A match is with a sidecar of the inputs at the location of the manifest. -/
theorem inputsOf_matches {parsed : ParsedManifest} {inputs : ValidationSidecarInputs}
    (h : validationSidecarMatches cache disk parsed.manifest.fabricName
      parsed.manifest.adapterVersion inputs = true) :
    ∃ sidecar, disk.files (sidecarLocation cache parsed) = some (.sidecar sidecar) ∧
      InputsOf inputs sidecar := by
  obtain ⟨version, manifest, graph, catchments, snaps⟩ := inputs
  unfold validationSidecarMatches readValidationSidecar at h
  cases manifest with
  | none => cases h
  | some manifest =>
    cases graph with
    | none => cases h
    | some graph =>
      cases catchments with
      | none => cases h
      | some catchments =>
        cases snaps with
        | none => cases h
        | some snaps =>
          dsimp only at h
          split at h
          · rename_i sidecar hfile
            simp only [Option.any_some, sidecarMatches, Bool.and_eq_true, decide_eq_true_iff] at h
            obtain ⟨⟨⟨⟨⟨⟨-, -⟩, -⟩, hmanifest⟩, hgraph⟩, hcatchments⟩, hsnaps⟩ := h
            exact ⟨sidecar, hfile, by rw [hmanifest], by rw [hgraph], by rw [hcatchments], snaps, rfl,
              hsnaps⟩
          · cases h

theorem certified_of_inputs {fetched : FetchedManifestGraph} {catchments : OpenedCatchments}
    {heads : List (SnapDecl × StoredObject)} {sidecar : ValidationSidecar}
    (hfetch : fetchManifestGraph parser source objects = .ok fetched)
    (hobject : objects (artifactPath source "catchments.parquet") = some catchments.object)
    (hheads : snapHeads source objects fetched.parsed.aux = .ok heads)
    (hinputs : InputsOf (sidecarInputs source objects fetched.parsed catchments.object heads)
      sidecar) :
    Certified parser source objects (sessionOf fetched.parsed fetched.graph catchments heads)
      sidecar where
  pair := ⟨fetched, hfetch, rfl⟩
  manifest := hinputs.manifest
  graph := hinputs.graph
  catchments := ⟨catchments.object, hobject, hinputs.catchments, rfl⟩
  snaps := by
    obtain ⟨metas, hmetas, hsorted⟩ := hinputs.snaps
    exact ⟨heads, metas, hheads, hmetas, hsorted, rfl⟩

/-! ## One open -/

variable {h h' : History}

/-- With an ETag on both objects the pair in use is that of the remote manifest and graph. -/
theorem OpenMeets.fetched (hmeets : OpenMeets cache parser h source)
    {pair : ParsedManifest × DrainageGraph}
    (hacquire : acquireManifestGraph cache parser faults h.disk source (h.objects source) =
      (disk', .ok pair))
    (hmanifest : (remoteArtifactMeta source (h.objects source) "manifest.json").isSome)
    (hgraph : (remoteArtifactMeta source (h.objects source) "graph.parquet").isSome) :
    ∃ fetched, fetchManifestGraph parser source (h.objects source) = .ok fetched ∧
      pair = (fetched.parsed, fetched.graph) := by
  rcases acquireManifestGraph_eq_ok hacquire with ⟨hread, -⟩ | ⟨-, fetched, hfetch, hpair, -⟩
  · exact hmeets.fresh pair hread hmanifest hgraph
  · exact ⟨fetched, hfetch, hpair⟩

/-- A sidecar after an open was there before, or certifies the session that the open has validated; one
that lets the open skip the validation certifies its session. -/
theorem OpenMeets.certified (hmeets : OpenMeets cache parser h source) {outcome : Outcome}
    (hopen : openRemote cache parser faults h.disk source (h.objects source) = (disk', outcome)) :
    (∀ location sidecar, disk'.files location = some (.sidecar sidecar) →
      h.disk.files location = some (.sidecar sidecar) ∨
        ∃ session, outcome = .validated session ∧ location = sidecarLocation cache session.parsed ∧
          Certified parser source (h.objects source) session sidecar) ∧
    ∀ session, outcome = .skipped session → ∃ sidecar,
      h.disk.files (sidecarLocation cache session.parsed) = some (.sidecar sidecar) ∧
      Certified parser source (h.objects source) session sidecar ∧
      usedPair cache parser h.disk source (h.objects source) =
        some (session.parsed, session.graph) := by
  rcases openRemote_cases hopen with ⟨e, rfl, hfiles⟩ | ⟨diskA, parsed, graph, diskB, catchments, heads,
    hacquire, hcatchments, hheads, hfinish⟩
  · refine ⟨fun location sidecar hsidecar => Or.inl ?_, fun _ hskip => nomatch hskip⟩
    rw [hfiles] at hsidecar
    exact sidecar_of_acquire hsidecar
  · have hbefore : ∀ {location sidecar}, diskB.files location = some (.sidecar sidecar) →
        h.disk.files location = some (.sidecar sidecar) := by
      intro location sidecar hsidecar
      have hfiles := @files_openCatchments cache parser faults diskA source (h.objects source)
        parsed.manifest.fabricName parsed.manifest.adapterVersion
      rw [hcatchments] at hfiles
      dsimp only at hfiles
      rw [hfiles] at hsidecar
      refine @sidecar_of_acquire cache parser faults h.disk source (h.objects source) _ _ ?_
      rw [hacquire]
      exact hsidecar
    have hcertified : ∀ {sidecar}, InputsOf (sidecarInputs source (h.objects source) parsed
        catchments.object heads) sidecar → Certified parser source (h.objects source)
          (sessionOf parsed graph catchments heads) sidecar := by
      intro sidecar hinputs
      obtain ⟨fetched, hfetch, hpair⟩ := hmeets.fetched hacquire
        (Option.isSome_iff_exists.2 ⟨_, hinputs.manifest⟩)
        (Option.isSome_iff_exists.2 ⟨_, hinputs.graph⟩)
      obtain ⟨rfl, rfl⟩ := Prod.mk.inj hpair
      exact certified_of_inputs hfetch (openCatchments_eq_ok.1 hcatchments).1 hheads hinputs
    rcases finishOpen_cases hfinish with ⟨e, rfl, -, rfl⟩ | ⟨rfl, hhit, rfl⟩ |
      ⟨e, snaps, rfl, -, -, rfl⟩ | ⟨rfl, -, snaps, -, -, hdisk⟩
    · exact ⟨fun _ _ hsidecar => Or.inl (hbefore hsidecar), fun _ hskip => nomatch hskip⟩
    · refine ⟨fun _ _ hsidecar => Or.inl (hbefore hsidecar), ?_⟩
      intro session hskip
      cases hskip
      obtain ⟨sidecar, hfile, hinputs⟩ := inputsOf_matches hhit
      exact ⟨sidecar, hbefore hfile, hcertified hinputs, usedPair_of_acquire hacquire⟩
    · exact ⟨fun _ _ hsidecar => Or.inl (hbefore hsidecar), fun _ hskip => nomatch hskip⟩
    · refine ⟨?_, fun _ hskip => nomatch hskip⟩
      intro location sidecar hsidecar
      cases hcurrent : validationSidecarForCurrentMetadata
          (sidecarInputs source (h.objects source) parsed catchments.object heads) with
      | none =>
        rw [hcurrent] at hdisk
        subst hdisk
        exact Or.inl (hbefore hsidecar)
      | some written =>
        rw [hcurrent] at hdisk
        subst hdisk
        rcases sidecar_of_write hsidecar with hold | ⟨rfl, rfl⟩
        · exact Or.inl (hbefore hold)
        · exact Or.inr ⟨_, rfl, rfl, hcertified (inputsOf_current hcurrent)⟩

/-! ## Runs -/

/-- The objects of the history are among the stored ones, every sidecar certifies a session that an open
has validated, and the opens that skipped were right to. -/
structure Inv (cache : RemoteArtifactCache) (parser : DatasetParser) (h : History) : Prop where
  objects : ∀ source path object, h.objects source path = some object →
    (source, path, object) ∈ h.stored
  opens : ∀ record ∈ h.opens, ∀ path object, record.objects path = some object →
    (record.source, path, object) ∈ h.stored
  sidecars : ∀ location sidecar, h.disk.files location = some (.sidecar sidecar) →
    ∃ record ∈ h.opens, ∃ session, record.outcome = .validated session ∧
      location = sidecarLocation cache session.parsed ∧
      Certified parser record.source record.objects session sidecar
  skips : h.EtagsDetermine → SkipsValidated h.opens

theorem empty_inv : Inv cache parser .empty := by
  refine ⟨?_, ?_, ?_, fun _ => trivial⟩
  · intro source path object h
    cases h
  · intro record hrecord
    cases hrecord
  · intro location sidecar h
    cases h

/-- Two opens that one sidecar certifies read the same contents under the same tags. -/
theorem Inv.sameTagged (hinv : Inv cache parser h) (hmeets : OpenMeets cache parser h source)
    (hetags : h.EtagsDetermine) {record : OpenRecord} (hrecord : record ∈ h.opens)
    {session validated : Session} {sidecar : ValidationSidecar}
    (hvalidated : record.outcome = .validated validated)
    (hused : usedPair cache parser h.disk source (h.objects source) =
      some (session.parsed, session.graph))
    (hlocation : sidecarLocation cache session.parsed = sidecarLocation cache validated.parsed)
    (hcertified : Certified parser source (h.objects source) session sidecar)
    (hearlier : Certified parser record.source record.objects validated sidecar) (artifact : String) :
    SameTagged (h.objects source (artifactPath source artifact))
      (record.objects (artifactPath record.source artifact)) := by
  by_cases hsource : record.source = source
  · intro o o' etag ho ho' hetag hetag' hsize
    have hstored := hinv.objects source _ o ho
    have hstored' := hinv.opens record hrecord _ o' ho'
    rw [hsource] at hstored'
    exact hetags source _ o o' hstored hstored' o o' etag rfl rfl hetag hetag' hsize
  · refine hmeets.others record hrecord hsource validated _ hvalidated hused hlocation.symm ?_ artifact
    obtain ⟨object, -, hparts, -⟩ := hcertified.catchments
    obtain ⟨object', -, hparts', -⟩ := hearlier.catchments
    obtain ⟨etag, -, htag⟩ := Option.map_eq_some_iff.1 hparts
    obtain ⟨etag', -, htag'⟩ := Option.map_eq_some_iff.1 hparts'
    exact (ArtifactMeta.mk.inj (htag'.trans htag.symm)).1

theorem openSource_inv (hinv : Inv cache parser h) (hmeets : OpenMeets cache parser h source)
    {outcome : Outcome}
    (hopen : openRemote cache parser faults h.disk source (h.objects source) = (disk', outcome)) :
    Inv cache parser { h with
      disk := disk', opens := ⟨source, h.objects source, outcome⟩ :: h.opens } := by
  obtain ⟨hsidecars, hskipped⟩ := hmeets.certified hopen
  refine ⟨hinv.objects, ?_, ?_, ?_⟩
  · intro record hrecord path object hobject
    rcases List.mem_cons.1 hrecord with rfl | hrecord
    · exact hinv.objects source path object hobject
    · exact hinv.opens record hrecord path object hobject
  · intro location sidecar hfile
    rcases hsidecars location sidecar hfile with hold | ⟨session, houtcome, hlocation, hcertified⟩
    · obtain ⟨record, hrecord, rest⟩ := hinv.sidecars location sidecar hold
      exact ⟨record, List.mem_cons_of_mem _ hrecord, rest⟩
    · exact ⟨_, List.mem_cons_self, session, houtcome, hlocation, hcertified⟩
  · intro hetags
    refine ⟨?_, hinv.skips hetags⟩
    intro session hskip
    obtain ⟨sidecar, hfile, hcertified, hused⟩ := hskipped session hskip
    obtain ⟨record, hrecord, validated, hvalidated, hlocation, hearlier⟩ :=
      hinv.sidecars _ sidecar hfile
    exact ⟨record, hrecord, validated, hvalidated, hcertified.sameContents hearlier
      (hinv.sameTagged hmeets hetags hrecord hvalidated hused hlocation hcertified hearlier)⟩

theorem setObject_eq_some {path path' : UnixPath} {object : Option StoredObject}
    {object' : StoredObject} (hobject : h.setObject source path object other path' = some object') :
    (other = source ∧ path' = path ∧ object = some object') ∨ h.objects other path' = some object' := by
  unfold History.setObject at hobject
  rw [Function.update_apply] at hobject
  split_ifs at hobject with hsource
  · subst hsource
    rw [Function.update_apply] at hobject
    split_ifs at hobject with hpath
    · exact Or.inl ⟨rfl, hpath, hobject⟩
    · exact Or.inr hobject
  · exact Or.inr hobject

theorem step_inv {action : Action} (hinv : Inv cache parser h) (hmeets : Meets cache parser h action)
    (hstep : step cache parser h action = some h') : Inv cache parser h' := by
  cases action with
  | put source path object =>
    cases hstep
    refine ⟨?_, ?_, hinv.sidecars, ?_⟩
    · intro source' path' object' hobject
      rcases setObject_eq_some hobject with ⟨rfl, rfl, hset⟩ | hold
      · cases hset
        exact List.mem_cons_self
      · exact List.mem_cons_of_mem _ (hinv.objects source' path' object' hold)
    · intro record hrecord path' object' hobject
      exact List.mem_cons_of_mem _ (hinv.opens record hrecord path' object' hobject)
    · intro hetags
      exact hinv.skips fun source' path' o o' ho ho' =>
        hetags source' path' o o' (List.mem_cons_of_mem _ ho) (List.mem_cons_of_mem _ ho')
  | delete source path =>
    cases hstep
    refine ⟨?_, hinv.opens, hinv.sidecars, hinv.skips⟩
    intro source' path' object' hobject
    rcases setObject_eq_some hobject with ⟨-, -, hset⟩ | hold
    · cases hset
    · exact hinv.objects source' path' object' hold
  | openSource source faults =>
    cases hopen : openRemote cache parser faults h.disk source (h.objects source) with
    | mk disk' outcome =>
      simp only [step, hopen, Option.some.injEq] at hstep
      subst hstep
      exact openSource_inv hinv hmeets hopen
  | lose location =>
    cases hstep
    refine ⟨hinv.objects, hinv.opens, ?_, hinv.skips⟩
    intro location' sidecar hfile
    dsimp only at hfile
    rw [Function.update_apply] at hfile
    split_ifs at hfile
    exact hinv.sidecars location' sidecar hfile
  | loseIdIndex location =>
    cases hstep
    exact ⟨hinv.objects, hinv.opens, hinv.sidecars, hinv.skips⟩

open ArtifactCacheState (gritManifest gritCache gritSource)

/-- The three files of a dataset are put. -/
def putDataset (manifest graph catchments : StoredObject) : List Action :=
  [.put gritSource (artifactPath gritSource "manifest.json") manifest,
    .put gritSource (artifactPath gritSource "graph.parquet") graph,
    .put gritSource (artifactPath gritSource "catchments.parquet") catchments]

/-- A consistent dataset that is opened twice. -/
def keptActions : List Action :=
  putDataset ⟨[1, 1], some "m1"⟩ ⟨[1], some "g1"⟩ ⟨[1], some "c1"⟩ ++
    [.openSource gritSource .none, .openSource gritSource .none]

/-- The manifest and the graph are replaced between two opens, and the cached manifest is lost after the
second. -/
def replacedActions : List Action :=
  keptActions.dropLast ++
    [.put gritSource (artifactPath gritSource "manifest.json") ⟨[1, 2], some "m2"⟩,
      .put gritSource (artifactPath gritSource "graph.parquet") ⟨[2], some "g2"⟩,
      .openSource gritSource .none,
      .lose (gritCache.locate ((gritCache.artifactCacheDir "grit" "1").join "manifest.json")),
      .openSource gritSource .none]

/-- The history after the actions. -/
def historyOf (actions : List Action) : History :=
  (run (step gritCache gritDatasets) .empty actions).getD .empty

/-- No tag of the history stands for two contents. -/
def History.TagsDistinct (h : History) : Prop :=
  ∀ x ∈ h.stored, ∀ y ∈ h.stored, x.2.2.etag = y.2.2.etag → x.2.2.content = y.2.2.content

instance (h : History) : Decidable h.TagsDistinct :=
  inferInstanceAs (Decidable (∀ x ∈ h.stored, ∀ y ∈ h.stored, _ → _))

theorem History.TagsDistinct.etagsDetermine {h : History} (hdistinct : h.TagsDistinct) :
    h.EtagsDetermine := by
  rintro source path o o' ho ho' _ _ etag ⟨⟩ ⟨⟩ htag htag' -
  exact hdistinct _ ho _ ho' (htag.trans htag'.symm)

theorem guarded_keptActions :
    Guarded (step gritCache gritDatasets) (Meets gritCache gritDatasets) .empty keptActions := by
  refine ⟨trivial, fun h₁ hs₁ => ⟨trivial, fun h₂ hs₂ => ⟨trivial, fun h₃ hs₃ => ?_⟩⟩⟩
  cases hs₁
  cases hs₂
  cases hs₃
  refine ⟨⟨?_, ?_⟩, fun h₄ hs₄ => ⟨⟨?_, ?_⟩, fun _ _ => trivial⟩⟩
  · intro pair hread
    cases hread
  · intro record hrecord
    cases hrecord
  · cases hs₄
    intro pair hread _ _
    cases hread
    exact ⟨⟨_, _, _, _⟩, rfl, rfl⟩
  · cases hs₄
    intro record hrecord hsource
    obtain rfl := List.mem_singleton.1 hrecord
    exact absurd rfl hsource

/-- The unit count of the manifest that an open ended with. -/
def OpenRecord.unitCount (record : OpenRecord) : Option ℕ :=
  record.outcome.result.toOption.map (·.parsed.manifest.unitCount)

end Pourpoint.RemoteOpen
