import Pourpoint.ArtifactCache
import Pourpoint.RasterCache

/-!
# Where cache and artifact paths can point

The caches join the fabric name and the adapter version of a manifest to the cache root as they are.
An accepted manifest may name an absolute path or climb with `..`, and then every file that is cached
for it is outside the cache root. The auxiliary paths of a dataset are checked before they are used, and
those that pass lie under the dataset root.

`cachePaths_confined_iff` says which names keep the cache paths inside.
-/

namespace Pourpoint

/-- Every path that the caches build for a manifest lies under the cache root, wherever that is. -/
def CachePathsConfined (manifest : Manifest) : Prop :=
  ∀ (workingDir : List String) (rootText : String),
    let cache : RemoteArtifactCache := ⟨workingDir, UnixPath.ofString rootText⟩
    (cache.artifactCacheDir manifest.fabricName manifest.adapterVersion).Under workingDir cache.root ∧
    (cache.idIndexPath manifest.fabricName manifest.adapterVersion "catchments.parquet").Under
      workingDir cache.root ∧
    (cache.validationSidecarPath manifest.fabricName manifest.adapterVersion).Under workingDir
      cache.root ∧
    ∀ (remotePath : String) (kind : RasterKind) (window : RasterPixelWindow),
      (canonicalWindowPath cache.root remotePath kind window.cacheFragment manifest.fabricName
        manifest.adapterVersion).Under workingDir cache.root

/-- Every auxiliary path that passes its check lies under the dataset root. -/
def AuxPathsConfined (aux : AuxDeclarations) : Prop :=
  (∀ (pathExists : UnixPath → Bool) (root : UnixPath) (workingDir : List String),
    validateLocalAuxPaths pathExists root aux = .ok () → ∀ entry ∈ aux.checkedArtifacts,
      (root.join entry.2.2).Under workingDir root) ∧
  (validateRemoteAuxPaths aux = .ok () → ∀ entry ∈ aux.checkedArtifacts,
    ∀ (root : UnixPath) (workingDir : List String),
      (remoteArtifactPath root entry.2.2).Under workingDir root)

/-- Both names are relative, and read one after the other they have at no point more `..` than names
before it. -/
def NamesStayInside (fabricName adapterVersion : String) : Prop :=
  (UnixPath.ofString fabricName).absolute = false ∧
    (UnixPath.ofString adapterVersion).absolute = false ∧
    climbs 0 (pathSegments fabricName ++ pathSegments adapterVersion) = false

/-! ## Names of cache files -/

theorem plainName_windowFileName (kind : RasterKind) (remotePath : String)
    (window : RasterPixelWindow) : PlainName (windowFileName kind remotePath window.cacheFragment) := by
  have hdigits : ∀ n : ℕ, '/' ∉ (toString n).toList := by
    intro n h
    rw [show toString n = Nat.repr n from rfl, Nat.toList_repr] at h
    exact absurd (Nat.isDigit_of_mem_toDigits (by decide) (by decide) h) (by decide)
  have hkind : '/' ∉ kind.cacheName.toList ∧ 3 ≤ kind.cacheName.toList.length := by
    cases kind <;> decide
  have hlength : ∀ text : String, text.toList.length < 3 →
      windowFileName kind remotePath window.cacheFragment ≠ text := by
    rintro _ hlt rfl
    simp only [windowFileName, String.toList_append, List.length_append] at hlt
    omega
  refine ⟨hlength _ (by decide), hlength _ (by decide), hlength _ (by decide), ?_⟩
  simp only [windowFileName, RasterPixelWindow.cacheFragment, String.toList_append,
    List.mem_append, not_or]
  simp only [hkind.1, hdigits, not_false_eq_true, true_and, and_true]
  decide

/-! ## Paths that stay -/

section Stay

variable {fabricName adapterVersion : String} {workingDir : List String} {root : UnixPath}

theorem join_of_relative {path : UnixPath} {text : String}
    (h : (UnixPath.ofString text).absolute = false) :
    path.join text = ⟨path.absolute, path.parts ++ pathSegments text⟩ := by
  rw [UnixPath.join, if_neg (by simp [h])]

theorem under_artifactCacheDir (h : NamesStayInside fabricName adapterVersion) :
    ((root.join fabricName).join adapterVersion).Under workingDir root := by
  rw [join_of_relative h.2.1, join_of_relative h.1, List.append_assoc]
  exact UnixPath.under_append h.2.2

theorem cachePathsConfined_of_namesStayInside {manifest : Manifest}
    (h : NamesStayInside manifest.fabricName manifest.adapterVersion) :
    CachePathsConfined manifest := by
  intro workingDir rootText cache
  have hdir : ((cache.root.join manifest.fabricName).join manifest.adapterVersion).Under workingDir
      cache.root := under_artifactCacheDir h
  have hcatchments : PlainName "catchments.parquet" := ⟨by decide, by decide, by decide, by decide⟩
  have hindex : PlainName "catchments.idindex.arrow" := ⟨by decide, by decide, by decide, by decide⟩
  have hsidecar : PlainName "validated.json" := ⟨by decide, by decide, by decide, by decide⟩
  have hwindows : PlainName "raster-windows" := ⟨by decide, by decide, by decide, by decide⟩
  refine ⟨hdir, ?_, hdir.join_plain hsidecar, ?_⟩
  · have hpath := hdir.join_plain hindex
    rw [UnixPath.join_plain hindex] at hpath
    unfold RemoteArtifactCache.idIndexPath RemoteArtifactCache.artifactCacheDir
    rw [UnixPath.withExtension_join_plain hcatchments]
    exact hpath
  · intro remotePath kind window
    exact (hdir.join_plain hwindows).join_plain (plainName_windowFileName kind remotePath window)

/-! ## Names that leave -/

/-- A root with a name that the components do not have is left by names that do not stay. -/
theorem not_under_artifactCacheDir {name : String} (hplain : PlainName name)
    (hname : name ∉ pathSegments fabricName ++ pathSegments adapterVersion)
    (h : ¬NamesStayInside fabricName adapterVersion) :
    ¬(((UnixPath.ofString name).join fabricName).join adapterVersion).Under []
      (UnixPath.ofString name) := by
  have hroot : UnixPath.ofString name = ⟨false, [name]⟩ := by
    simp [UnixPath.ofString, hplain.segments_eq, hplain.head_ne]
  have hresolve : (UnixPath.ofString name).resolve [] = [name] := by
    rw [hroot]
    show resolvePart [] name = [name]
    rw [resolvePart, if_neg hplain.ne_dots]
    rfl
  suffices hgone : name ∉ (((UnixPath.ofString name).join fabricName).join adapterVersion).resolve [] by
    intro hunder
    unfold UnixPath.Under at hunder
    rw [hresolve] at hunder
    exact hgone (hunder.subset (List.mem_singleton_self name))
  rw [List.mem_append, not_or] at hname
  cases hadapter : (UnixPath.ofString adapterVersion).absolute with
  | true =>
    rw [UnixPath.join, if_pos hadapter, UnixPath.resolve, if_pos hadapter]
    exact notMem_resolveParts List.not_mem_nil hname.2
  | false =>
    rw [join_of_relative hadapter]
    cases hfabric : (UnixPath.ofString fabricName).absolute with
    | true =>
      rw [UnixPath.join, if_pos hfabric, UnixPath.resolve, if_pos hfabric]
      apply notMem_resolveParts List.not_mem_nil
      rw [List.mem_append, not_or]
      exact hname
    | false =>
      have hclimbs : climbs 0 (pathSegments fabricName ++ pathSegments adapterVersion) = true := by
        by_contra hstay
        exact h ⟨hfabric, hadapter, Bool.eq_false_of_not_eq_true hstay⟩
      rw [join_of_relative hfabric, hroot]
      show name ∉ resolveParts (resolvePart [] name)
        (pathSegments fabricName ++ pathSegments adapterVersion)
      rw [resolvePart, if_neg hplain.ne_dots]
      have hinner : climbs ([] : List String).length
          (pathSegments fabricName ++ pathSegments adapterVersion) = true := hclimbs
      apply notMem_resolveParts_of_climbs List.not_mem_nil _ hinner
      rw [List.mem_append, not_or]
      exact hname

end Stay

/-! ## Auxiliary paths -/

theorem auxPathsConfined (aux : AuxDeclarations) : AuxPathsConfined aux := by
  constructor
  · intro pathExists root workingDir h entry hentry
    have hcheck : validateLocalAuxArtifact pathExists root entry.1 entry.2.1 entry.2.2 = .ok () :=
      forM_eq_ok h hentry
    obtain ⟨⟨⟩, hescape, -⟩ := bind_eq_ok hcheck
    exact under_of_not_escapes (Bool.eq_false_of_not_eq_true (failWhen_eq_ok hescape))
  · intro h entry hentry root workingDir
    have hcheck : validateRemoteAuxArtifact entry.1 entry.2.1 entry.2.2 = .ok () :=
      forM_eq_ok h hentry
    have hescape := Bool.eq_false_of_not_eq_true (failWhen_eq_ok hcheck)
    exact UnixPath.under_append (climbs_of_no_dots (no_dots_of_not_escapes hescape).2 0)

/-- **Which manifests stay in the cache.** For every accepted manifest, the auxiliary paths that pass
their checks lie under the dataset root; the cache paths all lie under the cache root exactly when the
names are relative and never climb. -/
theorem cachePaths_confined_iff {hfx : Hfx} {raw : RawManifest} {parsed : ParsedManifest}
    (h : buildManifest hfx raw = .ok parsed) :
    (CachePathsConfined parsed.manifest ∧ AuxPathsConfined parsed.aux) ↔
      ∃ fabricName adapterVersion, raw.fabricName = some fabricName ∧
        raw.adapterVersion = some adapterVersion ∧ NamesStayInside fabricName adapterVersion := by
  obtain ⟨hfabric, hadapter⟩ := names_of_buildManifest h
  constructor
  · rintro ⟨hcache, -⟩
    refine ⟨_, _, hfabric, hadapter, ?_⟩
    by_contra hleave
    obtain ⟨name, hplain, hname⟩ := exists_plainName_notMem
      (pathSegments parsed.manifest.fabricName ++ pathSegments parsed.manifest.adapterVersion)
    exact not_under_artifactCacheDir hplain hname hleave (hcache [] name).1
  · rintro ⟨fabricName, adapterVersion, hfabric', hadapter', hstay⟩
    rw [hfabric] at hfabric'
    rw [hadapter] at hadapter'
    cases hfabric'
    cases hadapter'
    exact ⟨cachePathsConfined_of_namesStayInside hstay, auxPathsConfined _⟩

/-- Constructors that accept every well-formed value and every non-empty name. -/
def acceptingHfx : Hfx where
  topology text := if text = "tree" then some .tree else if text = "dag" then some .dag else none
  boundingBox minX minY maxX maxY :=
    if minX < maxX ∧ minY < maxY then .ok ⟨minX, minY, maxX, maxY⟩ else .error "empty bounding box"
  unitCount count := if count = 0 then .error "unit count is zero" else .ok count
  schemaId text := .ok (.thirdParty text)
  auxiliaryDecl _ _ := .ok ()
  d8Metadata _ _ _ := .error "missing metadata"
  manifestBuilder manifest :=
    if manifest.fabricName = "" ∨ manifest.adapterVersion = "" then .error "empty name" else .ok ()

/-- A manifest file with these names. -/
def namedManifest (fabricName adapterVersion : String) : RawManifest where
  formatVersion := some "0.3.0"
  fabricName := some fabricName
  fabricVersion := none
  crs := some "EPSG:4326"
  hasUpArea := none
  topology := some "tree"
  region := none
  bbox := some [0, 0, 1, 1]
  unitCount := some 5
  createdAt := some "2026-01-01"
  adapterVersion := some adapterVersion
  auxiliary := []

theorem cachePaths_confined_grit :
    ∃ parsed, buildManifest acceptingHfx (namedManifest "grit" "2.0.0") = .ok parsed ∧
      CachePathsConfined parsed.manifest ∧ AuxPathsConfined parsed.aux := by
  have haccepted : ∃ parsed,
      buildManifest acceptingHfx (namedManifest "grit" "2.0.0") = .ok parsed := ⟨_, rfl⟩
  obtain ⟨parsed, hparsed⟩ := haccepted
  refine ⟨parsed, hparsed, (cachePaths_confined_iff hparsed).2 ⟨_, _, rfl, rfl, ?_⟩⟩
  refine ⟨?_, ?_, ?_⟩ <;> decide +kernel

/-- **A manifest leaves the cache.** Its fabric name climbs two directories up. -/
theorem not_cachePaths_confined :
    ¬∀ (raw : RawManifest) (parsed : ParsedManifest), buildManifest acceptingHfx raw = .ok parsed →
      CachePathsConfined parsed.manifest ∧ AuxPathsConfined parsed.aux := by
  intro hall
  have haccepted : ∃ parsed,
      buildManifest acceptingHfx (namedManifest "../../etc" "2.0.0") = .ok parsed := ⟨_, rfl⟩
  obtain ⟨parsed, hparsed⟩ := haccepted
  obtain ⟨hfabric, hadapter⟩ := names_of_buildManifest hparsed
  have hunder := ((hall _ _ hparsed).1 [] "/home/user/cache").1
  rw [← Option.some.inj hfabric, ← Option.some.inj hadapter] at hunder
  unfold UnixPath.Under at hunder
  exact absurd hunder (by decide +kernel)

end Pourpoint
