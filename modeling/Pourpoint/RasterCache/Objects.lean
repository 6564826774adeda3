import Pourpoint.Cog.Fetch

/-!
# The window cache over the bytes of objects

`cogReader` reads what the window cache needs from the bytes of an object, with the code of
`Cog.Header`, `Cog.Resolve` and `Cog.Fetch`. Preparing and fetching a window with it is `prepare_window`
and `fetch_window_to_path` (`prepareWindow_cogReader`, `fetchWindow_cogReader`).

**Theorem (`getOrFetchWindow_shows`).** In every run whose calls share their cache files only with
earlier calls for the same path that found the same object, a window that is returned shows the raster
that is at the path at the time, whether it was fetched or found.
-/

namespace Pourpoint

open Library

/-! ## The reader -/

section Reader

variable (inflate : List UInt8 → ℕ → Except String (List UInt8))

/-- The metadata in the header of an object. -/
def readMetadata (content : List UInt8) (path : String) : Remote CogMetadata := do
  let layout ← readRemoteLayout (.ofBytes content) path content.length
  metadataFromLayout layout path

/-- What is read of the bytes of an object. -/
def cogReader : ObjectReader (List UInt8) where
  layout content path := ExceptT.mk (readMetadata content path).outcome
  resolve content metadata plan path := Prod.fst <$> (ExceptT.mk
    (resolveTilePlan (.ofBytes content) path metadata.index plan content.length).outcome :
    Fallible CacheError (ResolvedTilePlan × ℕ))
  chunks content plan path := ExceptT.mk (fetchChunks (.ofBytes content) path plan).outcome
  inflate := inflate

end Reader

theorem map_run_eq_ok_iff {ε α β : Type} {x : Fallible ε α} {f : α → β} {b : β} :
    (f <$> x).run = .ok (.ok b) ↔ ∃ a, x.run = .ok (.ok a) ∧ f a = b := by
  rw [map_eq_pure_bind, Fallible.bind_run_eq_ok_iff]
  simp only [Fallible.pure_run_eq_ok_iff]

section Agree

variable {inflate : List UInt8 → ℕ → Except String (List UInt8)} {content : List UInt8} {path : String}
  {kind : RasterKind} {bbox : Rect}

/-- The header is read in the order of `prepare_window`. -/
theorem readHeader_outcome_eq_ok_iff {header : AcceptedHeader} :
    (readHeader (.ofBytes content) path content.length kind).outcome = .ok (.ok header) ↔
      ∃ layout, (readRemoteLayout (.ofBytes content) path content.length).outcome = .ok (.ok layout) ∧
        (metadataFromLayout layout path).run = .ok (.ok header.metadata) ∧
        (validateMeritLayout header.metadata kind path).run = .ok (.ok ()) ∧
        header.bytesRead = layout.bytesRead := by
  unfold readHeader
  constructor
  · intro h
    obtain ⟨layout, hlayout, h⟩ := Traced.bind_outcome_eq_ok h
    obtain ⟨metadata, hmetadata, h⟩ := Traced.bind_outcome_eq_ok h
    obtain ⟨_, hvalid, h⟩ := Traced.bind_outcome_eq_ok h
    cases h
    exact ⟨layout, hlayout, hmetadata, hvalid, rfl⟩
  · rintro ⟨layout, hlayout, hmetadata, hvalid, hbytes⟩
    refine Traced.bind_outcome_eq_ok_iff.2 ⟨layout, hlayout, ?_⟩
    refine Traced.bind_outcome_eq_ok_iff.2 ⟨header.metadata, hmetadata, ?_⟩
    refine Traced.bind_outcome_eq_ok_iff.2 ⟨(), hvalid, ?_⟩
    rw [← hbytes]
    rfl

/-- What a window that is prepared with the reader is. -/
theorem planned_of_prepareWindow {arith : PixelArith} {prepared : PreparedCogWindow}
    (h : (prepareWindow (cogReader inflate) arith content path kind bbox).run = .ok (.ok prepared)) :
    prepared.Planned content path := by
  unfold prepareWindow at h
  obtain ⟨metadata, -, h⟩ := Fallible.bind_run_eq_ok h
  obtain ⟨_, hvalid, h⟩ := Fallible.bind_run_eq_ok h
  obtain ⟨window, hwindow, h⟩ := Fallible.bind_run_eq_ok h
  obtain ⟨geometry, hgeometry, h⟩ := Fallible.bind_run_eq_ok h
  obtain ⟨plan, hplan, h⟩ := Fallible.bind_run_eq_ok h
  cases h
  obtain ⟨⟨_, indexBytes⟩, hresolved, rfl⟩ := map_run_eq_ok_iff.1 hplan
  obtain ⟨hsize, hbytes, htiles⟩ := resolved_of_resolveTilePlan hresolved
  exact ⟨merit_of_validateMeritLayout hvalid,
    RasterPixelWindow.on_of_fromBbox (unsupported_run_eq_ok hwindow), hsize, hbytes, geometry,
    hgeometry, htiles⟩

theorem layout_of_prepareWindow {Object : Type} {reader : ObjectReader Object} {arith : PixelArith}
    {object : Object} {prepared : PreparedCogWindow}
    (h : (prepareWindow reader arith object path kind bbox).run = .ok (.ok prepared)) :
    (reader.layout object path).run = .ok (.ok prepared.metadata) := by
  obtain ⟨metadata, hmetadata, h⟩ := Fallible.bind_run_eq_ok h
  obtain ⟨_, -, h⟩ := Fallible.bind_run_eq_ok h
  obtain ⟨_, -, h⟩ := Fallible.bind_run_eq_ok h
  obtain ⟨_, -, h⟩ := Fallible.bind_run_eq_ok h
  obtain ⟨_, -, h⟩ := Fallible.bind_run_eq_ok h
  cases h
  exact hmetadata

/-- **Preparing.** A window that `prepare_window` gives is the one that the reader gives, in the
arithmetic of `f64`. -/
theorem prepareWindow_cogReader {prepared : PreparedRemoteWindow}
    (h : (prepareRemoteWindow (.ofBytes content) path content.length kind bbox).outcome =
      .ok (.ok prepared)) :
    (prepareWindow (cogReader inflate) .f64 content path kind bbox).run =
      .ok (.ok prepared.toPreparedCogWindow) := by
  obtain ⟨header, geometry, indexBytes, hheader, hsame, hwindow, hgeometry, hplan⟩ :=
    steps_of_prepareRemoteWindow h
  obtain ⟨layout, hlayout, hmetadata, hvalid, -⟩ := readHeader_outcome_eq_ok_iff.1 hheader
  rw [hsame] at hmetadata hvalid
  have hread : ((cogReader inflate).layout content path).run = .ok (.ok prepared.metadata) :=
    Traced.bind_outcome_eq_ok_iff.2 ⟨layout, hlayout, hmetadata⟩
  have hresolved : ((cogReader inflate).resolve content prepared.metadata geometry path).run =
      .ok (.ok prepared.plan) := map_run_eq_ok_iff.2 ⟨_, hplan, rfl⟩
  refine Fallible.bind_run_eq_ok_iff.2 ⟨_, hread, ?_⟩
  refine Fallible.bind_run_eq_ok_iff.2 ⟨(), hvalid, ?_⟩
  refine Fallible.bind_run_eq_ok_iff.2 ⟨prepared.window, hwindow, ?_⟩
  refine Fallible.bind_run_eq_ok_iff.2 ⟨geometry, hgeometry, ?_⟩
  exact Fallible.bind_run_eq_ok_iff.2 ⟨prepared.plan, hresolved, rfl⟩

/-- The file of a prepared window with this data. -/
def PreparedCogWindow.file (prepared : PreparedCogWindow) (data : WindowData) : WindowFile where
  width := prepared.window.width
  height := prepared.window.height
  tags := writtenTagsF64 prepared.metadata prepared.window
  data := data
  nodata := normalizedNodata prepared.metadata

/-- The file that is fetched has the data that the bytes of the tiles are decoded to. -/
theorem fetchWindow_run_eq_ok_iff {prepared : PreparedCogWindow}
    (hplanned : prepared.Planned content path) {file : WindowFile} :
    (fetchWindow (cogReader inflate) content path prepared).run = .ok (.ok file) ↔
      ∃ data, prepared.DecodesTo inflate content path data ∧ file = prepared.file data := by
  have hchunks : ∀ compressed, _ ↔ _ := fun compressed =>
    @fetchChunks_outcome_eq_ok_iff path content prepared.plan compressed hplanned.objectSize
  unfold fetchWindow
  constructor
  · intro h
    obtain ⟨compressed, hcompressed, h⟩ := Fallible.bind_run_eq_ok h
    obtain ⟨_, -, h⟩ := Fallible.bind_run_eq_ok h
    obtain ⟨data, hdata, h⟩ := Fallible.bind_run_eq_ok h
    cases h
    obtain ⟨hlimits, hcovered, rfl⟩ := (hchunks compressed).1 hcompressed
    exact ⟨data, ⟨hlimits, hcovered, hdata⟩, rfl⟩
  · rintro ⟨data, hdata, rfl⟩
    refine Fallible.bind_run_eq_ok_iff.2 ⟨_, (hchunks _).2 ⟨hdata.tiles, hdata.covered, rfl⟩, ?_⟩
    refine Fallible.bind_run_eq_ok_iff.2
      ⟨(), Fallible.failIf_run_eq_ok_iff.2 (not_not.2 (List.length_map _)), ?_⟩
    exact Fallible.bind_run_eq_ok_iff.2 ⟨data, hdata.decoded, rfl⟩

/-- **Fetching.** The file of the cache has the data and the nodata text of `fetch_window_to_path`. -/
theorem fetchWindow_cogReader {prepared : PreparedRemoteWindow}
    (hplanned : prepared.Planned content path) {file : WindowFile} :
    (fetchWindow (cogReader inflate) content path prepared.toPreparedCogWindow).run = .ok (.ok file) ↔
      ∃ fetched, (fetchRemoteWindow inflate (.ofBytes content) path prepared).outcome =
        .ok (.ok fetched) ∧ file = { prepared.file fetched.data with nodata := fetched.nodata } := by
  rw [fetchWindow_run_eq_ok_iff hplanned]
  constructor
  · rintro ⟨data, hdata, rfl⟩
    exact ⟨_, (fetchRemoteWindow_outcome_eq_ok_iff hplanned).2 ⟨data, hdata, rfl⟩, rfl⟩
  · rintro ⟨fetched, hfetched, rfl⟩
    obtain ⟨data, hdata, rfl⟩ := (fetchRemoteWindow_outcome_eq_ok_iff hplanned).1 hfetched
    exact ⟨data, hdata, rfl⟩

end Agree

/-! ## Runs of the cache -/

namespace RasterCacheState

variable {Store Directory : Type} [DecidableEq Store] [DecidableEq Directory]
  {inflate : List UInt8 → ℕ → Except String (List UInt8)} {arith : PixelArith}
  {cacheDir : String → String → Directory} {s s' : RasterCacheState Store (List UInt8) Directory}

/-- **The cache serves the raster.** In every run from an empty cache whose calls share their cache files
only with earlier calls for the same path that found the same object, let a call return a window while
an object that encodes a raster is at its path. The file has the size and the tags of the window that
is prepared for the object, and its cells are the samples of the raster at the offset of the window. -/
theorem getOrFetchWindow_shows {objects : Store → String → Option (List UInt8)}
    {actions : List (RasterCacheAction Store (List UInt8))} {request : WindowRequest Store}
    {file : WindowFile} {content : List UInt8} {samples : RasterSamples}
    (hok : Guarded (step (cogReader inflate) arith cacheDir)
      (NoAlias (cogReader inflate) arith cacheDir) (empty objects) (actions ++ [.call request]))
    (hrun : run (step (cogReader inflate) arith cacheDir) (empty objects) actions = some s)
    (hcall : (s.getOrFetchWindow (cogReader inflate) arith cacheDir request).run =
      .ok (.ok (file, s')))
    (hobject : s.objects request.store request.remotePath = some content)
    (hencodes : ∀ metadata, ((cogReader inflate).layout content request.remotePath).run =
      .ok (.ok metadata) → EncodesRaster inflate content metadata samples) :
    ∃ prepared, (prepareWindow (cogReader inflate) arith content request.remotePath request.kind
        request.bbox).run = .ok (.ok prepared) ∧
      file = prepared.file file.data ∧ prepared.Shows samples file.data := by
  obtain ⟨hbefore, hlast, -⟩ := guarded_append hok hrun
  have hinv : FilesServed (cogReader inflate) arith cacheDir s :=
    run_invariant (fun _ _ _ hs hok hstep => step_filesServed hs hok hstep)
      (by intro dir name file h; cases h) hbefore hrun
  obtain ⟨object, prepared, hfound, hprepared, hfile, -⟩ := getOrFetchWindow_run_eq_ok hcall
  rw [hobject] at hfound
  cases hfound
  have hfetch := holds_of_noAlias hinv hlast hobject hprepared hfile
  have hplanned := planned_of_prepareWindow hprepared
  obtain ⟨data, hdata, rfl⟩ := (fetchWindow_run_eq_ok_iff hplanned).1 hfetch
  exact ⟨prepared, hprepared, rfl,
    hdata.shows hplanned (hencodes _ (layout_of_prepareWindow hprepared))⟩

/-- A store with the raster of four tiles at one path. -/
def tiffObjects : Unit → String → Option (List UInt8) :=
  fun _ path => if path = "d8.tif" then some fourTileTiff else none

/-- The state after the first call, which fetched this file. -/
def tiffServed (file : WindowFile) : RasterCacheState Unit (List UInt8) (String × String) :=
  (empty tiffObjects).serve ⟨cornerRequest, fourTileTiff, preparedCorner.window⟩
    (cornerRequest.fabricName, cornerRequest.adapterVersion)
    (windowFileName cornerRequest.kind cornerRequest.remotePath preparedCorner.window.cacheFragment)
    file

theorem prepareWindow_fourTileTiff :
    (prepareWindow (cogReader Zlib.inflate) .f64 fourTileTiff cornerRequest.remotePath
      cornerRequest.kind cornerRequest.bbox).run = .ok (.ok preparedCorner.toPreparedCogWindow) :=
  prepareWindow_cogReader prepareRemoteWindow_fourTileTiff

/-- A second call serves the file of the first. -/
theorem getOrFetchWindow_shows_again :
    ∃ file s', ((tiffServed file).getOrFetchWindow (cogReader Zlib.inflate) .f64 Prod.mk
        cornerRequest).run = .ok (.ok (file, s')) ∧
      run (step (cogReader Zlib.inflate) .f64 Prod.mk) (empty tiffObjects) [.call cornerRequest] =
        some (tiffServed file) ∧
      ∃ prepared : PreparedCogWindow, prepared.Shows rampRaster file.data := by
  have hprepared := prepareWindow_fourTileTiff
  have hplanned : preparedCorner.Planned fourTileTiff "d8.tif" := planned_of_prepareWindow hprepared
  obtain ⟨data, hdata⟩ :=
    (PreparedCogWindow.exists_decodesTo_iff hplanned encodesRaster_ramp).2 fetchable_corner
  have hfetched := (fetchRemoteWindow_outcome_eq_ok_iff hplanned).2 ⟨data, hdata, rfl⟩
  have hfetch := (fetchWindow_cogReader hplanned).2 ⟨_, hfetched, rfl⟩
  set file : WindowFile := preparedCorner.file data
  have hobject : ∀ t : RasterCacheState Unit (List UInt8) (String × String),
      t.objects = tiffObjects → t.objects cornerRequest.store cornerRequest.remotePath =
        some fourTileTiff := by
    intro t ht
    rw [ht]
    rfl
  have hfirst : ((empty tiffObjects).getOrFetchWindow (cogReader Zlib.inflate) .f64 Prod.mk
      cornerRequest).run = .ok (.ok (file, tiffServed file)) := by
    refine getOrFetchWindow_run_of_lookup (hobject _ rfl) hprepared ?_
    rw [lookup_of_none rfl]
    exact hfetch
  obtain ⟨s', hsecond⟩ : ∃ s', ((tiffServed file).getOrFetchWindow (cogReader Zlib.inflate) .f64 Prod.mk
      cornerRequest).run = .ok (.ok (file, s')) := by
    refine ⟨_, getOrFetchWindow_run_of_lookup (hobject _ rfl) hprepared ?_⟩
    have hhit : (tiffServed file).files (cornerRequest.fabricName, cornerRequest.adapterVersion)
        (windowFileName cornerRequest.kind cornerRequest.remotePath
          preparedCorner.window.cacheFragment) = some file := by
      simp only [tiffServed, serve, Function.update_self]
    rw [lookup_of_some hhit]
    rfl
  have hrun : run (step (cogReader Zlib.inflate) .f64 Prod.mk) (empty tiffObjects)
      [.call cornerRequest] = some (tiffServed file) := by
    show (step (cogReader Zlib.inflate) .f64 Prod.mk (empty tiffObjects) (.call cornerRequest)).bind _ = _
    rw [step_call hfirst]
    rfl
  have hguarded : Guarded (step (cogReader Zlib.inflate) .f64 Prod.mk)
      (NoAlias (cogReader Zlib.inflate) .f64 Prod.mk) (empty tiffObjects)
      ([.call cornerRequest] ++ [.call cornerRequest]) := by
    refine ⟨fun _ _ _ _ _ h => absurd h List.not_mem_nil, ?_⟩
    intro s hs
    rw [step_call hfirst] at hs
    cases hs
    refine ⟨?_, by intro _ _; trivial⟩
    intro object prepared hobj _ served hserved _
    obtain rfl := List.mem_singleton.1 hserved
    rw [hobject _ rfl] at hobj
    exact ⟨rfl, Option.some.inj hobj⟩
  have hencodes : ∀ metadata, ((cogReader Zlib.inflate).layout fourTileTiff
      cornerRequest.remotePath).run = .ok (.ok metadata) →
        EncodesRaster Zlib.inflate fourTileTiff metadata rampRaster := by
    intro metadata hmetadata
    rw [layout_of_prepareWindow hprepared] at hmetadata
    cases hmetadata
    exact encodesRaster_ramp
  obtain ⟨prepared, -, -, hshows⟩ :=
    getOrFetchWindow_shows hguarded hrun hsecond (hobject _ rfl) hencodes
  exact ⟨file, s', hsecond, hrun, prepared, hshows⟩

end RasterCacheState

end Pourpoint
