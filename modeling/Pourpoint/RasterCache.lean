import Pourpoint.Cog.Localize
import Pourpoint.Fnv
import Pourpoint.Library.Decimal
import Pourpoint.Library.Run
import Pourpoint.Library.UnixPath

/-!
# The raster window cache

`get_or_fetch_window` reads the header of the remote object, computes the pixel window, and returns the
cache file of the window when there is one; otherwise it fetches the window and writes the file. The
name of the file is made of the raster kind, a hash of the remote path and the window; its directory
belongs to the fabric name and the adapter version. Neither the object store nor the version of the
object is part of it, so a replaced object is served from the old file
(`not_getOrFetchWindow_coherent`).

A call is served correctly in every run in which calls that share directory, kind and path hash ask for
one path and find one content there (`getOrFetchWindow_coherent`).

What the header of an object says, which byte ranges its tiles have and which bytes they hold are
functions of the object (`ObjectReader`); calls are atomic, and files are only written by calls.
-/

namespace Pourpoint

/-! ## File names -/

/-- `RasterKind::cache_name`. -/
def RasterKind.cacheName : RasterKind → String
  | .flowDir => "flow-dir"
  | .flowAcc => "flow-acc"

/-- The window in the name of its file. -/
def RasterPixelWindow.cacheFragment (window : RasterPixelWindow) : String :=
  "x" ++ toString window.colOff ++ "-y" ++ toString window.rowOff ++ "-w" ++ toString window.width ++
    "-h" ++ toString window.height

/-- The file name of `canonical_window_path`. -/
def windowFileName (kind : RasterKind) (remotePath : String) (fragment : String) : String :=
  kind.cacheName ++ "." ++ toString (fnv1a64 (utf8Bytes remotePath)).toNat ++ "." ++ fragment ++ ".tif"

/-- `canonical_window_path`. -/
def canonicalWindowPath (root : UnixPath) (remotePath : String) (kind : RasterKind)
    (windowFragment : String) (fabricName adapterVersion : String) : UnixPath :=
  (((root.join fabricName).join adapterVersion).join "raster-windows").join
    (windowFileName kind remotePath windowFragment)

theorem noDigitFirst_cons {c : Char} (rest : List Char) (hc : c.isDigit = false) :
    NoDigitFirst (c :: rest) := by
  intro d hd
  cases hd
  exact hc

theorem RasterPixelWindow.cacheFragment_inj {window window' : RasterPixelWindow} {rest : List Char}
    (hrest : NoDigitFirst rest)
    (h : window.cacheFragment.toList ++ rest = window'.cacheFragment.toList ++ rest) :
    window = window' := by
  have hdash : ∀ l : List Char, NoDigitFirst ('-' :: l) := fun l => noDigitFirst_cons l rfl
  simp only [cacheFragment, String.toList_append, List.append_assoc, show "x".toList = ['x'] from rfl,
    show "-y".toList = ['-', 'y'] from rfl, show "-w".toList = ['-', 'w'] from rfl,
    show "-h".toList = ['-', 'h'] from rfl, List.cons_append, List.nil_append, List.cons.injEq,
    true_and] at h
  obtain ⟨hcol, h⟩ := decimal_append_inj (hdash _) (hdash _) h
  simp only [List.cons.injEq, true_and] at h
  obtain ⟨hrow, h⟩ := decimal_append_inj (hdash _) (hdash _) h
  simp only [List.cons.injEq, true_and] at h
  obtain ⟨hwidth, h⟩ := decimal_append_inj (hdash _) (hdash _) h
  simp only [List.cons.injEq, true_and] at h
  obtain ⟨hheight, -⟩ := decimal_append_inj hrest hrest h
  cases window
  cases window'
  simp_all

theorem RasterKind.cacheName_inj {kind kind' : RasterKind} {rest rest' : List Char}
    (h : kind.cacheName.toList ++ rest = kind'.cacheName.toList ++ rest') :
    kind = kind' ∧ rest = rest' := by
  cases kind <;> cases kind'
  case flowDir.flowDir | flowAcc.flowAcc => exact ⟨rfl, List.append_cancel_left h⟩
  all_goals
    simp [cacheName, show "flow-dir".toList = ['f', 'l', 'o', 'w', '-', 'd', 'i', 'r'] from rfl,
      show "flow-acc".toList = ['f', 'l', 'o', 'w', '-', 'a', 'c', 'c'] from rfl] at h

/-- A file name determines the kind, the hash of the path and the window. -/
theorem windowFileName_inj {kind kind' : RasterKind} {path path' : String}
    {window window' : RasterPixelWindow}
    (h : windowFileName kind path window.cacheFragment =
      windowFileName kind' path' window'.cacheFragment) :
    kind = kind' ∧ fnv1a64 (utf8Bytes path) = fnv1a64 (utf8Bytes path') ∧ window = window' := by
  have hlist := congrArg String.toList h
  have hdot : ∀ l : List Char, NoDigitFirst ('.' :: l) := fun l => noDigitFirst_cons l rfl
  simp only [windowFileName, String.toList_append, List.append_assoc,
    show ".".toList = ['.'] from rfl, show ".tif".toList = ['.', 't', 'i', 'f'] from rfl,
    List.cons_append, List.nil_append] at hlist
  obtain ⟨hkind, hlist⟩ := RasterKind.cacheName_inj hlist
  simp only [List.cons.injEq, true_and] at hlist
  obtain ⟨hhash, hlist⟩ := decimal_append_inj (hdot _) (hdot _) hlist
  simp only [List.cons.injEq, true_and] at hlist
  exact ⟨hkind, UInt64.toNat_inj.1 hhash, RasterPixelWindow.cacheFragment_inj (hdot _) hlist⟩

/-! ## Reading an object -/

/-- What is read from the bytes of an object: its layout, the byte ranges of planned tiles, and the
compressed chunks at these ranges. -/
structure ObjectReader (Object : Type) where
  layout : Object → String → Fallible CacheError CogMetadata
  resolve : Object → CogMetadata → TilePlan → String → Fallible CacheError ResolvedTilePlan
  chunks : Object → ResolvedTilePlan → String → Fallible CacheError (List (List UInt8))
  inflate : List UInt8 → ℕ → Except String (List UInt8)

/-- `PreparedCogWindow`. -/
structure PreparedCogWindow where
  metadata : CogMetadata
  window : RasterPixelWindow
  plan : ResolvedTilePlan
  deriving DecidableEq

/-- The nodata text of the local file. -/
def normalizedNodata (metadata : CogMetadata) : String :=
  match metadata.sampleType with
  | .i8 => ((parseI8AsU8 metadata.nodata).map fun value => toString value.toNat).getD "255"
  | .i32 => "nan"
  | .u8 | .f32 => metadata.nodata

/-- The content of a local window file. -/
structure WindowFile where
  width : ℕ
  height : ℕ
  tags : WindowTags F64
  data : WindowData
  nodata : String
  deriving DecidableEq

section Objects

variable {Object : Type} (reader : ObjectReader Object) (arith : PixelArith)

/-- `prepare_window`. -/
def prepareWindow (object : Object) (remotePath : String) (kind : RasterKind) (bbox : Rect) :
    Fallible CacheError PreparedCogWindow := do
  let metadata ← reader.layout object remotePath
  validateMeritLayout metadata kind remotePath
  let window ← unsupported remotePath (RasterPixelWindow.fromBbox arith metadata bbox)
  let geometry ← TilePlan.forWindow metadata window remotePath
  let plan ← reader.resolve object metadata geometry remotePath
  pure ⟨metadata, window, plan⟩

/-- `fetch_window_to_path`, up to the file. -/
def fetchWindow (object : Object) (remotePath : String) (prepared : PreparedCogWindow) :
    Fallible CacheError WindowFile := do
  let compressed ← reader.chunks object prepared.plan remotePath
  Fallible.failIf (compressed.length ≠ prepared.plan.tiles.length) (remoteLayoutError remotePath
    s!"TIFF compressed response count {compressed.length}, expected {prepared.plan.tiles.length}")
  let data ← decodeWindow reader.inflate compressed prepared.metadata prepared.window prepared.plan
    remotePath
  pure ⟨prepared.window.width, prepared.window.height, writtenTagsF64 prepared.metadata prepared.window,
    data, normalizedNodata prepared.metadata⟩

end Objects

/-! ## The cache -/

/-- The arguments of `get_or_fetch_window`. -/
structure WindowRequest (Store : Type) where
  store : Store
  remotePath : String
  kind : RasterKind
  bbox : Rect
  fabricName : String
  adapterVersion : String

/-- A served call: the object that it found and the window of it. -/
structure ServedWindow (Store Object : Type) where
  request : WindowRequest Store
  object : Object
  window : RasterPixelWindow

/-- The objects in the stores, the window files in the cache directories, and the served calls. -/
structure RasterCacheState (Store Object Directory : Type) where
  objects : Store → String → Option Object
  files : Directory → String → Option WindowFile
  served : List (ServedWindow Store Object)

/-- What can happen next. -/
inductive RasterCacheAction (Store Object : Type) where
  /-- The object at a path is created, replaced or deleted. -/
  | put (store : Store) (remotePath : String) (object : Option Object)
  | call (request : WindowRequest Store)

section Cache

variable {Store Object Directory : Type} [DecidableEq Store] [DecidableEq Directory]
  (reader : ObjectReader Object) (arith : PixelArith) (cacheDir : String → String → Directory)

namespace RasterCacheState

variable (s : RasterCacheState Store Object Directory)

/-- The state after a call that found or wrote this file. -/
def serve (served : ServedWindow Store Object) (dir : Directory) (name : String) (file : WindowFile) :
    RasterCacheState Store Object Directory where
  objects := s.objects
  files := Function.update s.files dir (Function.update (s.files dir) name (some file))
  served := served :: s.served

/-- The file at the canonical path, fetched when there is none. -/
def lookup (dir : Directory) (name : String) (fetch : Fallible CacheError WindowFile) :
    Fallible CacheError WindowFile :=
  match s.files dir name with
  | some file => pure file
  | none => fetch

/-- The file at the canonical path and the state after the call. -/
def getOrFetchWindow (request : WindowRequest Store) :
    Fallible CacheError (WindowFile × RasterCacheState Store Object Directory) := do
  let object ← Fallible.orElse (.objectStore request.remotePath "not found")
    (s.objects request.store request.remotePath)
  let prepared ← prepareWindow reader arith object request.remotePath request.kind request.bbox
  let dir := cacheDir request.fabricName request.adapterVersion
  let name := windowFileName request.kind request.remotePath prepared.window.cacheFragment
  let file ← s.lookup dir name (fetchWindow reader object request.remotePath prepared)
  pure (file, s.serve ⟨request, object, prepared.window⟩ dir name file)

/-- A call that fails leaves the cache as it is. -/
def step : RasterCacheAction Store Object → Option (RasterCacheState Store Object Directory)
  | .put store remotePath object =>
    let contents := Function.update (s.objects store) remotePath object
    some { s with objects := Function.update s.objects store contents }
  | .call request =>
    match (s.getOrFetchWindow reader arith cacheDir request).run with
    | .ok (.ok (_, s')) => some s'
    | _ => some s

/-! ## Coherence -/

/-- The file holds the window of the request in this object. -/
def Holds (object : Object) (request : WindowRequest Store) (file : WindowFile) : Prop :=
  ∃ prepared,
    (prepareWindow reader arith object request.remotePath request.kind request.bbox).run =
      .ok (.ok prepared) ∧
    (fetchWindow reader object request.remotePath prepared).run = .ok (.ok file)

/-- Both calls use one cache file. -/
structure Shares (request other : WindowRequest Store) (window window' : RasterPixelWindow) : Prop where
  dir : cacheDir request.fabricName request.adapterVersion =
    cacheDir other.fabricName other.adapterVersion
  kind : request.kind = other.kind
  hash : fnv1a64 (utf8Bytes request.remotePath) = fnv1a64 (utf8Bytes other.remotePath)
  window : window = window'

/-- A call shares its cache file only with earlier calls for the same path that found the same
object. -/
def NoAlias (s : RasterCacheState Store Object Directory) : RasterCacheAction Store Object → Prop
  | .put _ _ _ => True
  | .call request => ∀ object prepared, s.objects request.store request.remotePath = some object →
    (prepareWindow reader arith object request.remotePath request.kind request.bbox).run =
      .ok (.ok prepared) →
    ∀ served ∈ s.served, Shares cacheDir request served.request prepared.window served.window →
      served.request.remotePath = request.remotePath ∧ served.object = object

/-- Every cache file was fetched by a served call that uses this file. -/
def FilesServed (s : RasterCacheState Store Object Directory) : Prop :=
  ∀ dir name file, s.files dir name = some file → ∃ served ∈ s.served,
    dir = cacheDir served.request.fabricName served.request.adapterVersion ∧
    name = windowFileName served.request.kind served.request.remotePath
      served.window.cacheFragment ∧
    ∃ prepared, (prepareWindow reader arith served.object served.request.remotePath
        served.request.kind served.request.bbox).run = .ok (.ok prepared) ∧
      prepared.window = served.window ∧
      (fetchWindow reader served.object served.request.remotePath prepared).run = .ok (.ok file)

variable {reader arith cacheDir} {s}

/-- The prepared read of an object depends only on the path and the window. -/
theorem prepareWindow_unique {object : Object} {path : String} {kind kind' : RasterKind}
    {bbox bbox' : Rect} {prepared prepared' : PreparedCogWindow}
    (h : (prepareWindow reader arith object path kind bbox).run = .ok (.ok prepared))
    (h' : (prepareWindow reader arith object path kind' bbox').run = .ok (.ok prepared'))
    (hwindow : prepared.window = prepared'.window) : prepared = prepared' := by
  unfold prepareWindow at h h'
  obtain ⟨metadata, hmetadata, h⟩ := Fallible.bind_run_eq_ok h
  obtain ⟨_, -, h⟩ := Fallible.bind_run_eq_ok h
  obtain ⟨window, -, h⟩ := Fallible.bind_run_eq_ok h
  obtain ⟨geometry, hgeometry, h⟩ := Fallible.bind_run_eq_ok h
  obtain ⟨plan, hplan, h⟩ := Fallible.bind_run_eq_ok h
  obtain ⟨metadata', hmetadata', h'⟩ := Fallible.bind_run_eq_ok h'
  obtain ⟨_, -, h'⟩ := Fallible.bind_run_eq_ok h'
  obtain ⟨window', -, h'⟩ := Fallible.bind_run_eq_ok h'
  obtain ⟨geometry', hgeometry', h'⟩ := Fallible.bind_run_eq_ok h'
  obtain ⟨plan', hplan', h'⟩ := Fallible.bind_run_eq_ok h'
  cases h
  cases h'
  cases hwindow
  rw [hmetadata] at hmetadata'
  cases hmetadata'
  rw [hgeometry] at hgeometry'
  cases hgeometry'
  rw [hplan] at hplan'
  cases hplan'
  rfl

omit [DecidableEq Store] [DecidableEq Directory] in
theorem lookup_of_some {dir : Directory} {name : String} {fetch : Fallible CacheError WindowFile}
    {file : WindowFile} (h : s.files dir name = some file) : s.lookup dir name fetch = pure file := by
  simp only [lookup, h]

omit [DecidableEq Store] [DecidableEq Directory] in
theorem lookup_of_none {dir : Directory} {name : String} {fetch : Fallible CacheError WindowFile}
    (h : s.files dir name = none) : s.lookup dir name fetch = fetch := by
  simp only [lookup, h]

omit [DecidableEq Store] in
/-- What a successful call did. -/
theorem getOrFetchWindow_run_eq_ok {request : WindowRequest Store} {file : WindowFile}
    {s' : RasterCacheState Store Object Directory}
    (h : (s.getOrFetchWindow reader arith cacheDir request).run = .ok (.ok (file, s'))) :
    ∃ object prepared, s.objects request.store request.remotePath = some object ∧
      (prepareWindow reader arith object request.remotePath request.kind request.bbox).run =
        .ok (.ok prepared) ∧
      (s.files (cacheDir request.fabricName request.adapterVersion)
          (windowFileName request.kind request.remotePath prepared.window.cacheFragment) =
            some file ∨
        (fetchWindow reader object request.remotePath prepared).run = .ok (.ok file)) ∧
      s' = s.serve ⟨request, object, prepared.window⟩
        (cacheDir request.fabricName request.adapterVersion)
        (windowFileName request.kind request.remotePath prepared.window.cacheFragment) file := by
  unfold getOrFetchWindow at h
  obtain ⟨object, hobject, h⟩ := Fallible.bind_run_eq_ok h
  obtain ⟨prepared, hprepared, h⟩ := Fallible.bind_run_eq_ok h
  obtain ⟨found, hfound, h⟩ := Fallible.bind_run_eq_ok h
  cases h
  refine ⟨object, prepared, Fallible.orElse_run_eq_ok hobject, hprepared, ?_, rfl⟩
  unfold lookup at hfound
  split at hfound
  · next hfile =>
    cases hfound
    exact .inl hfile
  · exact .inr hfound

omit [DecidableEq Store] [DecidableEq Directory] in
/-- The file that a call returns holds its window, when it only shares its cache file with calls that
found the same object. -/
theorem holds_of_noAlias {request : WindowRequest Store} {file : WindowFile} {object : Object}
    {prepared : PreparedCogWindow} (hinv : FilesServed reader arith cacheDir s)
    (hok : NoAlias reader arith cacheDir s (.call request))
    (hobject : s.objects request.store request.remotePath = some object)
    (hprepared : (prepareWindow reader arith object request.remotePath request.kind
      request.bbox).run = .ok (.ok prepared))
    (hfile : s.files (cacheDir request.fabricName request.adapterVersion)
        (windowFileName request.kind request.remotePath prepared.window.cacheFragment) = some file ∨
      (fetchWindow reader object request.remotePath prepared).run = .ok (.ok file)) :
    (fetchWindow reader object request.remotePath prepared).run = .ok (.ok file) := by
  rcases hfile with hhit | hfetch
  · obtain ⟨served, hserved, hdir, hname, prepared', hprepared', hwindow', hfetch⟩ := hinv _ _ _ hhit
    obtain ⟨hkind, hhash, hwindow⟩ := windowFileName_inj hname
    obtain ⟨hpath, rfl⟩ := hok object prepared hobject hprepared served hserved
      ⟨hdir, hkind, hhash, hwindow⟩
    rw [hpath] at hprepared' hfetch
    rw [prepareWindow_unique hprepared hprepared' (hwindow.trans hwindow'.symm)]
    exact hfetch
  · exact hfetch

/-- **Step.** The files stay those of served calls. -/
theorem step_filesServed {s' : RasterCacheState Store Object Directory}
    {action : RasterCacheAction Store Object} (hinv : FilesServed reader arith cacheDir s)
    (hok : NoAlias reader arith cacheDir s action)
    (hstep : s.step reader arith cacheDir action = some s') : FilesServed reader arith cacheDir s' := by
  cases action with
  | put store path object =>
    cases hstep
    exact hinv
  | call request =>
    simp only [step] at hstep
    split at hstep
    · next file t hcall =>
      cases hstep
      obtain ⟨object, prepared, hobject, hprepared, hfile, rfl⟩ := getOrFetchWindow_run_eq_ok hcall
      have hfetch := holds_of_noAlias hinv hok hobject hprepared hfile
      intro dir name other hother
      by_cases hhere : dir = cacheDir request.fabricName request.adapterVersion ∧
          name = windowFileName request.kind request.remotePath prepared.window.cacheFragment
      · obtain ⟨rfl, rfl⟩ := hhere
        simp only [serve, Function.update_self, Option.some.injEq] at hother
        subst hother
        exact ⟨_, List.mem_cons_self, rfl, rfl, prepared, hprepared, rfl, hfetch⟩
      · have hold : s.files dir name = some other := by
          rw [← hother]
          simp only [serve]
          by_cases hdir : dir = cacheDir request.fabricName request.adapterVersion
          · subst hdir
            rw [Function.update_self, Function.update_of_ne (fun h => hhere ⟨rfl, h⟩)]
          · rw [Function.update_of_ne hdir]
        obtain ⟨served, hserved, rest⟩ := hinv dir name other hold
        exact ⟨served, List.mem_cons_of_mem _ hserved, rest⟩
    · cases hstep
      exact hinv

theorem step_call {request : WindowRequest Store} {file : WindowFile}
    {s' : RasterCacheState Store Object Directory}
    (h : (s.getOrFetchWindow reader arith cacheDir request).run = .ok (.ok (file, s'))) :
    s.step reader arith cacheDir (.call request) = some s' := by
  simp only [step, h]

/-- An empty cache. -/
def empty (objects : Store → String → Option Object) : RasterCacheState Store Object Directory :=
  ⟨objects, fun _ _ => none, []⟩

/-- **Cache coherence.** In every run from an empty cache whose calls share their cache files only with
earlier calls for the same path that found the same object, a successful call returns the window
of the object that is at its path at the time. -/
theorem getOrFetchWindow_coherent {objects : Store → String → Option Object}
    {actions : List (RasterCacheAction Store Object)} {request : WindowRequest Store}
    {file : WindowFile} {s' : RasterCacheState Store Object Directory}
    (hok : Guarded (step reader arith cacheDir) (NoAlias reader arith cacheDir) (empty objects)
      (actions ++ [.call request]))
    (hrun : run (step reader arith cacheDir) (empty objects) actions = some s)
    (hcall : (s.getOrFetchWindow reader arith cacheDir request).run = .ok (.ok (file, s'))) :
    ∃ object, s.objects request.store request.remotePath = some object ∧
      Holds reader arith object request file := by
  obtain ⟨hbefore, hlast, -⟩ := guarded_append hok hrun
  have hinv : FilesServed reader arith cacheDir s :=
    run_invariant (fun _ _ _ hs hok hstep => step_filesServed hs hok hstep)
      (by intro dir name file h; cases h) hbefore hrun
  obtain ⟨object, prepared, hobject, hprepared, hfile, -⟩ := getOrFetchWindow_run_eq_ok hcall
  exact ⟨object, hobject, prepared, hprepared,
    holds_of_noAlias hinv hlast hobject hprepared hfile⟩

omit [DecidableEq Store] in
theorem getOrFetchWindow_run_of_lookup {request : WindowRequest Store} {file : WindowFile}
    {object : Object} {prepared : PreparedCogWindow}
    (hobject : s.objects request.store request.remotePath = some object)
    (hprepared : (prepareWindow reader arith object request.remotePath request.kind
      request.bbox).run = .ok (.ok prepared))
    (hlookup : (s.lookup (cacheDir request.fabricName request.adapterVersion)
      (windowFileName request.kind request.remotePath prepared.window.cacheFragment)
      (fetchWindow reader object request.remotePath prepared)).run = .ok (.ok file)) :
    (s.getOrFetchWindow reader arith cacheDir request).run =
      .ok (.ok (file, s.serve ⟨request, object, prepared.window⟩
        (cacheDir request.fabricName request.adapterVersion)
        (windowFileName request.kind request.remotePath prepared.window.cacheFragment) file)) := by
  unfold getOrFetchWindow
  rw [hobject]
  show ExceptT.run (prepareWindow reader arith object request.remotePath request.kind
    request.bbox >>= _) = _
  rw [ExceptT.run_bind, hprepared]
  show ExceptT.run (lookup s _ _ _ >>= _) = _
  rw [ExceptT.run_bind, hlookup]
  rfl

end RasterCacheState

end Cache

/-! ## An object that is replaced -/

/-- Objects that are their own layouts, with a tile of ones for each planned tile. -/
def layoutReader : ObjectReader CogMetadata where
  layout object _ := pure object
  resolve _ _ plan _ := pure ⟨1051700, plan.indices.map onesTile, 1048700⟩
  chunks _ plan _ := pure (plan.tiles.map fun _ => onesChunk)
  inflate := Zlib.inflate

/-- The raster moved east by a quarter of a pixel. -/
def shiftedMetadata : CogMetadata := { fourTileMetadata with originX := .finite (1 / 4) }

def cornerRequest : WindowRequest Unit := ⟨(), "d8.tif", .flowDir, cornerBbox, "merit", "v1"⟩

def cornerPrepared (metadata : CogMetadata) : PreparedCogWindow :=
  ⟨metadata, ⟨499, 499, 22, 32⟩, cornerResolved⟩

theorem prepareWindow_fourTile :
    (prepareWindow layoutReader .f64 fourTileMetadata cornerRequest.remotePath cornerRequest.kind
      cornerRequest.bbox).run =
      .ok (.ok (cornerPrepared fourTileMetadata)) := by
  decide +kernel

theorem prepareWindow_shifted :
    (prepareWindow layoutReader .f64 shiftedMetadata cornerRequest.remotePath cornerRequest.kind
      cornerRequest.bbox).run =
      .ok (.ok (cornerPrepared shiftedMetadata)) := by
  decide +kernel

theorem fetchWindow_tags {Object : Type} {reader : ObjectReader Object} {object : Object}
    {path : String} {prepared : PreparedCogWindow} {file : WindowFile}
    (h : (fetchWindow reader object path prepared).run = .ok (.ok file)) :
    file.tags = writtenTagsF64 prepared.metadata prepared.window := by
  unfold fetchWindow at h
  obtain ⟨compressed, -, h⟩ := Fallible.bind_run_eq_ok h
  obtain ⟨_, -, h⟩ := Fallible.bind_run_eq_ok h
  obtain ⟨data, -, h⟩ := Fallible.bind_run_eq_ok h
  cases h
  rfl

theorem exists_fetchWindow_fourTile :
    ∃ file, (fetchWindow layoutReader fourTileMetadata cornerRequest.remotePath
      (cornerPrepared fourTileMetadata)).run = .ok (.ok file) := by
  have hvalid : (validateMeritLayout fourTileMetadata .flowDir "d8.tif").run = .ok (.ok ()) := rfl
  have hwindow : (RasterPixelWindow.fromBbox PixelArith.f64 fourTileMetadata cornerBbox).run =
      .ok (.ok ⟨499, 499, 22, 32⟩) := by
    decide +kernel
  have hplan : (TilePlan.forWindow fourTileMetadata ⟨499, 499, 22, 32⟩ "d8.tif").run =
      .ok (.ok ⟨[0, 1, 2, 3]⟩) := by
    decide +kernel
  have hdecode : (decodeWindow Zlib.inflate (List.replicate 4 onesChunk) fourTileMetadata
      ⟨499, 499, 22, 32⟩ cornerResolved "d8.tif").Returns (fun _ => True) :=
    decodeWindow_returns (merit_of_validateMeritLayout hvalid)
      (RasterPixelWindow.on_of_fromBbox hwindow) hplan rfl rfl (by decide)
      (fun _ => ⟨255, rfl, trivial⟩) fun bytes hbytes => List.eq_of_mem_replicate hbytes ▸ inflate_onesChunk
  have hreturns : (fetchWindow layoutReader fourTileMetadata cornerRequest.remotePath
      (cornerPrepared fourTileMetadata)).Returns fun _ => True := by
    unfold fetchWindow
    apply Fallible.returns_bind (Fallible.returns_pure rfl)
    rintro _ rfl
    apply Fallible.returns_failIf_bind (by decide)
    apply Fallible.returns_bind hdecode
    intro data _
    exact Fallible.returns_pure trivial
  obtain ⟨file, hfile, -⟩ := hreturns
  exact ⟨file, hfile⟩

namespace RasterCacheState

/-- A store with the raster at one path. -/
def cornerObjects : Unit → String → Option CogMetadata :=
  fun _ path => if path = "d8.tif" then some fourTileMetadata else none

/-- The name of the cache file of the request. -/
def cornerName : String :=
  windowFileName cornerRequest.kind cornerRequest.remotePath
    (cornerPrepared fourTileMetadata).window.cacheFragment

/-- The state after the first call, which fetched this file. -/
def cornerServed (file : WindowFile) : RasterCacheState Unit CogMetadata (String × String) :=
  (empty cornerObjects).serve ⟨cornerRequest, fourTileMetadata, (cornerPrepared fourTileMetadata).window⟩
    (cornerRequest.fabricName, cornerRequest.adapterVersion) cornerName file

theorem cornerServed_files (file : WindowFile) :
    (cornerServed file).files (cornerRequest.fabricName, cornerRequest.adapterVersion) cornerName =
      some file := by
  simp only [cornerServed, serve, Function.update_self]

theorem run_first {file : WindowFile}
    (hfile : (fetchWindow layoutReader fourTileMetadata cornerRequest.remotePath
      (cornerPrepared fourTileMetadata)).run = .ok (.ok file)) :
    run (step layoutReader .f64 Prod.mk) (empty cornerObjects) [.call cornerRequest] =
      some (cornerServed file) := by
  have hlookup : ((empty cornerObjects : RasterCacheState Unit CogMetadata (String × String)).lookup
      (Prod.mk cornerRequest.fabricName cornerRequest.adapterVersion)
      (windowFileName cornerRequest.kind cornerRequest.remotePath
        (cornerPrepared fourTileMetadata).window.cacheFragment)
      (fetchWindow layoutReader fourTileMetadata cornerRequest.remotePath
        (cornerPrepared fourTileMetadata))).run = .ok (.ok file) := by
    rw [lookup_of_none rfl]
    exact hfile
  have hobject : (empty cornerObjects : RasterCacheState Unit CogMetadata (String × String)).objects
      cornerRequest.store cornerRequest.remotePath = some fourTileMetadata := rfl
  have hcall : ((empty cornerObjects).getOrFetchWindow layoutReader .f64 Prod.mk
      cornerRequest).run = .ok (.ok (file, cornerServed file)) :=
    getOrFetchWindow_run_of_lookup hobject prepareWindow_fourTile hlookup
  show (step layoutReader .f64 Prod.mk (empty cornerObjects) (.call cornerRequest)).bind _ = _
  rw [step_call hcall]
  rfl

theorem second_call {file : WindowFile} {t : RasterCacheState Unit CogMetadata (String × String)}
    {object : CogMetadata} (hfiles : t.files = (cornerServed file).files)
    (hobject : t.objects cornerRequest.store cornerRequest.remotePath = some object)
    (hprepared : (prepareWindow layoutReader .f64 object cornerRequest.remotePath
      cornerRequest.kind cornerRequest.bbox).run = .ok (.ok (cornerPrepared object))) :
    ∃ t', (t.getOrFetchWindow layoutReader .f64 Prod.mk cornerRequest).run =
      .ok (.ok (file, t')) := by
  have hlookup : (t.lookup (Prod.mk cornerRequest.fabricName cornerRequest.adapterVersion) cornerName
      (fetchWindow layoutReader object cornerRequest.remotePath (cornerPrepared object))).run =
        .ok (.ok file) := by
    rw [lookup_of_some (by rw [hfiles]; exact cornerServed_files file)]
    rfl
  exact ⟨_, getOrFetchWindow_run_of_lookup hobject hprepared hlookup⟩

/-- Two calls that find one object. -/
theorem getOrFetchWindow_coherent_twice :
    ∃ file s', ((cornerServed file).getOrFetchWindow layoutReader .f64 Prod.mk cornerRequest).run =
        .ok (.ok (file, s')) ∧
      ∃ object, (cornerServed file).objects cornerRequest.store cornerRequest.remotePath =
          some object ∧
        Holds layoutReader .f64 object cornerRequest file := by
  obtain ⟨file, hfile⟩ := exists_fetchWindow_fourTile
  have hobject : (cornerServed file).objects cornerRequest.store cornerRequest.remotePath =
      some fourTileMetadata := rfl
  obtain ⟨s', hcall⟩ := second_call rfl hobject prepareWindow_fourTile
  have hfirst := run_first hfile
  have hguarded : Guarded (step layoutReader .f64 Prod.mk)
      (NoAlias layoutReader .f64 Prod.mk) (empty cornerObjects)
      ([.call cornerRequest] ++ [.call cornerRequest]) := by
    refine ⟨fun _ _ _ _ _ h => absurd h List.not_mem_nil, ?_⟩
    intro s hs
    have hs : s = cornerServed file := by
      obtain ⟨s'', hs'', hrun⟩ := run_cons_eq_some hfirst
      cases hrun
      rw [hs''] at hs
      exact (Option.some.inj hs).symm
    subst hs
    refine ⟨?_, by intro _ _; trivial⟩
    intro object prepared hobj _ served hserved _
    obtain rfl := List.mem_singleton.1 hserved
    rw [hobject] at hobj
    exact ⟨rfl, Option.some.inj hobj⟩
  exact ⟨file, s', hcall, getOrFetchWindow_coherent hguarded hfirst hcall⟩

/-- **A replaced object is served from the old file.** The second call of the run returns the file of
the first, with the geo-tags of the raster that is no longer there. -/
theorem not_getOrFetchWindow_coherent :
    ¬∀ (objects : Unit → String → Option CogMetadata)
      (actions : List (RasterCacheAction Unit CogMetadata)) (request : WindowRequest Unit)
      (s s' : RasterCacheState Unit CogMetadata (String × String)) (file : WindowFile),
      run (step layoutReader .f64 Prod.mk) (empty objects) actions = some s →
      (s.getOrFetchWindow layoutReader .f64 Prod.mk request).run = .ok (.ok (file, s')) →
      ∃ object, s.objects request.store request.remotePath = some object ∧
        Holds layoutReader .f64 object request file := by
  intro hall
  obtain ⟨file, hfile⟩ := exists_fetchWindow_fourTile
  have hfirst := run_first hfile
  let replaced : RasterCacheState Unit CogMetadata (String × String) :=
    { cornerServed file with
      objects := Function.update (cornerServed file).objects ()
        (Function.update ((cornerServed file).objects ()) "d8.tif" (some shiftedMetadata)) }
  have hrun : run (step layoutReader .f64 Prod.mk) (empty cornerObjects)
      ([.call cornerRequest] ++ [.put () "d8.tif" (some shiftedMetadata)]) = some replaced :=
    run_append hfirst
  have hobject : replaced.objects cornerRequest.store cornerRequest.remotePath =
      some shiftedMetadata := rfl
  have hfiles : replaced.files = (cornerServed file).files := rfl
  obtain ⟨s', hcall⟩ := second_call hfiles hobject prepareWindow_shifted
  obtain ⟨object, hobject', prepared, hprepared, hfetch⟩ := hall cornerObjects _ _ _ _ _ hrun hcall
  rw [hobject] at hobject'
  cases hobject'
  rw [prepareWindow_shifted] at hprepared
  cases hprepared
  have htags := (fetchWindow_tags hfile).symm.trans (fetchWindow_tags hfetch)
  exact absurd htags (by decide +kernel)

end RasterCacheState

end Pourpoint
