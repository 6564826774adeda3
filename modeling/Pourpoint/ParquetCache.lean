import Pourpoint.Library.Run
import Pourpoint.Library.Slots
import Pourpoint.Library.Success

/-!
# The caches of remote Parquet reads

`CachingReader` serves byte ranges and footers of one object from two caches that the readers of all
artifacts and sessions share. A cached value is keyed by the `ArtifactIdent` of the object, which the
store takes once, from the manifest and the HEAD response, when it opens the reader.

The system interleaves the calls of any number of readers at their cache accesses and awaits, with
evictions and with replacements of the remote objects. The identity omits the path of the object, and
all the snap files have one artifact name, so two objects can share it: a call then returns the bytes
of the other object (`not_cachedReads_transparent`). Where every read under the identity of a call was
of the content its own object has, every call returns what the inner reader returns
(`cachedReads_transparent`).
-/

namespace Pourpoint.ParquetCache

/-! ## Keys -/

/-- Which file a chunk is of. -/
inductive Artifact where
  /-- `"catchments.parquet"`. -/
  | catchments
  /-- `"snap.parquet"`, for each declared snap file. -/
  | snap
  deriving DecidableEq, Repr

/-- `ArtifactIdent`. The path of the object is no part of it. -/
structure ArtifactIdent where
  fabricName : String
  adapterVersion : String
  hfxFormatVersion : String
  artifact : Artifact
  fileSize : ℕ
  etag : Option String
  /-- Nanoseconds from `UNIX_EPOCH`. -/
  lastModified : ℤ
  deriving DecidableEq, Repr

/-- `Range<u64>`. -/
structure Range where
  start : UInt64
  stop : UInt64
  deriving DecidableEq, Repr

structure ChunkKey where
  ident : ArtifactIdent
  chunkOffset : UInt64
  chunkLength : UInt64
  deriving DecidableEq, Repr

/-- The key of a range. The subtraction wraps, as it does in a release build. -/
def chunkKey (ident : ArtifactIdent) (range : Range) : ChunkKey :=
  ⟨ident, range.start, range.stop - range.start⟩

/-- A key determines its identity and its range. -/
theorem chunkKey_inj {ident ident' : ArtifactIdent} {range range' : Range}
    (h : chunkKey ident range = chunkKey ident' range') : ident = ident' ∧ range = range' := by
  obtain ⟨start, stop⟩ := range
  obtain ⟨start', stop'⟩ := range'
  simp only [chunkKey, ChunkKey.mk.injEq] at h
  obtain ⟨hident, hstart, hlength⟩ := h
  subst hstart
  have hstop : stop = stop' := by simpa using hlength
  exact ⟨hident, by rw [hstop]⟩

/-! ## Objects and the inner reader -/

abbrev Bytes := List UInt8

/-- What a HEAD response tells about an object. -/
structure ObjectMeta where
  size : ℕ
  etag : Option String
  lastModified : ℤ
  deriving DecidableEq, Repr

/-- An object and what the store says about it. -/
structure RemoteObject where
  content : Bytes
  etag : Option String
  lastModified : ℤ
  deriving DecidableEq, Repr

/-- `head`. -/
def RemoteObject.head (object : RemoteObject) : ObjectMeta :=
  ⟨object.content.length, object.etag, object.lastModified⟩

/-- The errors of a read. -/
inductive ParquetError where
  | general (message : String)
  | external (message : String)
  deriving DecidableEq, Repr

/-- `ParquetObjectReader`, as a function of the content of its object. The footer is found from the
file size that the reader was made with. -/
structure InnerReader (Options Metadata : Type) where
  getBytes : Bytes → Range → Except ParquetError Bytes
  getByteRanges : Bytes → List Range → Except ParquetError (List Bytes)
  getMetadata : Bytes → ℕ → Option Options → Except ParquetError Metadata

namespace InnerReader

variable {Options Metadata : Type} (inner : InnerReader Options Metadata)

/-- The bytes of a range of the content, if the read succeeds. -/
def read (content : Bytes) (range : Range) : Option Bytes :=
  (inner.getBytes content range).toOption

/-- Several ranges are read as each of them is, in order. -/
def Lawful : Prop :=
  ∀ content ranges,
    (inner.getByteRanges content ranges).toOption = ranges.mapM (inner.read content)

end InnerReader

/-! ## Readers -/

/-- The fabric name, the adapter version and the format version of a manifest. -/
structure FabricInfo where
  fabricName : String
  adapterVersion : String
  hfxFormatVersion : String
  deriving DecidableEq, Repr

/-- Whether a store was given a row-group cache and a footer cache. -/
structure Caches where
  rowGroup : Bool
  footer : Bool
  deriving DecidableEq, Repr

/-- The cache identity that `open_object` of a store builds from the HEAD response. -/
def cacheIdent (artifact : Artifact) (fabricInfo : Option FabricInfo) (caches : Caches)
    (head : ObjectMeta) : Option ArtifactIdent :=
  let hasParquetCache := caches.rowGroup || caches.footer
  if hasParquetCache && head.etag.isNone && head.lastModified == 0 then none
  else if hasParquetCache then
    fabricInfo.map fun info =>
      { fabricName := info.fabricName
        adapterVersion := info.adapterVersion
        hfxFormatVersion := info.hfxFormatVersion
        artifact := artifact
        fileSize := head.size
        etag := head.etag
        lastModified := head.lastModified }
  else none

/-- A reader that a store made, with a cache identity or as the bare inner reader. -/
structure Reader (Location : Type) where
  location : Location
  fileSize : ℕ
  caches : Caches
  ident : Option ArtifactIdent
  deriving DecidableEq, Repr

/-- The reader that `open_object` of a store makes. -/
def openObject {Location : Type} (location : Location) (artifact : Artifact)
    (fabricInfo : Option FabricInfo) (caches : Caches) (head : ObjectMeta) : Reader Location :=
  ⟨location, head.size, caches, cacheIdent artifact fabricInfo caches head⟩

theorem cacheIdent_fileSize {artifact : Artifact} {fabricInfo : Option FabricInfo} {caches : Caches}
    {head : ObjectMeta} {ident : ArtifactIdent}
    (h : cacheIdent artifact fabricInfo caches head = some ident) : ident.fileSize = head.size := by
  unfold cacheIdent at h
  dsimp only at h
  split_ifs at h
  obtain ⟨info, -, hident⟩ := Option.map_eq_some_iff.1 h
  rw [← hident]

/-! ## Calls -/

/-- The three calls of a reader. -/
inductive Call (Options : Type) where
  | getBytes (range : Range)
  | getByteRanges (ranges : List Range)
  | getMetadata (options : Option Options)
  deriving DecidableEq, Repr

/-- What a call returns. -/
inductive Value (Metadata : Type) where
  | bytes (bytes : Bytes)
  | byteRanges (chunks : List Bytes)
  | metadata (metadata : Metadata)
  deriving DecidableEq, Repr

/-- The lists that `get_byte_ranges` builds. -/
structure RangeLookup where
  ordered : List (Option Bytes)
  missingIndexes : List ℕ
  missingKeys : List ChunkKey
  missingRanges : List Range
  deriving DecidableEq, Repr

/-- Where a call is. -/
inductive Phase (Options Metadata : Type) where
  /-- The call goes to the inner reader, without a cache. -/
  | inner
  /-- `cache.get` of `get_bytes` comes next. -/
  | lookupBytes (ident : ArtifactIdent) (range : Range)
  | fetchBytes (key : ChunkKey) (range : Range)
  | insertBytes (key : ChunkKey) (bytes : Bytes)
  /-- The loop of `get_byte_ranges` over the requested ranges. -/
  | lookupRanges (ident : ArtifactIdent) (lookup : RangeLookup) (rest : List (Range × ℕ))
  | fetchRanges (lookup : RangeLookup)
  /-- The loop of `get_byte_ranges` over the fetched ranges. -/
  | insertRanges (ordered : List (Option Bytes)) (rest : List ((ℕ × ChunkKey) × Bytes))
  | lookupMetadata (ident : ArtifactIdent) (options : Option Options)
  | fetchMetadata (ident : ArtifactIdent) (options : Option Options)
  | insertMetadata (ident : ArtifactIdent) (metadata : Metadata)
  | returned (result : Except ParquetError (Value Metadata))

/-- A call of a reader, with the object that the reader had when the call was made. -/
structure PendingCall (Location Options Metadata : Type) where
  reader : Reader Location
  call : Call Options
  object : RemoteObject
  phase : Phase Options Metadata

/-- The phase in which a call begins. -/
def Phase.start {Location Options Metadata : Type} (reader : Reader Location) :
    Call Options → Phase Options Metadata
  | .getBytes range =>
    match reader.ident, reader.caches.rowGroup with
    | some ident, true => .lookupBytes ident range
    | _, _ => .inner
  | .getByteRanges ranges =>
    match reader.ident, reader.caches.rowGroup with
    | some ident, true =>
      .lookupRanges ident ⟨List.replicate ranges.length none, [], [], []⟩ ranges.zipIdx
    | _, _ => .inner
  | .getMetadata options =>
    match reader.ident, reader.caches.footer with
    | some ident, true => .lookupMetadata ident options
    | _, _ => .inner

/-- What the call returns without a cache. -/
def uncached {Options Metadata : Type} (inner : InnerReader Options Metadata) (fileSize : ℕ)
    (content : Bytes) : Call Options → Except ParquetError (Value Metadata)
  | .getBytes range => (inner.getBytes content range).map .bytes
  | .getByteRanges ranges => (inner.getByteRanges content ranges).map .byteRanges
  | .getMetadata options => (inner.getMetadata content fileSize options).map .metadata

/-- The body of the loop over the requested ranges. -/
def RangeLookup.visit (lookup : RangeLookup) (key : ChunkKey) (range : Range) (index : ℕ) :
    Option Bytes → RangeLookup
  | some bytes => { lookup with ordered := lookup.ordered.set index (some bytes) }
  | none =>
    { lookup with
      missingIndexes := lookup.missingIndexes ++ [index]
      missingKeys := lookup.missingKeys ++ [key]
      missingRanges := lookup.missingRanges ++ [range] }

/-- All the ranges in order, or an error if one of them is absent. -/
def collectOrdered (message : String) (ordered : List (Option Bytes)) :
    Except ParquetError (List Bytes) :=
  ordered.mapM fun bytes =>
    match bytes with
    | some bytes => .ok bytes
    | none => .error (.general message)

/-! ## The system -/

/-- The two caches. The reads are not in the code: they record under which identity which content was
read into the caches, and a footer with which options. -/
structure Shared (Options Metadata : Type) where
  chunks : ChunkKey → Option Bytes
  footers : ArtifactIdent → Option Metadata
  chunkReads : List (ArtifactIdent × Bytes)
  footerReads : List (ArtifactIdent × Bytes × Option Options)

section Steps

variable {Location Options Metadata : Type} [DecidableEq Location] [DecidableEq Options]

/-- One step of a call: a cache access, or the await of a read of the content. -/
def Phase.advance (inner : InnerReader Options Metadata) (shared : Shared Options Metadata)
    (fileSize : ℕ) (content : Bytes) (call : Call Options) :
    Phase Options Metadata → Option (Shared Options Metadata × Phase Options Metadata)
  | .inner => some (shared, .returned (uncached inner fileSize content call))
  | .lookupBytes ident range =>
    match shared.chunks (chunkKey ident range) with
    | some bytes => some (shared, .returned (.ok (.bytes bytes)))
    | none => some (shared, .fetchBytes (chunkKey ident range) range)
  | .fetchBytes key range =>
    match inner.getBytes content range with
    | .error error => some (shared, .returned (.error error))
    | .ok bytes =>
      some ({ shared with chunkReads := (key.ident, content) :: shared.chunkReads },
        .insertBytes key bytes)
  | .insertBytes key bytes =>
    some ({ shared with chunks := Function.update shared.chunks key (some bytes) },
      .returned (.ok (.bytes bytes)))
  | .lookupRanges ident lookup ((range, index) :: rest) =>
    let key := chunkKey ident range
    some (shared, .lookupRanges ident (lookup.visit key range index (shared.chunks key)) rest)
  | .lookupRanges _ lookup [] =>
    if lookup.missingRanges.length = 0 then
      let result := collectOrdered "cache hit assembly omitted a requested byte range" lookup.ordered
      some (shared, .returned (result.map .byteRanges))
    else some (shared, .fetchRanges lookup)
  | .fetchRanges lookup =>
    match inner.getByteRanges content lookup.missingRanges with
    | .error error => some (shared, .returned (.error error))
    | .ok fetched =>
      if fetched.length ≠ lookup.missingRanges.length then
        let message := "inner reader returned " ++ toString fetched.length ++ " byte ranges for " ++
          toString lookup.missingRanges.length ++ " requested ranges"
        some (shared, .returned (.error (.general message)))
      else
        let reads := lookup.missingKeys.map fun key => (key.ident, content)
        some ({ shared with chunkReads := reads ++ shared.chunkReads },
          .insertRanges lookup.ordered ((lookup.missingIndexes.zip lookup.missingKeys).zip fetched))
  | .insertRanges ordered (((index, key), bytes) :: rest) =>
    some ({ shared with chunks := Function.update shared.chunks key (some bytes) },
      .insertRanges (ordered.set index (some bytes)) rest)
  | .insertRanges ordered [] =>
    let result := collectOrdered "inner reader returned fewer byte ranges than requested" ordered
    some (shared, .returned (result.map .byteRanges))
  | .lookupMetadata ident options =>
    match shared.footers ident with
    | some metadata => some (shared, .returned (.ok (.metadata metadata)))
    | none => some (shared, .fetchMetadata ident options)
  | .fetchMetadata ident options =>
    match inner.getMetadata content fileSize options with
    | .error error => some (shared, .returned (.error error))
    | .ok metadata =>
      some ({ shared with footerReads := (ident, content, options) :: shared.footerReads },
        .insertMetadata ident metadata)
  | .insertMetadata ident metadata =>
    some ({ shared with footers := Function.update shared.footers ident (some metadata) },
      .returned (.ok (.metadata metadata)))
  | .returned _ => none

/-- The objects, the caches and the calls under way. -/
structure State (Location Options Metadata : Type) where
  /-- The objects put so far, the latest first. -/
  puts : List (Location × RemoteObject)
  readers : List (Reader Location)
  shared : Shared Options Metadata
  calls : List (PendingCall Location Options Metadata)

/-- What can happen next. -/
inductive Action (Location Options : Type) where
  /-- An object is put at a path, or replaced. -/
  | put (location : Location) (object : RemoteObject)
  /-- A store opens a reader, with the HEAD response of the object or one taken before. -/
  | openObject (location : Location) (artifact : Artifact) (fabricInfo : Option FabricInfo)
      (caches : Caches) (head : ObjectMeta)
  | call (reader : ℕ) (call : Call Options)
  /-- The call makes one step. -/
  | advance (i : ℕ)
  | evictChunk (key : ChunkKey)
  | evictFooter (ident : ArtifactIdent)
  deriving DecidableEq, Repr

namespace State

def initial : State Location Options Metadata :=
  ⟨[], [], ⟨fun _ => none, fun _ => none, [], []⟩, []⟩

/-- The object now at a path. -/
def objectAt (s : State Location Options Metadata) (location : Location) : Option RemoteObject :=
  (s.puts.find? fun put => put.1 = location).map Prod.snd

/-- One action, where it is possible. -/
def step (inner : InnerReader Options Metadata) (s : State Location Options Metadata) :
    Action Location Options → Option (State Location Options Metadata)
  | .put location object => some { s with puts := (location, object) :: s.puts }
  | .openObject location artifact fabricInfo caches head =>
    if ∃ put ∈ s.puts, put.1 = location ∧ put.2.head = head then
      let reader := ParquetCache.openObject location artifact fabricInfo caches head
      some { s with readers := s.readers ++ [reader] }
    else none
  | .call i call =>
    match s.readers[i]? with
    | none => none
    | some reader =>
      match s.objectAt reader.location with
      | none => none
      | some object =>
        some { s with calls := s.calls ++ [⟨reader, call, object, .start reader call⟩] }
  | .advance i =>
    match s.calls[i]? with
    | none => none
    | some pending =>
      match s.objectAt pending.reader.location with
      | none => none
      | some object =>
        match pending.phase.advance inner s.shared pending.reader.fileSize object.content
            pending.call with
        | none => none
        | some (shared, phase) =>
          some { s with shared := shared, calls := s.calls.set i { pending with phase := phase } }
  | .evictChunk key =>
    some { s with shared := { s.shared with chunks := Function.update s.shared.chunks key none } }
  | .evictFooter ident =>
    some { s with shared := { s.shared with footers := Function.update s.shared.footers ident none } }

end State

/-! ## The condition and the property -/

/-- The lookup of the phase finds only what was read from the content: every earlier read under its
identity was of that content, and a footer was read with the same options. -/
def Phase.Separate (shared : Shared Options Metadata) (content : Bytes) :
    Phase Options Metadata → Prop
  | .lookupBytes ident _ | .lookupRanges ident _ (_ :: _) =>
    ∀ read ∈ shared.chunkReads, read.1 = ident → read.2 = content
  | .lookupMetadata ident options =>
    ∀ read ∈ shared.footerReads, read.1 = ident → read.2 = (content, options)
  | _ => True

/-- The call has returned. -/
def Phase.isReturned : Phase Options Metadata → Bool
  | .returned _ => true
  | _ => false

/-- The lookups of a call find only what was read from the content of its own object, and no object is
replaced while a call reads it. -/
def State.Separate (s : State Location Options Metadata) : Action Location Options → Prop
  | .put location _ =>
    ∀ pending ∈ s.calls, pending.phase.isReturned = false → pending.reader.location ≠ location
  | .advance i =>
    ∀ pending ∈ s.calls[i]?, pending.phase.Separate s.shared pending.object.content
  | _ => True

/-- An object that replaces another content differs from it in size, ETag or modification time. -/
def State.PutChangesHead (s : State Location Options Metadata) : Action Location Options → Prop
  | .put location object =>
    ∀ old ∈ s.puts, old.1 = location → old.2.content ≠ object.content → old.2.head ≠ object.head
  | _ => True

instance (shared : Shared Options Metadata) (content : Bytes) (phase : Phase Options Metadata) :
    Decidable (phase.Separate shared content) :=
  match phase with
  | .lookupBytes ident _ | .lookupRanges ident _ (_ :: _) =>
    inferInstanceAs (Decidable (∀ read ∈ shared.chunkReads, read.1 = ident → read.2 = content))
  | .lookupMetadata ident options => inferInstanceAs
    (Decidable (∀ read ∈ shared.footerReads, read.1 = ident → read.2 = (content, options)))
  | .inner | .fetchBytes _ _ | .insertBytes _ _ | .lookupRanges _ _ [] | .fetchRanges _
  | .insertRanges _ _ | .fetchMetadata _ _ | .insertMetadata _ _ | .returned _ => isTrue trivial

instance (s : State Location Options Metadata) (action : Action Location Options) :
    Decidable (s.Separate action) :=
  match action with
  | .put location _ => inferInstanceAs (Decidable (∀ pending ∈ s.calls,
      pending.phase.isReturned = false → pending.reader.location ≠ location))
  | .advance i => inferInstanceAs (Decidable (∀ pending ∈ s.calls[i]?,
      pending.phase.Separate s.shared pending.object.content))
  | .openObject _ _ _ _ _ | .call _ _ | .evictChunk _ | .evictFooter _ => isTrue trivial

instance (s : State Location Options Metadata) (action : Action Location Options) :
    Decidable (s.PutChangesHead action) :=
  match action with
  | .put location object => inferInstanceAs (Decidable (∀ old ∈ s.puts,
      old.1 = location → old.2.content ≠ object.content → old.2.head ≠ object.head))
  | .openObject _ _ _ _ _ | .call _ _ | .advance _ | .evictChunk _ | .evictFooter _ => isTrue trivial

/-- Every call that returned has returned what its inner reader returns. -/
def State.Transparent (inner : InnerReader Options Metadata) (s : State Location Options Metadata) :
    Prop :=
  ∀ pending ∈ s.calls, ∀ result, pending.phase = .returned result →
    result.toOption =
      (uncached inner pending.reader.fileSize pending.object.content pending.call).toOption

/-! ## The invariant -/

omit [DecidableEq Location] [DecidableEq Options]

open Library

/-- What the caches hold was read under its key. -/
structure Shared.Ok (inner : InnerReader Options Metadata) (shared : Shared Options Metadata) :
    Prop where
  chunks : ∀ ident range bytes, shared.chunks (chunkKey ident range) = some bytes →
    ∃ content, (ident, content) ∈ shared.chunkReads ∧ inner.read content range = some bytes
  footers : ∀ ident metadata, shared.footers ident = some metadata →
    ∃ content options, (ident, content, options) ∈ shared.footerReads ∧
      inner.getMetadata content ident.fileSize options = .ok metadata

/-- The lists of `get_byte_ranges` while the ranges `rest` are still to be looked up. -/
structure RangeLookup.Ok (f : Range → Option Bytes) (ident : ArtifactIdent) (ranges : List Range)
    (lookup : RangeLookup) (rest missing : List (Range × ℕ)) : Prop where
  slots : Slots f ranges lookup.ordered (missing.map Prod.snd ++ rest.map Prod.snd)
  indexes_eq : lookup.missingIndexes = missing.map Prod.snd
  keys_eq : lookup.missingKeys = missing.map fun pair => chunkKey ident pair.1
  ranges_eq : lookup.missingRanges = missing.map Prod.fst
  valid : ∀ pair ∈ missing ++ rest, ranges[pair.2]? = some pair.1

/-- The values of the ranges that `get_byte_ranges` has fetched and not yet inserted. -/
def Fetched (f : Range → Option Bytes) (ident : ArtifactIdent) (ranges : List Range)
    (rest : List ((ℕ × ChunkKey) × Bytes)) : Prop :=
  ∀ item ∈ rest, ∃ range,
    ranges[item.1.1]? = some range ∧ item.1.2 = chunkKey ident range ∧ f range = some item.2

/-- What holds of a call in each of its phases, while its object has the content. -/
def Phase.Ok (inner : InnerReader Options Metadata) (shared : Shared Options Metadata)
    (fileSize : ℕ) (content : Bytes) (call : Call Options) : Phase Options Metadata → Prop
  | .inner => True
  | .lookupBytes _ range => call = .getBytes range
  | .fetchBytes key range => call = .getBytes range ∧ ∃ ident, key = chunkKey ident range
  | .insertBytes key bytes =>
    ∃ ident range, key = chunkKey ident range ∧ call = .getBytes range ∧
      inner.read content range = some bytes ∧ (ident, content) ∈ shared.chunkReads
  | .lookupRanges ident lookup rest =>
    ∃ ranges missing, call = .getByteRanges ranges ∧
      lookup.Ok (inner.read content) ident ranges rest missing
  | .fetchRanges lookup =>
    ∃ ident ranges missing, call = .getByteRanges ranges ∧
      lookup.Ok (inner.read content) ident ranges [] missing
  | .insertRanges ordered rest =>
    ∃ ident ranges, call = .getByteRanges ranges ∧
      Slots (inner.read content) ranges ordered (rest.map fun item => item.1.1) ∧
      Fetched (inner.read content) ident ranges rest ∧
      (rest ≠ [] → (ident, content) ∈ shared.chunkReads)
  | .lookupMetadata ident options => call = .getMetadata options ∧ ident.fileSize = fileSize
  | .fetchMetadata ident options => call = .getMetadata options ∧ ident.fileSize = fileSize
  | .insertMetadata ident metadata =>
    ∃ options, call = .getMetadata options ∧
      inner.getMetadata content ident.fileSize options = .ok metadata ∧ ident.fileSize = fileSize ∧
      (ident, content, options) ∈ shared.footerReads
  | .returned result => result.toOption = (uncached inner fileSize content call).toOption

/-- The reads only grow. -/
def Shared.Grows (shared shared' : Shared Options Metadata) : Prop :=
  shared.chunkReads ⊆ shared'.chunkReads ∧ shared.footerReads ⊆ shared'.footerReads

theorem Shared.Grows.refl (shared : Shared Options Metadata) : shared.Grows shared :=
  ⟨List.Subset.refl _, List.Subset.refl _⟩

theorem Phase.Ok.mono {inner : InnerReader Options Metadata}
    {shared shared' : Shared Options Metadata} {fileSize : ℕ} {content : Bytes}
    {call : Call Options} {phase : Phase Options Metadata} (hgrows : shared.Grows shared')
    (h : phase.Ok inner shared fileSize content call) :
    phase.Ok inner shared' fileSize content call := by
  cases phase with
  | insertBytes key bytes =>
    obtain ⟨ident, range, hkey, hcall, hread, hmem⟩ := h
    exact ⟨ident, range, hkey, hcall, hread, hgrows.1 hmem⟩
  | insertRanges ordered rest =>
    obtain ⟨ident, ranges, hcall, hslots, hfetched, hmem⟩ := h
    exact ⟨ident, ranges, hcall, hslots, hfetched, fun hne => hgrows.1 (hmem hne)⟩
  | insertMetadata ident metadata =>
    obtain ⟨options, hcall, hread, hsize, hmem⟩ := h
    exact ⟨options, hcall, hread, hsize, hgrows.2 hmem⟩
  | _ => exact h

/-! ### The caches -/

namespace Shared.Ok

variable {inner : InnerReader Options Metadata} {shared : Shared Options Metadata}

/-- A fill with what was read keeps the caches sound. -/
theorem insertChunk (h : shared.Ok inner) {ident : ArtifactIdent} {range : Range} {content : Bytes}
    {bytes : Bytes} (hmem : (ident, content) ∈ shared.chunkReads)
    (hread : inner.read content range = some bytes) :
    Shared.Ok inner
      { shared with chunks := Function.update shared.chunks (chunkKey ident range) (some bytes) } where
  chunks := by
    intro ident' range' bytes' hchunk
    dsimp only at hchunk
    by_cases hkey : chunkKey ident' range' = chunkKey ident range
    · rw [hkey, Function.update_self] at hchunk
      obtain ⟨rfl, rfl⟩ := chunkKey_inj hkey
      cases hchunk
      exact ⟨content, hmem, hread⟩
    · rw [Function.update_of_ne hkey] at hchunk
      exact h.chunks ident' range' bytes' hchunk
  footers := h.footers

theorem insertFooter (h : shared.Ok inner) {ident : ArtifactIdent} {content : Bytes}
    {options : Option Options} {metadata : Metadata}
    (hmem : (ident, content, options) ∈ shared.footerReads)
    (hread : inner.getMetadata content ident.fileSize options = .ok metadata) :
    Shared.Ok inner
      { shared with footers := Function.update shared.footers ident (some metadata) } where
  chunks := h.chunks
  footers := by
    intro ident' metadata' hfooter
    dsimp only at hfooter
    by_cases hident : ident' = ident
    · subst hident
      rw [Function.update_self] at hfooter
      cases hfooter
      exact ⟨content, options, hmem, hread⟩
    · rw [Function.update_of_ne hident] at hfooter
      exact h.footers ident' metadata' hfooter

theorem evictChunk (h : shared.Ok inner) (key : ChunkKey) :
    Shared.Ok inner { shared with chunks := Function.update shared.chunks key none } where
  chunks := by
    intro ident range bytes hchunk
    dsimp only at hchunk
    by_cases hkey : chunkKey ident range = key
    · rw [hkey, Function.update_self] at hchunk
      cases hchunk
    · rw [Function.update_of_ne hkey] at hchunk
      exact h.chunks ident range bytes hchunk
  footers := h.footers

theorem evictFooter (h : shared.Ok inner) (ident : ArtifactIdent) :
    Shared.Ok inner { shared with footers := Function.update shared.footers ident none } where
  chunks := h.chunks
  footers := by
    intro ident' metadata hfooter
    dsimp only at hfooter
    by_cases hident : ident' = ident
    · rw [hident, Function.update_self] at hfooter
      cases hfooter
    · rw [Function.update_of_ne hident] at hfooter
      exact h.footers ident' metadata hfooter

theorem addReads (h : shared.Ok inner) {chunkReads : List (ArtifactIdent × Bytes)}
    {footerReads : List (ArtifactIdent × Bytes × Option Options)}
    (hchunks : shared.chunkReads ⊆ chunkReads) (hfooters : shared.footerReads ⊆ footerReads) :
    Shared.Ok inner { shared with chunkReads := chunkReads, footerReads := footerReads } where
  chunks := by
    intro ident range bytes hchunk
    obtain ⟨content, hmem, hread⟩ := h.chunks ident range bytes hchunk
    exact ⟨content, hchunks hmem, hread⟩
  footers := by
    intro ident metadata hfooter
    obtain ⟨content, options, hmem, hread⟩ := h.footers ident metadata hfooter
    exact ⟨content, options, hfooters hmem, hread⟩

end Shared.Ok

/-! ### The lists of `get_byte_ranges` -/

theorem toOption_collectOrdered (message : String) (ordered : List (Option Bytes)) :
    (collectOrdered message ordered).toOption = ordered.mapM id := by
  rw [collectOrdered, toOption_mapM]
  congr 1
  funext bytes
  cases bytes <;> rfl

theorem toOption_collectOrdered_of_slots {inner : InnerReader Options Metadata}
    (hlaw : inner.Lawful) {content : Bytes} {ranges : List Range} {ordered : List (Option Bytes)}
    (hslots : Slots (inner.read content) ranges ordered []) (message : String) :
    (collectOrdered message ordered).toOption =
      (inner.getByteRanges content ranges).toOption := by
  rw [toOption_collectOrdered, hlaw, hslots.eq_map, List.mapM_map]
  rfl

theorem RangeLookup.ok_start (f : Range → Option Bytes) (ident : ArtifactIdent)
    (ranges : List Range) :
    RangeLookup.Ok f ident ranges ⟨List.replicate ranges.length none, [], [], []⟩
      ranges.zipIdx [] where
  slots := Slots.replicate f ranges
  indexes_eq := rfl
  keys_eq := rfl
  ranges_eq := rfl
  valid := by
    intro pair hpair
    exact List.mk_mem_zipIdx_iff_getElem?.1 hpair

/-- The loop body fills the slot of a hit and remembers a miss. -/
theorem RangeLookup.Ok.visit {f : Range → Option Bytes} {ident : ArtifactIdent}
    {ranges : List Range} {lookup : RangeLookup} {range : Range} {index : ℕ}
    {rest missing : List (Range × ℕ)}
    (h : lookup.Ok f ident ranges ((range, index) :: rest) missing) {found : Option Bytes}
    (hfound : ∀ bytes, found = some bytes → f range = some bytes) :
    ∃ missing', (lookup.visit (chunkKey ident range) range index found).Ok f ident ranges rest
      missing' := by
  have hrange : ranges[index]? = some range := h.valid (range, index) (by simp)
  cases found with
  | some bytes =>
    refine ⟨missing, ?_, h.indexes_eq, h.keys_eq, h.ranges_eq, ?_⟩
    · apply h.slots.set hrange (hfound bytes rfl)
      intro j hj
      simp only [List.map_cons, List.mem_append, List.mem_cons] at hj ⊢
      tauto
    · intro pair hpair
      apply h.valid
      simp only [List.mem_append, List.mem_cons] at hpair ⊢
      tauto
  | none =>
    refine ⟨missing ++ [(range, index)], ?_, ?_, ?_, ?_, ?_⟩
    · apply h.slots.mono
      intro j hj
      simpa using hj
    · simp [RangeLookup.visit, h.indexes_eq]
    · simp [RangeLookup.visit, h.keys_eq]
    · simp [RangeLookup.visit, h.ranges_eq]
    · intro pair hpair
      apply h.valid
      simpa using hpair

theorem zip_fetched {f : Range → Option Bytes} {key : Range → ChunkKey}
    {missing : List (Range × ℕ)} {fetched : List Bytes}
    (h : (missing.map Prod.fst).mapM f = some fetched) :
    (((missing.map Prod.snd).zip (missing.map fun pair => key pair.1)).zip fetched).map
        (fun item => (item.1, some item.2)) =
      missing.map fun pair => ((pair.2, key pair.1), f pair.1) := by
  induction missing generalizing fetched with
  | nil => rfl
  | cons pair missing ih =>
    rw [List.map_cons, List.mapM_cons] at h
    obtain ⟨bytes, hbytes, h⟩ := Option.bind_eq_some_iff.1 h
    obtain ⟨tail, htail, h⟩ := Option.bind_eq_some_iff.1 h
    cases h
    simp only [List.map_cons, List.zip_cons_cons, ih htail, hbytes]

/-- What was fetched for the missing ranges belongs to them. -/
theorem RangeLookup.Ok.fetched {f : Range → Option Bytes} {ident : ArtifactIdent}
    {ranges : List Range} {lookup : RangeLookup} {missing : List (Range × ℕ)}
    (h : lookup.Ok f ident ranges [] missing) {fetched : List Bytes}
    (hfetched : lookup.missingRanges.mapM f = some fetched) :
    let rest := (lookup.missingIndexes.zip lookup.missingKeys).zip fetched
    Slots f ranges lookup.ordered (rest.map fun item => item.1.1) ∧ Fetched f ident ranges rest := by
  intro rest
  rw [h.ranges_eq] at hfetched
  have hzip : rest.map (fun item => (item.1, some item.2)) =
      missing.map fun pair => ((pair.2, chunkKey ident pair.1), f pair.1) := by
    simp only [rest, h.indexes_eq, h.keys_eq]
    exact zip_fetched hfetched
  constructor
  · have hindexes : rest.map (fun item => item.1.1) = missing.map Prod.snd := by
      have hfst := congrArg (List.map fun x => x.1.1) hzip
      rw [List.map_map, List.map_map] at hfst
      exact hfst
    rw [hindexes]
    apply h.slots.mono
    intro j hj
    simpa using hj
  · intro item hitem
    have hmem : (item.1, some item.2) ∈
        missing.map fun pair => ((pair.2, chunkKey ident pair.1), f pair.1) := by
      rw [← hzip]
      exact List.mem_map_of_mem hitem
    obtain ⟨pair, hpair, heq⟩ := List.mem_map.1 hmem
    obtain ⟨hfst, hsnd⟩ := Prod.mk.inj heq
    rw [← hfst]
    exact ⟨pair.1, h.valid pair (by simpa using hpair), rfl, hsnd⟩

/-- A range that the inner reader cannot read fails all the requested ranges. -/
theorem RangeLookup.Ok.mapM_eq_none {f : Range → Option Bytes} {ident : ArtifactIdent}
    {ranges : List Range} {lookup : RangeLookup} {missing : List (Range × ℕ)}
    (h : lookup.Ok f ident ranges [] missing) (hnone : lookup.missingRanges.mapM f = none) :
    ranges.mapM f = none := by
  by_contra hne
  obtain ⟨chunks, hchunks⟩ := Option.ne_none_iff_exists'.1 hne
  have hall := (mapM_eq_some_iff.1 hchunks).1
  have hsome := mapM_of_isSome (f := f) (l := lookup.missingRanges) fun range hrange => by
    rw [h.ranges_eq] at hrange
    obtain ⟨pair, hpair, rfl⟩ := List.mem_map.1 hrange
    exact hall pair.1 (List.mem_of_getElem? (h.valid pair (by simpa using hpair)))
  rw [hnone] at hsome
  cases hsome

/-! ### Steps of a call -/

section Advance

variable {inner : InnerReader Options Metadata} {shared : Shared Options Metadata} {fileSize : ℕ}
  {content : Bytes} {call : Call Options}

/-- The caches stay sound, the reads grow, and the next phase is as it should be. -/
def Kept (inner : InnerReader Options Metadata) (shared : Shared Options Metadata) (fileSize : ℕ)
    (content : Bytes) (call : Call Options)
    (next : Shared Options Metadata × Phase Options Metadata) : Prop :=
  next.1.Ok inner ∧ shared.Grows next.1 ∧ next.2.Ok inner next.1 fileSize content call

theorem Kept.of_ok {phase : Phase Options Metadata} (hshared : shared.Ok inner)
    (hphase : phase.Ok inner shared fileSize content call) :
    Kept inner shared fileSize content call (shared, phase) :=
  ⟨hshared, .refl shared, hphase⟩

/-- A hit under an identity whose reads were all of the content is the range of the content. -/
theorem read_of_chunk (hshared : shared.Ok inner) {ident : ArtifactIdent}
    (hsep : ∀ read ∈ shared.chunkReads, read.1 = ident → read.2 = content) {range : Range}
    {bytes : Bytes} (hchunk : shared.chunks (chunkKey ident range) = some bytes) :
    inner.read content range = some bytes := by
  obtain ⟨content', hmem, hread⟩ := hshared.chunks ident range bytes hchunk
  have heq : content' = content := hsep _ hmem rfl
  rwa [heq] at hread

theorem kept_lookupBytes (hshared : shared.Ok inner) {ident : ArtifactIdent} {range : Range}
    (hphase : (Phase.lookupBytes ident range).Ok inner shared fileSize content call)
    (hsep : (Phase.lookupBytes ident range : Phase Options Metadata).Separate shared content)
    {next : Shared Options Metadata × Phase Options Metadata}
    (h : (Phase.lookupBytes ident range).advance inner shared fileSize content call = some next) :
    Kept inner shared fileSize content call next := by
  have hcall : call = .getBytes range := hphase
  simp only [Phase.advance] at h
  cases hchunk : shared.chunks (chunkKey ident range) with
  | none =>
    rw [hchunk] at h
    cases h
    exact .of_ok hshared ⟨hcall, ident, rfl⟩
  | some bytes =>
    rw [hchunk] at h
    cases h
    have hread := read_of_chunk hshared hsep hchunk
    apply Kept.of_ok hshared
    rw [hcall]
    have hok : inner.getBytes content range = .ok bytes := toOption_eq_some_iff.1 hread
    simp [Phase.Ok, uncached, hok, Except.map]

theorem kept_fetchBytes (hshared : shared.Ok inner) {key : ChunkKey} {range : Range}
    (hphase : (Phase.fetchBytes key range).Ok inner shared fileSize content call)
    {next : Shared Options Metadata × Phase Options Metadata}
    (h : (Phase.fetchBytes key range).advance inner shared fileSize content call = some next) :
    Kept inner shared fileSize content call next := by
  obtain ⟨hcall, ident, hkey⟩ := hphase
  simp only [Phase.advance] at h
  cases hread : inner.getBytes content range with
  | error error =>
    rw [hread] at h
    cases h
    apply Kept.of_ok hshared
    simp [Phase.Ok, hcall, uncached, hread, Except.map]
  | ok bytes =>
    rw [hread] at h
    cases h
    refine ⟨hshared.addReads (List.subset_cons_self _ _) (List.Subset.refl _),
      ⟨List.subset_cons_self _ _, List.Subset.refl _⟩, ident, range, hkey, hcall, ?_, ?_⟩
    · rw [InnerReader.read, hread]
      rfl
    · rw [hkey]
      exact List.mem_cons_self

theorem kept_insertBytes (hshared : shared.Ok inner) {key : ChunkKey} {bytes : Bytes}
    (hphase : (Phase.insertBytes key bytes).Ok inner shared fileSize content call)
    {next : Shared Options Metadata × Phase Options Metadata}
    (h : (Phase.insertBytes key bytes).advance inner shared fileSize content call = some next) :
    Kept inner shared fileSize content call next := by
  obtain ⟨ident, range, rfl, hcall, hread, hmem⟩ := hphase
  cases h
  refine ⟨hshared.insertChunk hmem hread, ⟨List.Subset.refl _, List.Subset.refl _⟩, ?_⟩
  have hok : inner.getBytes content range = .ok bytes := toOption_eq_some_iff.1 hread
  simp [Phase.Ok, hcall, uncached, hok, Except.map]

theorem kept_lookupRanges (hlaw : inner.Lawful) (hshared : shared.Ok inner) {ident : ArtifactIdent}
    {lookup : RangeLookup} {rest : List (Range × ℕ)}
    (hphase : (Phase.lookupRanges ident lookup rest).Ok inner shared fileSize content call)
    (hsep : (Phase.lookupRanges ident lookup rest : Phase Options Metadata).Separate shared content)
    {next : Shared Options Metadata × Phase Options Metadata}
    (h : (Phase.lookupRanges ident lookup rest).advance inner shared fileSize content call =
      some next) :
    Kept inner shared fileSize content call next := by
  obtain ⟨ranges, missing, hcall, hlookup⟩ := hphase
  cases rest with
  | cons pair rest =>
    cases h
    have hread : ∀ bytes, shared.chunks (chunkKey ident pair.1) = some bytes →
        inner.read content pair.1 = some bytes := fun bytes hchunk =>
      read_of_chunk hshared hsep hchunk
    obtain ⟨missing', hvisit⟩ := hlookup.visit hread
    exact .of_ok hshared ⟨ranges, missing', hcall, hvisit⟩
  | nil =>
    simp only [Phase.advance] at h
    split_ifs at h with hnone
    · cases h
      apply Kept.of_ok hshared
      -- nothing is missing, so no slot is left empty
      have hmissing : missing = [] := by
        simpa [hlookup.ranges_eq] using hnone
      have hslots := hlookup.slots
      rw [hmissing] at hslots
      have hcollect := toOption_collectOrdered_of_slots hlaw hslots
        "cache hit assembly omitted a requested byte range"
      show Except.toOption (Value.byteRanges <$> _) = _
      rw [toOption_map, hcollect, hcall]
      exact (toOption_map _ _).symm
    · cases h
      exact .of_ok hshared ⟨ident, ranges, missing, hcall, hlookup⟩

theorem kept_fetchRanges (hlaw : inner.Lawful) (hshared : shared.Ok inner) {lookup : RangeLookup}
    (hphase : (Phase.fetchRanges lookup).Ok inner shared fileSize content call)
    {next : Shared Options Metadata × Phase Options Metadata}
    (h : (Phase.fetchRanges lookup).advance inner shared fileSize content call = some next) :
    Kept inner shared fileSize content call next := by
  obtain ⟨ident, ranges, missing, hcall, hlookup⟩ := hphase
  have hmissing := hlaw content lookup.missingRanges
  simp only [Phase.advance] at h
  cases hread : inner.getByteRanges content lookup.missingRanges with
  | error error =>
    rw [hread] at h hmissing
    cases h
    apply Kept.of_ok hshared
    have hnone := hlookup.mapM_eq_none hmissing.symm
    rw [← hlaw] at hnone
    show none = _
    rw [hcall]
    show none = Except.toOption (Value.byteRanges <$> _)
    rw [toOption_map, hnone]
    rfl
  | ok fetched =>
    rw [hread] at h hmissing
    have hlength : fetched.length = lookup.missingRanges.length := by
      obtain ⟨hall, hvalues⟩ := mapM_eq_some_iff.1 hmissing.symm
      rw [← hvalues, List.filterMap_length_eq_length]
      exact hall
    simp only [if_neg (not_not.2 hlength)] at h
    cases h
    obtain ⟨hslots, hfetched⟩ := hlookup.fetched hmissing.symm
    refine ⟨hshared.addReads (List.subset_append_right _ _) (List.Subset.refl _),
      ⟨List.subset_append_right _ _, List.Subset.refl _⟩, ident, ranges, hcall, hslots, hfetched, ?_⟩
    intro hne
    apply List.mem_append_left
    obtain ⟨item, hitem⟩ := List.exists_mem_of_ne_nil _ hne
    obtain ⟨range, -, hkey, -⟩ := hfetched item hitem
    have hmem : item.1.2 ∈ lookup.missingKeys :=
      (List.of_mem_zip (List.of_mem_zip hitem).1).2
    exact List.mem_map.2 ⟨item.1.2, hmem, by rw [hkey]; rfl⟩

theorem kept_insertRanges (hlaw : inner.Lawful) (hshared : shared.Ok inner)
    {ordered : List (Option Bytes)} {rest : List ((ℕ × ChunkKey) × Bytes)}
    (hphase : (Phase.insertRanges ordered rest).Ok inner shared fileSize content call)
    {next : Shared Options Metadata × Phase Options Metadata}
    (h : (Phase.insertRanges ordered rest).advance inner shared fileSize content call = some next) :
    Kept inner shared fileSize content call next := by
  obtain ⟨ident, ranges, hcall, hslots, hfetched, hmem⟩ := hphase
  cases rest with
  | nil =>
    cases h
    apply Kept.of_ok hshared
    have hcollect := toOption_collectOrdered_of_slots hlaw hslots
      "inner reader returned fewer byte ranges than requested"
    show Except.toOption (Value.byteRanges <$> _) = _
    rw [toOption_map, hcollect, hcall]
    exact (toOption_map _ _).symm
  | cons item rest =>
    obtain ⟨⟨index, key⟩, bytes⟩ := item
    cases h
    obtain ⟨range, hrange, hkey, hread⟩ := hfetched ((index, key), bytes) List.mem_cons_self
    dsimp only at hkey hrange hread
    subst hkey
    have hread' := hmem (List.cons_ne_nil _ _)
    refine ⟨hshared.insertChunk hread' hread, ⟨List.Subset.refl _, List.Subset.refl _⟩, ident, ranges,
      hcall, ?_, fun item hitem => hfetched item (List.mem_cons_of_mem _ hitem), fun _ => hread'⟩
    apply hslots.set hrange hread
    intro j hj
    exact List.mem_cons.1 hj

theorem kept_lookupMetadata (hshared : shared.Ok inner) {ident : ArtifactIdent}
    {options : Option Options}
    (hphase : (Phase.lookupMetadata ident options).Ok inner shared fileSize content call)
    (hsep : (Phase.lookupMetadata ident options : Phase Options Metadata).Separate shared content)
    {next : Shared Options Metadata × Phase Options Metadata}
    (h : (Phase.lookupMetadata ident options).advance inner shared fileSize content call =
      some next) :
    Kept inner shared fileSize content call next := by
  obtain ⟨hcall, hsize⟩ := hphase
  simp only [Phase.advance] at h
  cases hfooter : shared.footers ident with
  | none =>
    rw [hfooter] at h
    cases h
    exact .of_ok hshared ⟨hcall, hsize⟩
  | some metadata =>
    rw [hfooter] at h
    cases h
    obtain ⟨content', options', hmem, hread⟩ := hshared.footers ident metadata hfooter
    obtain ⟨rfl, rfl⟩ := Prod.mk.inj (hsep _ hmem rfl)
    rw [hsize] at hread
    apply Kept.of_ok hshared
    simp [Phase.Ok, hcall, uncached, hread, Except.map]

theorem kept_fetchMetadata (hshared : shared.Ok inner) {ident : ArtifactIdent}
    {options : Option Options}
    (hphase : (Phase.fetchMetadata ident options).Ok inner shared fileSize content call)
    {next : Shared Options Metadata × Phase Options Metadata}
    (h : (Phase.fetchMetadata ident options).advance inner shared fileSize content call =
      some next) :
    Kept inner shared fileSize content call next := by
  obtain ⟨hcall, hsize⟩ := hphase
  simp only [Phase.advance] at h
  cases hread : inner.getMetadata content fileSize options with
  | error error =>
    rw [hread] at h
    cases h
    apply Kept.of_ok hshared
    simp [Phase.Ok, hcall, uncached, hread, Except.map]
  | ok metadata =>
    rw [hread] at h
    cases h
    refine ⟨hshared.addReads (List.Subset.refl _) (List.subset_cons_self _ _),
      ⟨List.Subset.refl _, List.subset_cons_self _ _⟩, options, hcall, ?_, hsize,
      List.mem_cons_self⟩
    rw [hsize, hread]

theorem kept_insertMetadata (hshared : shared.Ok inner) {ident : ArtifactIdent}
    {metadata : Metadata}
    (hphase : (Phase.insertMetadata ident metadata).Ok inner shared fileSize content call)
    {next : Shared Options Metadata × Phase Options Metadata}
    (h : (Phase.insertMetadata ident metadata).advance inner shared fileSize content call =
      some next) :
    Kept inner shared fileSize content call next := by
  obtain ⟨options, hcall, hread, hsize, hmem⟩ := hphase
  cases h
  refine ⟨hshared.insertFooter hmem hread, ⟨List.Subset.refl _, List.Subset.refl _⟩, ?_⟩
  rw [hsize] at hread
  simp [Phase.Ok, hcall, uncached, hread, Except.map]

/-- **One step of a call.** -/
theorem kept_advance (hlaw : inner.Lawful) (hshared : shared.Ok inner)
    {phase : Phase Options Metadata} (hphase : phase.Ok inner shared fileSize content call)
    (hsep : phase.Separate shared content)
    {next : Shared Options Metadata × Phase Options Metadata}
    (h : phase.advance inner shared fileSize content call = some next) :
    Kept inner shared fileSize content call next := by
  cases phase with
  | inner =>
    cases h
    exact .of_ok hshared rfl
  | lookupBytes ident range => exact kept_lookupBytes hshared hphase hsep h
  | fetchBytes key range => exact kept_fetchBytes hshared hphase h
  | insertBytes key bytes => exact kept_insertBytes hshared hphase h
  | lookupRanges ident lookup rest => exact kept_lookupRanges hlaw hshared hphase hsep h
  | fetchRanges lookup => exact kept_fetchRanges hlaw hshared hphase h
  | insertRanges ordered rest => exact kept_insertRanges hlaw hshared hphase h
  | lookupMetadata ident options => exact kept_lookupMetadata hshared hphase hsep h
  | fetchMetadata ident options => exact kept_fetchMetadata hshared hphase h
  | insertMetadata ident metadata => exact kept_insertMetadata hshared hphase h
  | returned result => cases h

end Advance

/-! ### Steps of the system -/

theorem Phase.ok_start (inner : InnerReader Options Metadata) (shared : Shared Options Metadata)
    {reader : Reader Location} (content : Bytes) (call : Call Options)
    (hreader : ∀ ident, reader.ident = some ident → ident.fileSize = reader.fileSize) :
    (Phase.start reader call).Ok inner shared reader.fileSize content call := by
  cases call with
  | getBytes range =>
    simp only [Phase.start]
    split
    · rfl
    · trivial
  | getByteRanges ranges =>
    simp only [Phase.start]
    split
    · exact ⟨ranges, [], rfl, RangeLookup.ok_start _ _ _⟩
    · trivial
  | getMetadata options =>
    simp only [Phase.start]
    split
    · next ident hident _ => exact ⟨rfl, hreader ident hident⟩
    · trivial

section Run

variable [DecidableEq Location]

/-- The invariant of the runs that keep identities separate. -/
structure State.Ok (inner : InnerReader Options Metadata) (s : State Location Options Metadata) :
    Prop where
  shared : s.shared.Ok inner
  readers : ∀ reader ∈ s.readers, ∀ ident, reader.ident = some ident →
    ident.fileSize = reader.fileSize
  calls : ∀ pending ∈ s.calls, pending.phase.Ok inner s.shared pending.reader.fileSize
    pending.object.content pending.call
  objects : ∀ pending ∈ s.calls, pending.phase.isReturned = false →
    s.objectAt pending.reader.location = some pending.object

theorem State.ok_initial (inner : InnerReader Options Metadata) :
    (State.initial : State Location Options Metadata).Ok inner where
  shared := by
    constructor
    · intro ident range bytes h
      cases h
    · intro ident metadata h
      cases h
  readers := fun _ h => by cases h
  calls := fun _ h => by cases h
  objects := fun _ h => by cases h

variable {inner : InnerReader Options Metadata} {s s' : State Location Options Metadata}

omit [DecidableEq Location] in
theorem Phase.not_isReturned_of_advance {shared : Shared Options Metadata} {fileSize : ℕ}
    {content : Bytes} {call : Call Options} {phase : Phase Options Metadata}
    {next : Shared Options Metadata × Phase Options Metadata}
    (h : phase.advance inner shared fileSize content call = some next) :
    phase.isReturned = false := by
  cases phase with
  | returned result => cases h
  | _ => rfl

theorem State.Ok.put (h : s.Ok inner) {location : Location} {object : RemoteObject}
    (hsep : ∀ pending ∈ s.calls, pending.phase.isReturned = false →
      pending.reader.location ≠ location) :
    State.Ok inner { s with puts := (location, object) :: s.puts } where
  shared := h.shared
  readers := h.readers
  calls := h.calls
  objects := by
    intro pending hpending hunder
    have hne : location ≠ pending.reader.location := (hsep pending hpending hunder).symm
    have hobject := h.objects pending hpending hunder
    unfold State.objectAt at hobject ⊢
    rw [List.find?_cons_of_neg (by simpa using hne)]
    exact hobject

theorem State.Ok.call (h : s.Ok inner) {reader : Reader Location} (hreader : reader ∈ s.readers)
    {object : RemoteObject} (hobject : s.objectAt reader.location = some object)
    (call : Call Options) :
    State.Ok inner { s with calls := s.calls ++ [⟨reader, call, object, .start reader call⟩] } where
  shared := h.shared
  readers := h.readers
  calls := by
    intro pending hpending
    rcases List.mem_append.1 hpending with hold | hnew
    · exact h.calls pending hold
    · obtain rfl := List.mem_singleton.1 hnew
      exact Phase.ok_start inner s.shared object.content call (h.readers reader hreader)
  objects := by
    intro pending hpending hunder
    rcases List.mem_append.1 hpending with hold | hnew
    · exact h.objects pending hold hunder
    · obtain rfl := List.mem_singleton.1 hnew
      exact hobject

theorem State.Ok.advance (hlaw : inner.Lawful) (h : s.Ok inner) {i : ℕ}
    {pending : PendingCall Location Options Metadata} (hpending : s.calls[i]? = some pending)
    (hsep : pending.phase.Separate s.shared pending.object.content)
    {shared : Shared Options Metadata} {phase : Phase Options Metadata}
    (hadvance : pending.phase.advance inner s.shared pending.reader.fileSize pending.object.content
      pending.call = some (shared, phase)) :
    State.Ok inner
      { s with shared := shared, calls := s.calls.set i { pending with phase := phase } } := by
  have hmem := List.mem_of_getElem? hpending
  obtain ⟨hshared, hgrows, hphase⟩ := kept_advance hlaw h.shared (h.calls pending hmem) hsep hadvance
  have hobject := h.objects pending hmem (Phase.not_isReturned_of_advance hadvance)
  refine ⟨hshared, h.readers, ?_, ?_⟩
  · intro other hother
    rcases List.mem_or_eq_of_mem_set hother with hold | rfl
    · exact (h.calls other hold).mono hgrows
    · exact hphase
  · intro other hother hunder
    rcases List.mem_or_eq_of_mem_set hother with hold | rfl
    · exact h.objects other hold hunder
    · exact hobject

/-- **One step of the system.** -/
theorem State.ok_step (hlaw : inner.Lawful) (h : s.Ok inner) {action : Action Location Options}
    (hsep : s.Separate action) (hstep : s.step inner action = some s') : s'.Ok inner := by
  cases action with
  | put location object =>
    cases hstep
    exact h.put hsep
  | openObject location artifact fabricInfo caches head =>
    simp only [State.step] at hstep
    split_ifs at hstep
    cases hstep
    refine ⟨h.shared, ?_, h.calls, h.objects⟩
    intro reader hreader ident hident
    rcases List.mem_append.1 hreader with hold | hnew
    · exact h.readers reader hold ident hident
    · obtain rfl := List.mem_singleton.1 hnew
      exact cacheIdent_fileSize hident
  | call i call =>
    simp only [State.step] at hstep
    cases hreader : s.readers[i]? with
    | none =>
      rw [hreader] at hstep
      cases hstep
    | some reader =>
      simp only [hreader] at hstep
      cases hobject : s.objectAt reader.location with
      | none =>
        rw [hobject] at hstep
        cases hstep
      | some object =>
        rw [hobject] at hstep
        cases hstep
        exact h.call (List.mem_of_getElem? hreader) hobject call
  | advance i =>
    simp only [State.step] at hstep
    cases hpending : s.calls[i]? with
    | none =>
      rw [hpending] at hstep
      cases hstep
    | some pending =>
      simp only [hpending] at hstep
      cases hobject : s.objectAt pending.reader.location with
      | none =>
        rw [hobject] at hstep
        cases hstep
      | some object =>
        simp only [hobject] at hstep
        cases hadvance : pending.phase.advance inner s.shared pending.reader.fileSize object.content
            pending.call with
        | none =>
          rw [hadvance] at hstep
          cases hstep
        | some next =>
          rw [hadvance] at hstep
          cases hstep
          -- the object is the one the call was made for
          have hunder := Phase.not_isReturned_of_advance hadvance
          have hsame := h.objects pending (List.mem_of_getElem? hpending) hunder
          rw [hobject] at hsame
          cases hsame
          exact h.advance hlaw hpending (hsep pending hpending) hadvance
  | evictChunk key =>
    cases hstep
    exact ⟨h.shared.evictChunk key, h.readers,
      fun pending hpending => (h.calls pending hpending).mono (Shared.Grows.refl s.shared),
      h.objects⟩
  | evictFooter ident =>
    cases hstep
    exact ⟨h.shared.evictFooter ident, h.readers,
      fun pending hpending => (h.calls pending hpending).mono (Shared.Grows.refl s.shared),
      h.objects⟩

/-- **Transparency.** In every run in which lookups find only what was read from the content of their
own object and no object is replaced while it is read, every call that returns has returned what the
inner reader of its object returns, in the order of the requested ranges. -/
theorem cachedReads_transparent (inner : InnerReader Options Metadata) (hlaw : inner.Lawful)
    (actions : List (Action Location Options)) (s : State Location Options Metadata)
    (hsep : Guarded (State.step inner) State.Separate State.initial actions)
    (hrun : run (State.step inner) State.initial actions = some s) : s.Transparent inner := by
  have hok : s.Ok inner := run_invariant
    (fun s action s' h hsep hstep => State.ok_step hlaw h hsep hstep) (State.ok_initial inner) hsep hrun
  intro pending hpending result hresult
  have hphase := hok.calls pending hpending
  rw [hresult] at hphase
  exact hphase

end Run

end Steps

/-! ## Runs -/

/-- Reads of a plain byte string that is too short for a footer. -/
def plainReader : InnerReader Unit Unit where
  getBytes := plainBytes
  getByteRanges content ranges := ranges.mapM (plainBytes content)
  getMetadata _ _ _ := .error (.general "file size is less than footer")
where
  plainBytes (content : Bytes) (range : Range) : Except ParquetError Bytes :=
    if range.start ≤ range.stop ∧ range.stop.toNat ≤ content.length then
      .ok ((content.take range.stop.toNat).drop range.start.toNat)
    else .error (.external "range is not within the object")

theorem plainReader_lawful : plainReader.Lawful := fun content ranges =>
  Library.toOption_mapM (plainReader.plainBytes content) ranges

/-- Opens a snap file of one dataset with both caches. -/
def openSnap (location : String) (object : RemoteObject) : Action String Unit :=
  .openObject location .snap (some ⟨"grit", "1.0.0", "0.2"⟩) ⟨true, true⟩ object.head

/-- The results of the calls, in the order in which they were made. -/
def State.results {Location Options Metadata : Type} (s : State Location Options Metadata) :
    List (Option (Value Metadata)) :=
  s.calls.map fun pending =>
    match pending.phase with
    | .returned result => result.toOption
    | _ => none

def reachSnap : RemoteObject := ⟨[1, 2], none, 1767225600000000000⟩

def mainSnap : RemoteObject := ⟨[3, 4, 5], none, 1767225600000000000⟩

/-- The snap files differ in size. The second call of the first reader finds one of its ranges. -/
def separateRun : List (Action String Unit) :=
  [.put "snap/reach.parquet" reachSnap, .put "snap/main.parquet" mainSnap,
    openSnap "snap/reach.parquet" reachSnap, openSnap "snap/main.parquet" mainSnap,
    .call 0 (.getBytes ⟨1, 2⟩), .advance 0, .advance 0, .advance 0,
    .call 0 (.getByteRanges [⟨0, 1⟩, ⟨1, 2⟩, ⟨0, 2⟩]), .call 1 (.getBytes ⟨1, 2⟩),
    .advance 1, .advance 2, .advance 1, .advance 1, .advance 1, .advance 2, .advance 1, .advance 2,
    .advance 1, .advance 1, .advance 1]

theorem cachedReads_transparent_separateRun :
    ∃ s, run (State.step plainReader) State.initial separateRun = some s ∧
      s.Transparent plainReader ∧
      s.results = [some (.bytes [2]), some (.byteRanges [[1], [2], [1, 2]]), some (.bytes [4])] := by
  refine ⟨_, rfl, ?_, ?_⟩
  · exact cachedReads_transparent plainReader plainReader_lawful separateRun _
      (by decide +kernel) rfl
  · decide +kernel

/-- A snap file with the attributes of the first one. -/
def twinSnap : RemoteObject := ⟨[3, 4], none, 1767225600000000000⟩

/-- Two snap files of one dataset have the same size and modification time and no ETag. -/
def collidingRun : List (Action String Unit) :=
  [.put "snap/reach.parquet" reachSnap, .put "snap/main.parquet" twinSnap,
    openSnap "snap/reach.parquet" reachSnap, openSnap "snap/main.parquet" twinSnap,
    .call 0 (.getBytes ⟨0, 2⟩), .advance 0, .advance 0, .advance 0,
    .call 1 (.getBytes ⟨0, 2⟩), .advance 1]

theorem collidingRun_putChangesHead :
    Guarded (State.step plainReader) State.PutChangesHead State.initial collidingRun := by
  decide +kernel

/-- No object is replaced, and the second reader still returns the bytes of the first file. -/
theorem not_cachedReads_transparent :
    ¬∀ inner : InnerReader Unit Unit, inner.Lawful →
      ∀ (actions : List (Action String Unit)) (s : State String Unit Unit),
        Guarded (State.step inner) State.PutChangesHead State.initial actions →
        run (State.step inner) State.initial actions = some s → s.Transparent inner := by
  intro h
  have htransparent := h plainReader plainReader_lawful collidingRun _ collidingRun_putChangesHead rfl
  have hsecond := htransparent _ (List.mem_cons_of_mem _ List.mem_cons_self) _ rfl
  exact absurd hsecond (by decide +kernel)

end Pourpoint.ParquetCache
