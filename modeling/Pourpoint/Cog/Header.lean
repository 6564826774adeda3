import Pourpoint.Cog.Layout
import Pourpoint.F64
import Pourpoint.Library.Traced

/-!
# Headers of remote rasters

`read_remote_layout` reads a little-endian classic TIFF or BigTIFF header by byte ranges: the header,
the entries of the first image directory, the values of the transform, and the nodata text. Nothing in
the object is trusted. A store answers a request in any way; `RangeStore.ofBytes` answers from the bytes
of an object.
-/

namespace Pourpoint

open Library

/-! ## Range requests -/

/-- `Range<u64>`. -/
structure ByteRange where
  start : ℕ
  stop : ℕ
  deriving DecidableEq, Repr

/-- The range lies in the object. -/
def ByteRange.Inside (objectSize : ℕ) (range : ByteRange) : Prop :=
  range.start ≤ range.stop ∧ range.stop ≤ objectSize

/-- The range reads of an object store at one path. -/
structure RangeStore where
  getRange : ByteRange → Except String (List UInt8)
  getRanges : List ByteRange → Except String (List (List UInt8))

/-- The bytes of a range. -/
def byteSlice (content : List UInt8) (range : ByteRange) : List UInt8 :=
  (content.drop range.start).take (range.stop - range.start)

/-- The store that holds these bytes. -/
def RangeStore.ofBytes (content : List UInt8) : RangeStore where
  getRange range := .ok (byteSlice content range)
  getRanges ranges := .ok (ranges.map (byteSlice content))

/-- Code that reads byte ranges. -/
abbrev Remote := Traced ByteRange Panic CacheError

/-- `get_range`. The request is counted also where it fails. -/
def getRange (store : RangeStore) (path : String) (range : ByteRange) : Remote (List UInt8) :=
  .request [range] ((store.getRange range).mapError (.objectStore path))

/-- `get_ranges`. -/
def getRanges (store : RangeStore) (path : String) (ranges : List ByteRange) :
    Remote (List (List UInt8)) :=
  .request ranges ((store.getRanges ranges).mapError (.objectStore path))

/-! ## Checked values -/

/-- The most entries a directory may have. -/
def maxRemoteIfdEntries : ℕ := 4096

/-- The most bytes a directory may have. -/
def maxRemoteIfdEntryBytes : ℕ := 65536

/-- The most bytes of a value that is read whole. -/
def maxRemoteMetadataValueBytes : ℕ := 65536

/-- The most bytes of a text. -/
def maxRemoteAsciiBytes : ℕ := 256

/-- `checked_remote_range`. The range ends within the object. -/
def checkedRemoteRange (path : String) (start length objectSize : ℕ) : Fallible CacheError ByteRange := do
  let stop ← Fallible.orElse (remoteLayoutError path "TIFF range end overflow")
    (checkedAdd 64 start length)
  Fallible.failIf (objectSize < stop)
    (remoteLayoutError path s!"TIFF range {start}..{stop} exceeds object size {objectSize}")
  pure ⟨start, stop⟩

/-- A length under its ceiling. It fits `usize`. -/
def checkedRemoteLength (path : String) (length ceiling : ℕ) (quantity : String) :
    Fallible CacheError ℕ := do
  Fallible.failIf (ceiling < length)
    (remoteLayoutError path s!"TIFF {quantity} {length} exceeds parser ceiling {ceiling}")
  pure length

/-- The sum of the lengths, without overflow. -/
def checkedRemoteBytesRead (path : String) : List ℕ → ℕ → Fallible CacheError ℕ
  | [], total => pure total
  | length :: lengths, total => do
    let total ← Fallible.orElse (remoteLayoutError path "TIFF bytes-read total overflow")
      (checkedAdd 64 total length)
    checkedRemoteBytesRead path lengths total

/-- `from_le_bytes` of a slice that must have the width. -/
def remoteUnsigned (width : ℕ) (missing : String) (path : String) (bytes : List UInt8) :
    Fallible CacheError ℕ := do
  Fallible.failIf (bytes.length ≠ width) (remoteLayoutError path missing)
  pure (leValue bytes)

def remoteU16 : String → List UInt8 → Fallible CacheError ℕ := remoteUnsigned 2 "missing TIFF u16"

def remoteU32 : String → List UInt8 → Fallible CacheError ℕ := remoteUnsigned 4 "missing TIFF u32"

def remoteU64 : String → List UInt8 → Fallible CacheError ℕ := remoteUnsigned 8 "missing TIFF u64"

/-- The width of a field type, `None` when it is not supported. -/
def fieldWidth : ℕ → Option ℕ
  | 1 | 2 => some 1
  | 3 => some 2
  | 4 => some 4
  | 5 | 12 | 16 => some 8
  | _ => none

/-- `remote_field_width`. Other field types are errors. -/
def remoteFieldWidth (path : String) (fieldType : ℕ) : Fallible CacheError ℕ :=
  Fallible.orElse (remoteLayoutError path s!"unsupported TIFF field type {fieldType}")
    (fieldWidth fieldType)

/-! ## Directory entries -/

inductive TiffFormat where
  | classic
  | bigTiff
  deriving DecidableEq, Repr

namespace TiffFormat

/-- The bytes of the value field of an entry. -/
def inlineWidth : TiffFormat → ℕ
  | classic => 4
  | bigTiff => 8

/-- The bytes of the entry count of a directory. -/
def countWidth : TiffFormat → ℕ
  | classic => 2
  | bigTiff => 8

/-- The bytes of a directory entry. -/
def entryWidth : TiffFormat → ℕ
  | classic => 12
  | bigTiff => 20

end TiffFormat

/-- An entry of the directory, its value field as a number. -/
structure IfdEntry where
  tag : ℕ
  fieldType : ℕ
  count : ℕ
  value : ℕ
  deriving DecidableEq, Repr

/-- The count and the value of an entry. -/
def entryCountValue (path : String) : TiffFormat → List UInt8 → Fallible CacheError (ℕ × ℕ)
  | .classic, bytes => do
    let count ← remoteU32 path (← readSlice bytes 4 4)
    let value ← remoteU32 path (← readSlice bytes 8 4)
    pure (count, value)
  | .bigTiff, bytes => do
    let count ← remoteU64 path (← readSlice bytes 4 8)
    let value ← remoteU64 path (← readSlice bytes 12 8)
    pure (count, value)

/-- `remote_ifd_entry`. -/
def remoteIfdEntry (path : String) (format : TiffFormat) (bytes : List UInt8) :
    Fallible CacheError IfdEntry := do
  let tag ← remoteU16 path (← readSlice bytes 0 2)
  let fieldType ← remoteU16 path (← readSlice bytes 2 2)
  let (count, value) ← entryCountValue path format bytes
  let _ ← remoteFieldWidth path fieldType
  pure ⟨tag, fieldType, count, value⟩

/-- `remote_entry`. The first entry with the tag. -/
def remoteEntry (path : String) (entries : List IfdEntry) (tag : ℕ) : Fallible CacheError IfdEntry :=
  Fallible.orElse (remoteLayoutError path s!"missing TIFF tag {tag}") (entries.find? (·.tag = tag))

/-- `remote_inline_scalar`. Bytes behind the value must be zero. -/
def remoteInlineScalar (path : String) (entries : List IfdEntry) (tag : ℕ) : Fallible CacheError ℕ := do
  let entry ← remoteEntry path entries tag
  Fallible.failIf (entry.fieldType ∉ [3, 4] ∨ entry.count ≠ 1)
    (remoteLayoutError path s!"TIFF tag {tag} must be one SHORT or LONG value")
  let maxValue := if entry.fieldType = 3 then 2 ^ 16 - 1 else 2 ^ 32 - 1
  Fallible.failIf (maxValue < entry.value)
    (remoteLayoutError path s!"TIFF tag {tag} has non-zero scalar padding")
  pure entry.value

/-- `u64::to_le_bytes`. -/
def leBytes (value : ℕ) : List UInt8 := (List.range 8).map fun i => .ofNat (value / 256 ^ i)

/-- The text of ASCII bytes without its trailing zeros. -/
def asciiText (raw : List UInt8) : Option String :=
  (String.fromUTF8? ⟨raw.toArray⟩).map fun text =>
    String.ofList (text.toList.reverse.dropWhile (· = '\x00')).reverse

/-- The bytes of an ASCII value, and how many of them were fetched. -/
def remoteAsciiBytes (store : RangeStore) (path : String) (objectSize : ℕ) (format : TiffFormat)
    (entry : IfdEntry) : Remote (List UInt8 × ℕ) :=
  if entry.count ≤ format.inlineWidth then do
    let raw ← (readSlice (leBytes entry.value) 0 entry.count : Fallible CacheError (List UInt8))
    pure (raw, 0)
  else do
    let range ← checkedRemoteRange path entry.value entry.count objectSize
    let bytes ← getRange store path range
    (Fallible.failIf (bytes.length ≠ entry.count) (remoteLayoutError path
      s!"TIFF tag {entry.tag} ASCII value returned {bytes.length} bytes, expected {entry.count}"))
    pure (bytes, bytes.length)

/-- The text of a tag, if it is there, and the fetched bytes. -/
def remoteAscii (store : RangeStore) (path : String) (objectSize : ℕ) (format : TiffFormat)
    (entries : List IfdEntry) (tag : ℕ) : Remote (Option String × ℕ) :=
  match entries.find? (·.tag = tag) with
  | none => pure (none, 0)
  | some entry => do
    (Fallible.failIf (entry.fieldType ≠ 2 ∨ entry.count = 0)
      (remoteLayoutError path s!"TIFF tag {tag} must contain ASCII"))
    (Fallible.failIf (maxRemoteAsciiBytes < entry.count)
      (CacheError.remoteTiffAsciiTooLong path tag entry.count maxRemoteAsciiBytes))
    let (raw, fetched) ← remoteAsciiBytes store path objectSize format entry
    let text ← Fallible.orElse (remoteLayoutError path s!"TIFF tag {tag} is not valid ASCII")
      (asciiText raw)
    pure (some text, fetched)

/-- `remote_value_range`. A value that is stored outside its entry. -/
def remoteValueRange (path : String) (entry : IfdEntry) (expectedCount objectSize : ℕ) :
    Fallible CacheError ByteRange := do
  Fallible.failIf (entry.fieldType ≠ 12) (remoteLayoutError path
    s!"TIFF tag {entry.tag} must use DOUBLE field type 12, got {entry.fieldType}")
  let width ← remoteFieldWidth path entry.fieldType
  let byteCount ← Fallible.orElse (remoteLayoutError path "TIFF field size overflow")
    (checkedMul 64 entry.count width)
  let _ ← checkedRemoteLength path byteCount maxRemoteMetadataValueBytes "metadata value bytes"
  Fallible.failIf (entry.count ≠ expectedCount) (remoteLayoutError path
    s!"TIFF tag {entry.tag} must contain exactly {expectedCount} DOUBLE values, got {entry.count}")
  checkedRemoteRange path entry.value byteCount objectSize

/-- `IndexDescriptor::byte_extent`. -/
def IndexDescriptor.byteExtent (descriptor : IndexDescriptor) : Except String (Option ByteRange) :=
  match descriptor.storage with
  | .inlineScalar _ => .ok none
  | .outOfLine offset =>
    match checkedMul 64 descriptor.count descriptor.elementWidth with
    | none => .error "TIFF field size overflow"
    | some byteCount =>
      match checkedAdd 64 offset byteCount with
      | none => .error "TIFF field end overflow"
      | some stop => .ok (some ⟨offset, stop⟩)

/-- `remote_descriptor`. -/
def remoteDescriptor (path : String) (format : TiffFormat) (entry : IfdEntry) (objectSize : ℕ) :
    Fallible CacheError IndexDescriptor := do
  Fallible.failIf (entry.count = 0 ∨ entry.fieldType ∉ [4, 16]) (remoteLayoutError path
    s!"TIFF tile-index tag {entry.tag} has unsupported type {entry.fieldType} or count {entry.count}")
  let elementWidth ← remoteFieldWidth path entry.fieldType
  let byteCount ← Fallible.orElse (remoteLayoutError path "TIFF tile-index size overflow")
    (checkedMul 64 entry.count elementWidth)
  let storage := if byteCount ≤ format.inlineWidth then IndexStorage.inlineScalar entry.value
    else IndexStorage.outOfLine entry.value
  let descriptor : IndexDescriptor := ⟨entry.fieldType, elementWidth, entry.count, storage⟩
  let extent ← Fallible.mapError (remoteLayoutError path) descriptor.byteExtent
  match extent with
  | none => pure descriptor
  | some range => do
    Fallible.failIf (objectSize < range.stop) (remoteLayoutError path
      s!"TIFF range {range.start}..{range.stop} exceeds object size {objectSize}")
    pure descriptor

/-- `remote_doubles`. Exactly `n` numbers. -/
def remoteDoubles (n : ℕ) (path : String) (bytes : List UInt8) : Fallible CacheError (Fin n → F64) := do
  let expected ← Fallible.orElse (remoteLayoutError path "TIFF double size overflow")
    (checkedMul 64 n 8)
  Fallible.failIf (bytes.length ≠ expected) (remoteLayoutError path "incomplete TIFF double field")
  pure fun i => F64.ofBits (leValue ((bytes.drop (8 * i)).take 8))

/-! ## Layouts -/

/-- What the header of a raster says. -/
structure RemoteLayout where
  format : TiffFormat
  width : ℕ
  height : ℕ
  tileWidth : ℕ
  tileHeight : ℕ
  scale : Fin 3 → F64
  tiepoint : Fin 6 → F64
  nodata : String
  sampleType : CogSampleType
  compression : ℕ
  predictor : ℕ
  tileOffsets : IndexDescriptor
  tileByteCounts : IndexDescriptor
  bytesRead : ℕ

/-- The format and the offset of the first directory, from the 16 bytes of the header. -/
def readTiffHeader (path : String) (header : List UInt8) : Fallible CacheError (TiffFormat × ℕ) := do
  Fallible.failIf (header.length ≠ 16) (remoteLayoutError path "incomplete 16-byte TIFF header")
  Fallible.failIf ((← readSlice header 0 2) ≠ [0x49, 0x49])
    (remoteLayoutError path "only little-endian TIFF byte order is supported")
  let magic ← remoteU16 path (← readSlice header 2 2)
  if magic = 42 then do
    let offset ← remoteU32 path (← readSlice header 4 4)
    pure (.classic, offset)
  else if magic = 43 then do
    let offsetSize ← remoteU16 path (← readSlice header 4 2)
    Fallible.failIf (offsetSize ≠ 8) (remoteLayoutError path "invalid BigTIFF offset header")
    let reserved ← remoteU16 path (← readSlice header 6 2)
    Fallible.failIf (reserved ≠ 0) (remoteLayoutError path "invalid BigTIFF offset header")
    let offset ← remoteU64 path (← readSlice header 8 8)
    pure (.bigTiff, offset)
  else Fallible.fail (remoteLayoutError path s!"unsupported TIFF magic {magic}")

/-- The number in the bytes of an entry count. -/
def countValue (path : String) : TiffFormat → List UInt8 → Fallible CacheError ℕ
  | .classic => remoteU16 path
  | .bigTiff => remoteU64 path

/-- The entry count of a directory. -/
def readEntryCount (path : String) (format : TiffFormat) (bytes : List UInt8) :
    Fallible CacheError ℕ := do
  Fallible.failIf (bytes.length ≠ format.countWidth)
    (remoteLayoutError path "incomplete TIFF IFD count")
  let count ← countValue path format bytes
  Fallible.failIf (count = 0) (remoteLayoutError path "TIFF IFD contains no entries")
  let _ ← checkedRemoteLength path count maxRemoteIfdEntries "IFD entry count"
  pure count

/-- The entries in the bytes of a directory. -/
def parseEntries (path : String) (format : TiffFormat) (entryBytes : List UInt8) :
    Fallible CacheError (List IfdEntry) := do
  let chunks ← chunksExact format.entryWidth entryBytes
  chunks.mapM (remoteIfdEntry path format)

/-- The directory at an offset: its entries and the bytes that were fetched. -/
def readIfdEntries (store : RangeStore) (path : String) (objectSize : ℕ) (format : TiffFormat)
    (ifdOffset : ℕ) : Remote (List IfdEntry × List ℕ) := do
  let countRange ← checkedRemoteRange path ifdOffset format.countWidth objectSize
  let countBytes ← getRange store path countRange
  let entryCount ← readEntryCount path format countBytes
  let entriesLen ← Fallible.orElse (remoteLayoutError path "TIFF IFD entries size overflow")
    (checkedMul 64 entryCount format.entryWidth)
  let entriesLenUsize ← checkedRemoteLength path entriesLen maxRemoteIfdEntryBytes "IFD entry bytes"
  let entriesRange ← checkedRemoteRange path countRange.stop entriesLen objectSize
  let entryBytes ← getRange store path entriesRange
  (Fallible.failIf (entryBytes.length ≠ entriesLenUsize)
    (remoteLayoutError path "incomplete TIFF IFD entries"))
  let entries ← parseEntries path format entryBytes
  pure (entries, [countBytes.length, entryBytes.length])

/-- The sample type of a layout. -/
def sampleTypeOf : ℕ → ℕ → Option CogSampleType
  | 8, 1 => some .u8
  | 8, 2 => some .i8
  | 32, 3 => some .f32
  | 32, 2 => some .i32
  | _, _ => none

/-- The nodata text of a raster without one. -/
def CogSampleType.defaultNodata : CogSampleType → String
  | .u8 => "255"
  | .i8 | .f32 | .i32 => "-1"

/-- The values of the directory that need no further request. -/
structure LayoutFields where
  width : ℕ
  height : ℕ
  scaleRange : ByteRange
  tiepointRange : ByteRange
  tileOffsets : IndexDescriptor
  tileByteCounts : IndexDescriptor
  tileWidth : ℕ
  tileHeight : ℕ
  compression : ℕ
  predictor : ℕ
  sampleType : CogSampleType

/-- The fields of the layout, in the order in which the source reads them. -/
def readLayoutFields (path : String) (objectSize : ℕ) (format : TiffFormat) (entries : List IfdEntry) :
    Fallible CacheError LayoutFields := do
  let width ← remoteInlineScalar path entries 256
  let height ← remoteInlineScalar path entries 257
  Fallible.failIf (width = 0 ∨ height = 0) (remoteLayoutError path "TIFF dimensions must be non-zero")
  let scaleRange ← remoteValueRange path (← remoteEntry path entries 33550) 3 objectSize
  let tiepointRange ← remoteValueRange path (← remoteEntry path entries 33922) 6 objectSize
  let tileOffsets ← remoteDescriptor path format (← remoteEntry path entries 324) objectSize
  let tileByteCounts ← remoteDescriptor path format (← remoteEntry path entries 325) objectSize
  Fallible.failIf (tileOffsets.count ≠ tileByteCounts.count) (remoteLayoutError path
    s!"TIFF tile-index descriptor count mismatch: TileOffsets has {tileOffsets.count} entries, TileByteCounts has {tileByteCounts.count}")
  let tileWidth ← remoteInlineScalar path entries 322
  let tileHeight ← remoteInlineScalar path entries 323
  let bitsPerSample ← remoteInlineScalar path entries 258
  let compression ← remoteInlineScalar path entries 259
  let photometric ← remoteInlineScalar path entries 262
  let samplesPerPixel ← remoteInlineScalar path entries 277
  let planar ← remoteInlineScalar path entries 284
  let predictor ← remoteInlineScalar path entries 317
  let sampleFormat ← remoteInlineScalar path entries 339
  Fallible.failIf (photometric ≠ 1 ∨ samplesPerPixel ≠ 1 ∨ planar ≠ 1)
    (remoteLayoutError path "unsupported TIFF grayscale/sample/planar layout")
  let sampleType ← Fallible.orElse (remoteLayoutError path
    s!"unsupported sample layout: bits={bitsPerSample} sample_format={sampleFormat}")
    (sampleTypeOf bitsPerSample sampleFormat)
  pure ⟨width, height, scaleRange, tiepointRange, tileOffsets, tileByteCounts, tileWidth, tileHeight,
    compression, predictor, sampleType⟩

/-- The scale and the tiepoint, and the bytes that were fetched. -/
def readTransform (store : RangeStore) (path : String) (scaleRange tiepointRange : ByteRange) :
    Remote (List UInt8 × List UInt8) := do
  let values ← getRanges store path [scaleRange, tiepointRange]
  match values with
  | [scale, tiepoint] => pure (scale, tiepoint)
  | _ => Traced.lift (.ok (.error (remoteLayoutError path "TIFF transform range response is incomplete")))

/-- `u16::try_from`. -/
def fitsU16 (path : String) (reason : String) (value : ℕ) : Fallible CacheError ℕ := do
  Fallible.failIf (2 ^ 16 ≤ value) (remoteLayoutError path reason)
  pure value

/-- `read_remote_layout`. Magic bytes, directory, entries and fields. -/
def readRemoteLayout (store : RangeStore) (path : String) (objectSize : ℕ) : Remote RemoteLayout := do
  let headerRange ← checkedRemoteRange path 0 16 objectSize
  let header ← getRange store path headerRange
  let (format, ifdOffset) ← readTiffHeader path header
  let (entries, entryBytesRead) ← readIfdEntries store path objectSize format ifdOffset
  let fields ← readLayoutFields path objectSize format entries
  let (nodata, asciiBytesRead) ← remoteAscii store path objectSize format entries 42113
  let (scaleBytes, tiepointBytes) ← readTransform store path fields.scaleRange fields.tiepointRange
  let bytesRead ← checkedRemoteBytesRead path (header.length :: entryBytesRead ++
    [scaleBytes.length, tiepointBytes.length, asciiBytesRead]) 0
  let scale ← remoteDoubles 3 path scaleBytes
  let tiepoint ← remoteDoubles 6 path tiepointBytes
  let compression ← fitsU16 path "TIFF compression does not fit u16" fields.compression
  let predictor ← fitsU16 path "TIFF predictor does not fit u16" fields.predictor
  pure {
    format, width := fields.width, height := fields.height, tileWidth := fields.tileWidth
    tileHeight := fields.tileHeight, scale, tiepoint
    nodata := nodata.getD fields.sampleType.defaultNodata
    sampleType := fields.sampleType, compression, predictor, tileOffsets := fields.tileOffsets
    tileByteCounts := fields.tileByteCounts, bytesRead }

end Pourpoint
