import Pourpoint.Cog.Plan

/-!
# Robustness of header reading

Each part of the chain returns a value or an error, and requests only ranges of the object.
-/

namespace Pourpoint

open Library

/-! ## Code without requests -/

section Total

variable {path : String} {format : TiffFormat} {objectSize : ℕ} {entries : List IfdEntry}

open Fallible

theorem total_checkedRemoteRange (path : String) (start length objectSize : ℕ) :
    Fallible.Total (checkedRemoteRange path start length objectSize) := by
  unfold checkedRemoteRange
  refine total_bind (total_orElse _ _) fun stop _ => ?_
  exact total_bind (total_failIf _ _) fun _ _ => total_pure _

theorem total_checkedRemoteLength (path : String) (length ceiling : ℕ) (quantity : String) :
    Fallible.Total (checkedRemoteLength path length ceiling quantity) :=
  total_bind (total_failIf _ _) fun _ _ => total_pure _

theorem total_checkedRemoteBytesRead (path : String) (lengths : List ℕ) (total : ℕ) :
    Fallible.Total (checkedRemoteBytesRead path lengths total) := by
  induction lengths generalizing total with
  | nil => exact total_pure total
  | cons length lengths ih => exact total_bind (total_orElse _ _) fun total' _ => ih total'

theorem total_remoteUnsigned (width : ℕ) (missing : String) (path : String) (bytes : List UInt8) :
    Fallible.Total (remoteUnsigned width missing path bytes) :=
  total_bind (total_failIf _ _) fun _ _ => total_pure _

theorem total_slice_remoteUnsigned {bytes : List UInt8} {start len width : ℕ} {missing : String}
    (h : start + len ≤ bytes.length) {α : Type} {f : ℕ → Fallible CacheError α}
    (hf : ∀ value, Fallible.Total (f value)) :
    Fallible.Total ((liftM (readSlice bytes start len) : Fallible CacheError (List UInt8)) >>= fun part =>
      remoteUnsigned width missing path part >>= f) := by
  refine total_bind (total_lift (readSlice_eq_ok h)) fun part _ => ?_
  exact total_bind (total_remoteUnsigned _ _ _ _) fun value _ => hf value

theorem total_entryCountValue {bytes : List UInt8} (h : bytes.length = format.entryWidth) :
    Fallible.Total (entryCountValue path format bytes) := by
  cases format with
  | classic =>
    have h : bytes.length = 12 := h
    refine total_slice_remoteUnsigned (by omega) fun count => ?_
    exact total_slice_remoteUnsigned (by omega) fun value => total_pure _
  | bigTiff =>
    have h : bytes.length = 20 := h
    refine total_slice_remoteUnsigned (by omega) fun count => ?_
    exact total_slice_remoteUnsigned (by omega) fun value => total_pure _

theorem total_remoteIfdEntry {bytes : List UInt8} (h : bytes.length = format.entryWidth) :
    Fallible.Total (remoteIfdEntry path format bytes) := by
  have hwidth : 12 ≤ format.entryWidth := by cases format <;> decide
  unfold remoteIfdEntry
  refine total_slice_remoteUnsigned (by omega) fun tag => ?_
  refine total_slice_remoteUnsigned (by omega) fun fieldType => ?_
  refine total_bind (total_entryCountValue h) fun fields _ => ?_
  exact total_bind (total_orElse _ _) fun _ _ => total_pure _

theorem total_parseEntries {entryBytes : List UInt8} {count : ℕ}
    (h : entryBytes.length = count * format.entryWidth) :
    Fallible.Total (parseEntries path format entryBytes) := by
  have hwidth : 0 < format.entryWidth := by cases format <;> decide
  obtain ⟨chunks, hchunks, -, hlengths⟩ := chunksExact_eq_ok hwidth h
  unfold parseEntries
  refine total_bind (total_lift hchunks) fun found hfound => ?_
  rw [lift_run_eq_ok hfound] at hchunks
  cases hchunks
  exact total_mapM fun chunk hchunk => total_remoteIfdEntry (hlengths chunk hchunk)

theorem total_readTiffHeader (path : String) (header : List UInt8) :
    Fallible.Total (readTiffHeader path header) := by
  unfold readTiffHeader
  refine total_bind (total_failIf _ _) fun _ hlength => ?_
  have hlength : header.length = 16 := not_not.1 (failIf_run_eq_ok hlength)
  refine total_bind (total_lift (readSlice_eq_ok (by omega))) fun order _ => ?_
  refine total_bind (total_failIf _ _) fun _ _ => ?_
  refine total_slice_remoteUnsigned (by omega) fun magic => ?_
  split_ifs
  · exact total_slice_remoteUnsigned (by omega) fun offset => total_pure _
  · refine total_slice_remoteUnsigned (by omega) fun offsetSize => ?_
    refine total_bind (total_failIf _ _) fun _ _ => ?_
    refine total_slice_remoteUnsigned (by omega) fun reserved => ?_
    refine total_bind (total_failIf _ _) fun _ _ => ?_
    exact total_slice_remoteUnsigned (by omega) fun offset => total_pure _
  · exact total_fail _

theorem total_readEntryCount (path : String) (format : TiffFormat) (bytes : List UInt8) :
    Fallible.Total (readEntryCount path format bytes) := by
  have hcount : Fallible.Total (countValue path format bytes) := by
    cases format with
    | classic => exact total_remoteUnsigned _ _ _ _
    | bigTiff => exact total_remoteUnsigned _ _ _ _
  refine total_bind (total_failIf _ _) fun _ _ => ?_
  refine total_bind hcount fun count _ => ?_
  refine total_bind (total_failIf _ _) fun _ _ => ?_
  exact total_bind (total_checkedRemoteLength _ _ _ _) fun _ _ => total_pure _

theorem total_remoteInlineScalar (path : String) (entries : List IfdEntry) (tag : ℕ) :
    Fallible.Total (remoteInlineScalar path entries tag) := by
  refine total_bind (total_orElse _ _) fun entry _ => ?_
  refine total_bind (total_failIf _ _) fun _ _ => ?_
  exact total_bind (total_failIf _ _) fun _ _ => total_pure _

theorem total_remoteValueRange (path : String) (entry : IfdEntry) (expectedCount objectSize : ℕ) :
    Fallible.Total (remoteValueRange path entry expectedCount objectSize) := by
  refine total_bind (total_failIf _ _) fun _ _ => ?_
  refine total_bind (total_orElse _ _) fun width _ => ?_
  refine total_bind (total_orElse _ _) fun byteCount _ => ?_
  refine total_bind (total_checkedRemoteLength _ _ _ _) fun _ _ => ?_
  exact total_bind (total_failIf _ _) fun _ _ => total_checkedRemoteRange _ _ _ _

theorem total_remoteDescriptor (path : String) (format : TiffFormat) (entry : IfdEntry)
    (objectSize : ℕ) : Fallible.Total (remoteDescriptor path format entry objectSize) := by
  refine total_bind (total_failIf _ _) fun _ _ => ?_
  refine total_bind (total_orElse _ _) fun width _ => ?_
  refine total_bind (total_orElse _ _) fun byteCount _ => ?_
  refine total_bind (total_mapError _ _) fun extent _ => ?_
  cases extent with
  | none => exact total_pure _
  | some range => exact total_bind (total_failIf _ _) fun _ _ => total_pure _

theorem total_remoteDoubles (n : ℕ) (path : String) (bytes : List UInt8) :
    Fallible.Total (remoteDoubles n path bytes) := by
  refine total_bind (total_orElse _ _) fun expected _ => ?_
  exact total_bind (total_failIf _ _) fun _ _ => total_pure _

theorem total_readLayoutFields (path : String) (objectSize : ℕ) (format : TiffFormat)
    (entries : List IfdEntry) : Fallible.Total (readLayoutFields path objectSize format entries) := by
  have hscalar := total_remoteInlineScalar path entries
  unfold readLayoutFields
  refine total_bind (hscalar 256) fun width _ => ?_
  refine total_bind (hscalar 257) fun height _ => ?_
  refine total_bind (total_failIf _ _) fun _ _ => ?_
  refine total_bind (total_orElse _ _) fun scaleEntry _ => ?_
  refine total_bind (total_remoteValueRange _ _ _ _) fun scaleRange _ => ?_
  refine total_bind (total_orElse _ _) fun tiepointEntry _ => ?_
  refine total_bind (total_remoteValueRange _ _ _ _) fun tiepointRange _ => ?_
  refine total_bind (total_orElse _ _) fun offsetsEntry _ => ?_
  refine total_bind (total_remoteDescriptor _ _ _ _) fun tileOffsets _ => ?_
  refine total_bind (total_orElse _ _) fun countsEntry _ => ?_
  refine total_bind (total_remoteDescriptor _ _ _ _) fun tileByteCounts _ => ?_
  refine total_bind (total_failIf _ _) fun _ _ => ?_
  refine total_bind (hscalar 322) fun tileWidth _ => ?_
  refine total_bind (hscalar 323) fun tileHeight _ => ?_
  refine total_bind (hscalar 258) fun bitsPerSample _ => ?_
  refine total_bind (hscalar 259) fun compression _ => ?_
  refine total_bind (hscalar 262) fun photometric _ => ?_
  refine total_bind (hscalar 277) fun samplesPerPixel _ => ?_
  refine total_bind (hscalar 284) fun planar _ => ?_
  refine total_bind (hscalar 317) fun predictor _ => ?_
  refine total_bind (hscalar 339) fun sampleFormat _ => ?_
  refine total_bind (total_failIf _ _) fun _ _ => ?_
  exact total_bind (total_orElse _ _) fun sampleType _ => total_pure _

theorem total_metadataFromLayout (layout : RemoteLayout) (path : String) :
    Fallible.Total (metadataFromLayout layout path) := by
  unfold metadataFromLayout
  split_ifs
  · refine total_bind (total_failIf _ _) fun _ _ => ?_
    exact total_bind (total_failIf _ _) fun _ _ => total_pure _
  · exact total_fail _
  · exact total_fail _

theorem total_validateMeritLayout (metadata : CogMetadata) (kind : RasterKind) (path : String) :
    Fallible.Total (validateMeritLayout metadata kind path) := by
  unfold validateMeritLayout
  refine total_bind (total_failIf _ _) fun _ _ => ?_
  refine total_bind (total_orElse _ _) fun expectedTiles _ => ?_
  refine total_bind (total_failIf _ _) fun _ _ => ?_
  refine total_bind (total_failIf _ _) fun _ _ => ?_
  exact total_bind (total_failIf _ _) fun _ _ => total_failIf _ _

/-- The tile sizes of an accepted layout are not zero, and the window lies on the raster. -/
theorem total_forWindow {metadata : CogMetadata} {window : RasterPixelWindow}
    (hmerit : metadata.Merit) (hon : window.On metadata) (path : String) :
    Fallible.Total (TilePlan.forWindow metadata window path) := by
  have hwidth := hmerit.tileWidth_pos
  have hheight := hmerit.tileHeight_pos
  unfold TilePlan.forWindow
  refine total_bind (total_lift (divUnsigned_eq_ok hwidth)) fun firstTileCol hfirstCol => ?_
  refine total_bind (total_orElse _ _) fun lastCol hlastCol => ?_
  refine total_bind (total_lift (divUnsigned_eq_ok hwidth)) fun lastTileCol hlastTileCol => ?_
  refine total_bind (total_lift (divUnsigned_eq_ok hheight)) fun firstTileRow hfirstRow => ?_
  refine total_bind (total_orElse _ _) fun lastRow hlastRow => ?_
  refine total_bind (total_lift (divUnsigned_eq_ok hheight)) fun lastTileRow hlastTileRow => ?_
  obtain rfl := divUnsigned_of_ok (lift_run_eq_ok hfirstCol)
  obtain rfl := divUnsigned_of_ok (lift_run_eq_ok hlastTileCol)
  obtain rfl := divUnsigned_of_ok (lift_run_eq_ok hfirstRow)
  obtain rfl := divUnsigned_of_ok (lift_run_eq_ok hlastTileRow)
  have hcol := TilePlan.lastPixel_eq_some (orElse_run_eq_ok hlastCol)
  have hrow := TilePlan.lastPixel_eq_some (orElse_run_eq_ok hlastRow)
  have hcols : window.colOff / metadata.tileWidth ≤ lastCol / metadata.tileWidth :=
    Nat.div_le_div_right (by have := hon.width_pos; omega)
  have hrows : window.rowOff / metadata.tileHeight ≤ lastRow / metadata.tileHeight :=
    Nat.div_le_div_right (by have := hon.height_pos; omega)
  have hcolFits : lastCol / metadata.tileWidth - window.colOff / metadata.tileWidth + 1 < 2 ^ 32 := by
    have hle := (Nat.sub_le (lastCol / metadata.tileWidth) (window.colOff / metadata.tileWidth)).trans
      (Nat.div_le_self lastCol metadata.tileWidth)
    exact (Nat.succ_le_succ hle).trans_lt (by have := hon.colEnd_le; have := metadata.width_lt; omega)
  have hrowFits : lastRow / metadata.tileHeight - window.rowOff / metadata.tileHeight + 1 < 2 ^ 32 := by
    have hle := (Nat.sub_le (lastRow / metadata.tileHeight) (window.rowOff / metadata.tileHeight)).trans
      (Nat.div_le_self lastRow metadata.tileHeight)
    exact (Nat.succ_le_succ hle).trans_lt (by have := hon.rowEnd_le; have := metadata.height_lt; omega)
  refine total_bind (total_lift (subUnsigned_eq_ok hcols)) fun colSpan hcolSpan => ?_
  rw [subUnsigned_eq_ok hcols] at hcolSpan
  cases hcolSpan
  refine total_bind (total_lift (addU32_eq_ok hcolFits)) fun tileCols _ => ?_
  refine total_bind (total_lift (subUnsigned_eq_ok hrows)) fun rowSpan hrowSpan => ?_
  rw [subUnsigned_eq_ok hrows] at hrowSpan
  cases hrowSpan
  refine total_bind (total_lift (addU32_eq_ok hrowFits)) fun tileRows _ => ?_
  refine total_bind (total_orElse _ _) fun count _ => ?_
  refine total_bind (total_failIf _ _) fun _ _ => ?_
  exact total_bind (total_mapM fun tile _ => total_orElse _ _) fun indices _ => total_pure _

theorem total_descriptorEntryRange (path : String) (descriptor : IndexDescriptor)
    (index objectSize : ℕ) :
    Fallible.Total (descriptorEntryRange path descriptor index objectSize) := by
  unfold descriptorEntryRange
  refine total_bind (total_failIf _ _) fun _ _ => ?_
  cases descriptor.storage with
  | inlineScalar value => exact total_bind (total_failIf _ _) fun _ _ => total_pure _
  | outOfLine base =>
    refine total_bind (total_orElse _ _) fun offset _ => ?_
    exact total_bind (total_checkedRemoteRange _ _ _ _) fun range _ => total_pure _

theorem total_decodeDescriptorValue (path : String) (descriptor : IndexDescriptor) (index : ℕ)
    (bytes : Option (List UInt8)) (tag : ℕ) :
    Fallible.Total (decodeDescriptorValue path descriptor index bytes tag) := by
  unfold decodeDescriptorValue
  cases descriptor.storage with
  | inlineScalar value => exact total_pure value
  | outOfLine base =>
    refine total_bind (total_orElse _ _) fun answer _ => ?_
    refine total_bind (total_failIf _ _) fun _ _ => ?_
    split_ifs
    · exact total_remoteUnsigned _ _ _ _
    · exact total_remoteUnsigned _ _ _ _
    · exact total_fail _

theorem total_indexRanges (path : String) (tileOffsets tileByteCounts : IndexDescriptor)
    (objectSize : ℕ) (indices : List ℕ) :
    Fallible.Total (indexRanges path tileOffsets tileByteCounts objectSize indices) := by
  induction indices with
  | nil => exact total_pure []
  | cons index indices ih =>
    refine total_bind (total_descriptorEntryRange _ _ _ _) fun offsetRange _ => ?_
    refine total_bind (total_descriptorEntryRange _ _ _ _) fun countRange _ => ?_
    exact total_bind ih fun ranges _ => total_pure _

theorem total_resolveTiles (path : String) (tileOffsets tileByteCounts : IndexDescriptor)
    (responses : List (List UInt8)) (indices : List ℕ) (responseIndex compressedBytes : ℕ) :
    Fallible.Total (resolveTiles path tileOffsets tileByteCounts responses indices responseIndex
      compressedBytes) := by
  induction indices generalizing responseIndex compressedBytes with
  | nil => exact total_pure _
  | cons index indices ih =>
    refine total_bind (total_decodeDescriptorValue _ _ _ _ _) fun offset _ => ?_
    refine total_bind (total_decodeDescriptorValue _ _ _ _ _) fun byteCount _ => ?_
    refine total_bind (total_orElse _ _) fun stop _ => ?_
    refine total_bind (total_orElse _ _) fun compressedBytes _ => ?_
    exact total_bind (ih _ _) fun rest _ => total_pure _

theorem total_responseBytes (path : String) (responses : List (List UInt8)) (total : ℕ) :
    Fallible.Total (responseBytes path responses total) := by
  induction responses generalizing total with
  | nil => exact total_pure total
  | cons response responses ih => exact total_bind (total_orElse _ _) fun total' _ => ih total'

theorem total_validateTiles (path : String) (objectSize : ℕ) (tiles : List ResolvedTile)
    (aggregate : ℕ) : Fallible.Total (validateTiles path objectSize tiles aggregate) := by
  induction tiles generalizing aggregate with
  | nil => exact total_pure []
  | cons tile tiles ih =>
    refine total_bind (total_failIf _ _) fun _ _ => ?_
    refine total_bind (total_orElse _ _) fun bytes _ => ?_
    refine total_bind (total_failIf _ _) fun _ _ => ?_
    refine total_bind (total_orElse _ _) fun aggregate' _ => ?_
    refine total_bind (total_failIf _ _) fun _ _ => ?_
    refine total_bind (total_failIf _ _) fun _ _ => ?_
    exact total_bind (ih aggregate') fun ranges _ => total_pure _

end Total

/-! ## Ranges of the object -/

section Ranges

variable {path : String} {objectSize : ℕ}

theorem inside_checkedRemoteRange {start length : ℕ} {range : ByteRange}
    (h : (checkedRemoteRange path start length objectSize).run = .ok (.ok range)) :
    range.Inside objectSize := by
  obtain ⟨rfl, hsize⟩ := checkedRemoteRange_run_eq_ok h
  exact ⟨Nat.le_add_right _ _, hsize⟩

theorem inside_remoteValueRange {entry : IfdEntry} {expectedCount : ℕ} {range : ByteRange}
    (h : (remoteValueRange path entry expectedCount objectSize).run = .ok (.ok range)) :
    range.Inside objectSize := by
  unfold remoteValueRange at h
  obtain ⟨_, -, h⟩ := Fallible.bind_run_eq_ok h
  obtain ⟨_, -, h⟩ := Fallible.bind_run_eq_ok h
  obtain ⟨_, -, h⟩ := Fallible.bind_run_eq_ok h
  obtain ⟨_, -, h⟩ := Fallible.bind_run_eq_ok h
  obtain ⟨_, -, h⟩ := Fallible.bind_run_eq_ok h
  exact inside_checkedRemoteRange h

theorem inside_readLayoutFields {format : TiffFormat} {entries : List IfdEntry} {fields : LayoutFields}
    (h : (readLayoutFields path objectSize format entries).run = .ok (.ok fields)) :
    fields.scaleRange.Inside objectSize ∧ fields.tiepointRange.Inside objectSize := by
  unfold readLayoutFields at h
  obtain ⟨_, -, h⟩ := Fallible.bind_run_eq_ok h
  obtain ⟨_, -, h⟩ := Fallible.bind_run_eq_ok h
  obtain ⟨_, -, h⟩ := Fallible.bind_run_eq_ok h
  obtain ⟨_, -, h⟩ := Fallible.bind_run_eq_ok h
  obtain ⟨scaleRange, hscale, h⟩ := Fallible.bind_run_eq_ok h
  obtain ⟨_, -, h⟩ := Fallible.bind_run_eq_ok h
  obtain ⟨tiepointRange, htiepoint, h⟩ := Fallible.bind_run_eq_ok h
  iterate 16 obtain ⟨_, -, h⟩ := Fallible.bind_run_eq_ok h
  cases h
  exact ⟨inside_remoteValueRange hscale, inside_remoteValueRange htiepoint⟩

theorem inside_descriptorEntryRange {descriptor : IndexDescriptor} {index : ℕ}
    {range : Option ByteRange}
    (h : (descriptorEntryRange path descriptor index objectSize).run = .ok (.ok range)) :
    ∀ r ∈ range.toList, r.Inside objectSize := by
  unfold descriptorEntryRange at h
  obtain ⟨_, -, h⟩ := Fallible.bind_run_eq_ok h
  cases hstorage : descriptor.storage with
  | inlineScalar value =>
    rw [hstorage] at h
    obtain ⟨_, -, h⟩ := Fallible.bind_run_eq_ok h
    cases h
    exact fun _ hr => nomatch hr
  | outOfLine base =>
    rw [hstorage] at h
    obtain ⟨_, -, h⟩ := Fallible.bind_run_eq_ok h
    obtain ⟨found, hfound, h⟩ := Fallible.bind_run_eq_ok h
    cases h
    intro r hr
    rw [List.mem_singleton.1 hr]
    exact inside_checkedRemoteRange hfound

theorem inside_indexRanges {tileOffsets tileByteCounts : IndexDescriptor} {indices : List ℕ}
    {ranges : List ByteRange}
    (h : (indexRanges path tileOffsets tileByteCounts objectSize indices).run = .ok (.ok ranges)) :
    ∀ r ∈ ranges, r.Inside objectSize := by
  induction indices generalizing ranges with
  | nil =>
    cases h
    exact fun _ hr => nomatch hr
  | cons index indices ih =>
    unfold indexRanges at h
    obtain ⟨offsetRange, hoffset, h⟩ := Fallible.bind_run_eq_ok h
    obtain ⟨countRange, hcount, h⟩ := Fallible.bind_run_eq_ok h
    obtain ⟨rest, hrest, h⟩ := Fallible.bind_run_eq_ok h
    cases h
    intro r hr
    rcases List.mem_append.1 hr with hr | hr
    · rcases List.mem_append.1 hr with hr | hr
      · exact inside_descriptorEntryRange hoffset r hr
      · exact inside_descriptorEntryRange hcount r hr
    · exact ih hrest r hr

theorem inside_validateTiles {tiles : List ResolvedTile} {aggregate : ℕ} {ranges : List ByteRange}
    (h : (validateTiles path objectSize tiles aggregate).run = .ok (.ok ranges)) :
    ∀ r ∈ ranges, r.Inside objectSize := by
  induction tiles generalizing aggregate ranges with
  | nil =>
    cases h
    exact fun _ hr => nomatch hr
  | cons tile tiles ih =>
    unfold validateTiles at h
    obtain ⟨_, hvalid, h⟩ := Fallible.bind_run_eq_ok h
    obtain ⟨_, -, h⟩ := Fallible.bind_run_eq_ok h
    obtain ⟨_, -, h⟩ := Fallible.bind_run_eq_ok h
    obtain ⟨_, -, h⟩ := Fallible.bind_run_eq_ok h
    obtain ⟨_, -, h⟩ := Fallible.bind_run_eq_ok h
    obtain ⟨_, hsize, h⟩ := Fallible.bind_run_eq_ok h
    obtain ⟨rest, hrest, h⟩ := Fallible.bind_run_eq_ok h
    cases h
    intro r hr
    rcases List.mem_cons.1 hr with rfl | hr
    · exact ⟨(not_le.1 (Fallible.failIf_run_eq_ok hvalid)).le,
        not_lt.1 (Fallible.failIf_run_eq_ok hsize)⟩
    · exact ih hrest r hr

end Ranges

/-! ## Code that reads the object -/

section Reads

variable {store : RangeStore} {path : String} {objectSize : ℕ}

theorem safe_liftM {α : Type} {x : Fallible CacheError α} (h : x.Total) :
    Traced.Safe (ByteRange.Inside objectSize) (liftM x : Remote α) fun a => x.run = .ok (.ok a) := by
  obtain ⟨result, hresult⟩ := h
  refine Traced.safe_lift ⟨result, hresult, ?_⟩
  intro a ha
  rw [hresult, ha]

theorem safe_getRange {range : ByteRange} (h : range.Inside objectSize) :
    Traced.Safe (ByteRange.Inside objectSize) (getRange store path range) fun _ => True := by
  refine Traced.safe_request ?_ fun _ _ => trivial
  intro r hr
  rw [List.mem_singleton.1 hr]
  exact h

theorem safe_getRanges {ranges : List ByteRange} (h : ∀ range ∈ ranges, range.Inside objectSize) :
    Traced.Safe (ByteRange.Inside objectSize) (getRanges store path ranges) fun _ => True :=
  Traced.safe_request h fun _ _ => trivial

open Fallible in
theorem safe_readIfdEntries (store : RangeStore) (path : String) (objectSize : ℕ) (format : TiffFormat)
    (ifdOffset : ℕ) :
    Traced.Safe (ByteRange.Inside objectSize) (readIfdEntries store path objectSize format ifdOffset)
      fun _ => True := by
  unfold readIfdEntries
  refine Traced.safe_bind (safe_liftM (total_checkedRemoteRange _ _ _ _)) fun countRange _ hcount => ?_
  refine Traced.safe_bind (safe_getRange (inside_checkedRemoteRange hcount)) fun countBytes _ _ => ?_
  refine Traced.safe_bind (safe_liftM (total_readEntryCount _ _ _)) fun entryCount _ _ => ?_
  refine Traced.safe_bind (safe_liftM (total_orElse _ _)) fun entriesLen _ hentriesLen => ?_
  refine Traced.safe_bind (safe_liftM (total_checkedRemoteLength _ _ _ _)) fun length _ hlength => ?_
  refine Traced.safe_bind (safe_liftM (total_checkedRemoteRange _ _ _ _)) fun range _ hrange => ?_
  refine Traced.safe_bind (safe_getRange (inside_checkedRemoteRange hrange)) fun entryBytes _ _ => ?_
  refine Traced.safe_bind (safe_liftM (total_failIf _ _)) fun _ _ hcomplete => ?_
  -- The answer has the bytes of whole entries.
  have hbytes : entryBytes.length = entryCount * format.entryWidth := by
    obtain ⟨rfl, -⟩ := checkedMul_eq_some (orElse_run_eq_ok hentriesLen)
    obtain ⟨_, -, hlength⟩ := bind_run_eq_ok hlength
    cases hlength
    exact not_not.1 (failIf_run_eq_ok hcomplete)
  refine Traced.safe_bind (safe_liftM (total_parseEntries hbytes)) fun entries _ _ => ?_
  exact Traced.safe_pure trivial

open Fallible in
theorem safe_remoteAsciiBytes (store : RangeStore) (path : String) (objectSize : ℕ)
    (format : TiffFormat) (entry : IfdEntry) :
    Traced.Safe (ByteRange.Inside objectSize) (remoteAsciiBytes store path objectSize format entry)
      fun _ => True := by
  unfold remoteAsciiBytes
  split_ifs with hinline
  · have hslice : 0 + entry.count ≤ (leBytes entry.value).length := by
      have hwidth : format.inlineWidth ≤ 8 := by cases format <;> decide
      have hlength : (leBytes entry.value).length = 8 := by simp [leBytes]
      omega
    refine Traced.safe_bind (safe_liftM (total_lift (readSlice_eq_ok hslice))) fun raw _ _ => ?_
    exact Traced.safe_pure trivial
  · refine Traced.safe_bind (safe_liftM (total_checkedRemoteRange _ _ _ _)) fun range _ hrange => ?_
    refine Traced.safe_bind (safe_getRange (inside_checkedRemoteRange hrange)) fun bytes _ _ => ?_
    refine Traced.safe_bind (safe_liftM (total_failIf _ _)) fun _ _ _ => ?_
    exact Traced.safe_pure trivial

open Fallible in
theorem safe_remoteAscii (store : RangeStore) (path : String) (objectSize : ℕ) (format : TiffFormat)
    (entries : List IfdEntry) (tag : ℕ) :
    Traced.Safe (ByteRange.Inside objectSize) (remoteAscii store path objectSize format entries tag)
      fun _ => True := by
  unfold remoteAscii
  cases entries.find? (·.tag = tag) with
  | none => exact Traced.safe_pure trivial
  | some entry =>
    refine Traced.safe_bind (safe_liftM (total_failIf _ _)) fun _ _ _ => ?_
    refine Traced.safe_bind (safe_liftM (total_failIf _ _)) fun _ _ _ => ?_
    refine Traced.safe_bind (safe_remoteAsciiBytes _ _ _ _ _) fun raw _ _ => ?_
    refine Traced.safe_bind (safe_liftM (total_orElse _ _)) fun text _ _ => ?_
    exact Traced.safe_pure trivial

theorem safe_readTransform {scaleRange tiepointRange : ByteRange}
    (hscale : scaleRange.Inside objectSize) (htiepoint : tiepointRange.Inside objectSize) :
    Traced.Safe (ByteRange.Inside objectSize) (readTransform store path scaleRange tiepointRange)
      fun _ => True := by
  have hranges : ∀ range ∈ [scaleRange, tiepointRange], range.Inside objectSize := by
    simp [hscale, htiepoint]
  refine Traced.safe_bind (safe_getRanges hranges) fun values _ _ => ?_
  split
  · exact Traced.safe_pure trivial
  · exact Traced.safe_lift ⟨_, rfl, fun _ _ => trivial⟩

open Fallible in
/-- **The header of any object.** -/
theorem safe_readRemoteLayout (store : RangeStore) (path : String) (objectSize : ℕ) :
    Traced.Safe (ByteRange.Inside objectSize) (readRemoteLayout store path objectSize)
      fun _ => True := by
  have hu16 : ∀ reason value, Fallible.Total (fitsU16 path reason value) := fun _ _ =>
    total_bind (total_failIf _ _) fun _ _ => total_pure _
  unfold readRemoteLayout
  refine Traced.safe_bind (safe_liftM (total_checkedRemoteRange _ _ _ _)) fun range _ hrange => ?_
  refine Traced.safe_bind (safe_getRange (inside_checkedRemoteRange hrange)) fun header _ _ => ?_
  refine Traced.safe_bind (safe_liftM (total_readTiffHeader _ _)) fun directory _ _ => ?_
  refine Traced.safe_bind (safe_readIfdEntries _ _ _ _ _) fun entries _ _ => ?_
  refine Traced.safe_bind (safe_liftM (total_readLayoutFields _ _ _ _)) fun fields _ hfields => ?_
  refine Traced.safe_bind (safe_remoteAscii _ _ _ _ _ _) fun nodata _ _ => ?_
  obtain ⟨hscale, htiepoint⟩ := inside_readLayoutFields hfields
  refine Traced.safe_bind (safe_readTransform hscale htiepoint) fun values _ _ => ?_
  refine Traced.safe_bind (safe_liftM (total_checkedRemoteBytesRead _ _ _)) fun bytesRead _ _ => ?_
  refine Traced.safe_bind (safe_liftM (total_remoteDoubles _ _ _)) fun scale _ _ => ?_
  refine Traced.safe_bind (safe_liftM (total_remoteDoubles _ _ _)) fun tiepoint _ _ => ?_
  refine Traced.safe_bind (safe_liftM (hu16 _ _)) fun compression _ _ => ?_
  refine Traced.safe_bind (safe_liftM (hu16 _ _)) fun predictor _ _ => ?_
  exact Traced.safe_pure trivial

/-- The metadata of an accepted header has a layout that can be planned. -/
theorem safe_readHeader (store : RangeStore) (path : String) (objectSize : ℕ) (kind : RasterKind) :
    Traced.Safe (ByteRange.Inside objectSize) (readHeader store path objectSize kind)
      fun header => header.metadata.Merit := by
  unfold readHeader
  refine Traced.safe_bind (safe_readRemoteLayout _ _ _) fun layout _ _ => ?_
  refine Traced.safe_bind (safe_liftM (total_metadataFromLayout _ _)) fun metadata _ _ => ?_
  refine Traced.safe_bind (safe_liftM (total_validateMeritLayout _ _ _)) fun _ _ hvalid => ?_
  exact Traced.safe_pure (merit_of_validateMeritLayout hvalid)

open Fallible in
theorem safe_resolveTilePlan (store : RangeStore) (path : String) (index : CogIndex)
    (geometry : TilePlan) (objectSize : ℕ) :
    Traced.Safe (ByteRange.Inside objectSize) (resolveTilePlan store path index geometry objectSize)
      fun resolved => resolved.1.objectSize = objectSize := by
  unfold resolveTilePlan
  refine Traced.safe_bind (safe_liftM (total_indexRanges _ _ _ _ _)) fun ranges _ hranges => ?_
  have hresponses : Traced.Safe (ByteRange.Inside objectSize) (indexResponses store path ranges)
      fun _ => True := by
    unfold indexResponses
    split_ifs
    · exact Traced.safe_pure trivial
    · exact safe_getRanges (inside_indexRanges hranges)
  refine Traced.safe_bind hresponses fun responses _ _ => ?_
  refine Traced.safe_bind (safe_liftM (total_failIf _ _)) fun _ _ _ => ?_
  refine Traced.safe_bind (safe_liftM (total_resolveTiles _ _ _ _ _ _ _)) fun tiles _ _ => ?_
  refine Traced.safe_bind (safe_liftM (total_responseBytes _ _ _)) fun indexBytes _ _ => ?_
  exact Traced.safe_pure rfl

end Reads

/-! ## Pixel bounds -/

namespace CogMetadata

/-- The test of `from_bbox`: neither pixel size has the wrong sign. -/
def NorthUp (metadata : CogMetadata) : Prop :=
  ¬(metadata.pixelWidth.isNonpos ∨ metadata.pixelHeight.isNonneg)

/-- No pixel bound lies at the end of `i64` at which it is padded. -/
structure BoundsFit (metadata : CogMetadata) (bbox : Rect) : Prop where
  minCol : (pixelQuotient bbox.min.x metadata.originX metadata.pixelWidth).floorI64 ≠ F64.i64Min
  maxCol : (pixelQuotient bbox.max.x metadata.originX metadata.pixelWidth).ceilI64 ≠ F64.i64Max
  minRow : (pixelQuotient bbox.max.y metadata.originY metadata.pixelHeight).floorI64 ≠ F64.i64Min
  maxRow : (pixelQuotient bbox.min.y metadata.originY metadata.pixelHeight).ceilI64 ≠ F64.i64Max

end CogMetadata

section Bounds

variable {metadata : CogMetadata} {bbox : Rect}

theorem toI64_bounds (toInt : ℚ → ℤ) (x : F64) :
    F64.i64Min ≤ x.toI64 toInt ∧ x.toI64 toInt ≤ F64.i64Max := by
  unfold F64.toI64 F64.saturate F64.i64Min F64.i64Max
  cases x with
  | nan => exact ⟨by norm_num, by norm_num⟩
  | infinity negative => cases negative <;> exact ⟨by norm_num, by norm_num⟩
  | finite q =>
    dsimp only
    constructor <;> omega

theorem predI64_eq_ok_iff {n : ℤ} (h : F64.i64Min ≤ n) :
    (∃ m, predI64 n = .ok m) ↔ n ≠ F64.i64Min := by
  unfold predI64
  split_ifs with hfits
  · exact iff_of_true ⟨_, rfl⟩ (by omega)
  · refine iff_of_false (fun h => ?_) (by omega)
    obtain ⟨m, hm⟩ := h
    cases hm

theorem succI64_eq_ok_iff {n : ℤ} (h : n ≤ F64.i64Max) :
    (∃ m, succI64 n = .ok m) ↔ n ≠ F64.i64Max := by
  unfold succI64
  split_ifs with hfits
  · exact iff_of_true ⟨_, rfl⟩ (by omega)
  · refine iff_of_false (fun h => ?_) (by omega)
    obtain ⟨m, hm⟩ := h
    cases hm

/-- Lifted code in sequence aborts when it aborts. -/
theorem total_lift_bind_iff {ε α β : Type} {x : Exec α} {f : α → Fallible ε β} :
    Fallible.Total ((liftM x : Fallible ε α) >>= f) ↔ ∃ a, x = .ok a ∧ Fallible.Total (f a) := by
  cases x with
  | error p =>
    refine iff_of_false (fun h => ?_) (fun h => ?_)
    · obtain ⟨r, hr⟩ := h
      cases hr
    · obtain ⟨a, ha, -⟩ := h
      cases ha
  | ok a =>
    refine ⟨fun h => ⟨a, rfl, h⟩, fun h => ?_⟩
    obtain ⟨b, hb, hf⟩ := h
    cases hb
    exact hf

/-- **The one place that aborts.** -/
theorem total_fromBbox_f64_iff :
    Fallible.Total (RasterPixelWindow.fromBbox .f64 metadata bbox) ↔
      (metadata.NorthUp → metadata.BoundsFit bbox) := by
  have hbounds : ∀ minCol maxCol minRow maxRow, Fallible.Total
      (RasterPixelWindow.ofBounds metadata minCol maxCol minRow maxRow) := fun _ _ _ _ =>
    Fallible.total_bind (Fallible.total_failIf _ _) fun _ _ => Fallible.total_pure _
  unfold RasterPixelWindow.fromBbox CogMetadata.NorthUp PixelArith.f64
  by_cases hnorth : metadata.pixelWidth.isNonpos ∨ metadata.pixelHeight.isNonneg
  · rw [Fallible.failIf, if_pos hnorth]
    exact iff_of_true (Fallible.total_fail _) (fun h => absurd hnorth h)
  · rw [Fallible.failIf, if_neg hnorth, pure_bind]
    simp only [total_lift_bind_iff, hbounds, and_true, hnorth, not_false_eq_true, true_imp_iff]
    simp only [exists_and_right, predI64_eq_ok_iff (toI64_bounds _ _).1,
      succI64_eq_ok_iff (toI64_bounds _ _).2, F64.floorI64, F64.ceilI64]
    refine ⟨fun h => ⟨h.1, h.2.1, h.2.2.1, h.2.2.2⟩, fun h => ⟨h.minCol, h.maxCol, h.minRow, h.maxRow⟩⟩

theorem total_unsupported_iff {α : Type} {path : String} {x : Fallible String α} :
    Fallible.Total (unsupported path x) ↔ Fallible.Total x := by
  unfold unsupported Fallible.Total
  rw [ExceptT.run_mk]
  cases x.run with
  | error p =>
    refine iff_of_false (fun h => ?_) (fun h => ?_)
    · obtain ⟨r, hr⟩ := h
      cases hr
    · obtain ⟨r, hr⟩ := h
      cases hr
  | ok result => exact iff_of_true ⟨_, rfl⟩ ⟨result, rfl⟩

theorem unsupported_run_eq_ok {α : Type} {path : String} {x : Fallible String α} {a : α}
    (h : (unsupported path x).run = .ok (.ok a)) : x.run = .ok (.ok a) := by
  unfold unsupported at h
  rw [ExceptT.run_mk] at h
  cases hx : x.run with
  | error p =>
    rw [hx] at h
    cases h
  | ok result =>
    rw [hx] at h
    cases result with
    | error e => cases h
    | ok b =>
      cases h
      rfl

end Bounds

/-! ## The chain -/

section Chain

variable {store : RangeStore} {path : String} {objectSize : ℕ} {bbox : Rect} {header : AcceptedHeader}

/-- Planning a window of an accepted header aborts exactly where a pixel bound does not fit. -/
theorem safe_planHeader_iff (hmerit : header.metadata.Merit) :
    Traced.Safe (ByteRange.Inside objectSize) (planHeader store path objectSize bbox header)
      (fun ranges => ∀ range ∈ ranges, range.Inside objectSize) ↔
      (header.metadata.NorthUp → header.metadata.BoundsFit bbox) := by
  unfold planHeader
  rw [← @total_fromBbox_f64_iff header.metadata, ← @total_unsupported_iff _ path]
  constructor
  · intro hsafe
    by_contra hnot
    obtain ⟨result, hresult, -⟩ := hsafe.returns
    cases hwindow : (unsupported path (RasterPixelWindow.fromBbox .f64 header.metadata bbox)).run with
    | error p =>
      rw [Traced.bind_of_abort hwindow] at hresult
      cases hresult
    | ok outcome => exact hnot ⟨outcome, hwindow⟩
  · intro htotal
    refine Traced.safe_bind (safe_liftM htotal) fun window _ hwindow => ?_
    have hon := RasterPixelWindow.on_of_fromBbox (unsupported_run_eq_ok hwindow)
    refine Traced.safe_bind (safe_liftM (total_forWindow hmerit hon path)) fun geometry _ _ => ?_
    refine Traced.safe_bind (safe_resolveTilePlan _ _ _ _ _) fun resolved _ hsize => ?_
    refine Traced.safe_bind (safe_liftM (Fallible.total_orElse _ _)) fun _ _ _ => ?_
    refine (safe_liftM (total_validateTiles _ _ _ _)).mono fun ranges hranges => ?_
    rw [← hsize]
    exact inside_validateTiles hranges

/-- **Robustness against any object.** For every store, object size, raster kind and bounding box, the
chain ends with a value or an error, requests only ranges of the object, and returns only tile ranges of
the object, exactly when no pixel bound of an accepted north-up header lies at the end of `i64` at which
it is padded. -/
theorem plannedRanges_safe_iff (store : RangeStore) (path : String) (objectSize : ℕ)
    (kind : RasterKind) (bbox : Rect) :
    Traced.Safe (ByteRange.Inside objectSize) (plannedRanges store path objectSize kind bbox)
      (fun ranges => ∀ range ∈ ranges, range.Inside objectSize) ↔
      ∀ header, (readHeader store path objectSize kind).outcome = .ok (.ok header) →
        header.metadata.NorthUp → header.metadata.BoundsFit bbox := by
  have hheader := safe_readHeader store path objectSize kind
  unfold plannedRanges
  constructor
  · intro hsafe header houtcome
    obtain ⟨result, hresult, hmerit⟩ := hheader.returns
    rw [houtcome] at hresult
    cases hresult
    rw [Traced.bind_of_ok houtcome] at hsafe
    refine (safe_planHeader_iff (hmerit header rfl)).1 ⟨?_, hsafe.returns⟩
    intro range hrange
    exact hsafe.log_inside range (List.mem_append_right _ hrange)
  · intro hfits
    refine Traced.safe_bind hheader fun header houtcome hmerit => ?_
    exact (safe_planHeader_iff hmerit).2 (hfits header houtcome)

end Chain

/-- A classic directory entry. -/
def classicEntry (tag fieldType count value : ℕ) : List UInt8 :=
  (leBytes tag).take 2 ++ (leBytes fieldType).take 2 ++ (leBytes count).take 4 ++ (leBytes value).take 4

/-- A raster of one tile with unit pixels, whose west edge is at `2^63`. -/
def distantTiff : List UInt8 :=
  [0x49, 0x49, 42, 0, 16, 0, 0, 0] ++ List.replicate 8 0 ++ [15, 0] ++
    classicEntry 256 3 1 512 ++ classicEntry 257 3 1 512 ++ classicEntry 258 3 1 8 ++
    classicEntry 259 3 1 8 ++ classicEntry 262 3 1 1 ++ classicEntry 277 3 1 1 ++
    classicEntry 284 3 1 1 ++ classicEntry 317 3 1 1 ++ classicEntry 322 3 1 512 ++
    classicEntry 323 3 1 512 ++ classicEntry 324 4 1 270 ++ classicEntry 325 4 1 8 ++
    classicEntry 339 3 1 1 ++ classicEntry 33550 12 3 198 ++ classicEntry 33922 12 6 222 ++
    leBytes 0x3FF0000000000000 ++ leBytes 0x3FF0000000000000 ++ leBytes 0 ++ leBytes 0 ++ leBytes 0 ++
    leBytes 0 ++ leBytes 0x43E0000000000000 ++ leBytes 0 ++ leBytes 0 ++ List.replicate 8 0

def squareAtOrigin : Rect where
  min := ⟨0, -1⟩
  max := ⟨1, 0⟩
  x_le := by norm_num
  y_le := by norm_num

/-- The west bound of the square is pixel `-2^63`, and padding it overflows. -/
theorem not_plannedRanges_safe :
    ¬∀ (content : List UInt8) (kind : RasterKind) (bbox : Rect),
      Traced.Safe (ByteRange.Inside content.length)
        (plannedRanges (.ofBytes content) "flow_dir.tif" content.length kind bbox)
        fun ranges => ∀ range ∈ ranges, range.Inside content.length := by
  intro h
  obtain ⟨result, hresult, -⟩ := (h distantTiff .flowDir squareAtOrigin).returns
  have hlength : distantTiff.length = 278 := by decide +kernel
  have haborts : (plannedRanges (.ofBytes distantTiff) "flow_dir.tif" 278 .flowDir
      squareAtOrigin).outcome.isOk = false := by decide +kernel
  rw [hlength] at hresult
  rw [hresult] at haborts
  cases haborts

end Pourpoint
