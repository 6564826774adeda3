import Pourpoint.Cog.Header
import Pourpoint.Cog.Window
import Pourpoint.Library.Success

/-!
# Resolving planned tiles

`resolve_tile_plan` reads the entries of `TileOffsets` and `TileByteCounts` for the planned tiles. An
array is either in the value field of its directory entry or elsewhere in the object, and the answers to
the range requests of both arrays come back in one list.

`tileIndexEntry` is the meaning of an entry: the bytes of the element, wherever they are, by the
declared field type. The resolved ranges are these (`resolveTilePlan_ranges_iff`) unless a `LONG` stands
in the value field of a BigTIFF entry with other bytes behind it: the code reads all eight. The two arrays
of a layout are those of directory entries with their tags (`describesArray_of_readRemoteLayout`).
-/

namespace Pourpoint

open Library

/-! ## Tile index entries -/

/-- `descriptor_entry_range`. An inline value has none. -/
def descriptorEntryRange (path : String) (descriptor : IndexDescriptor) (index objectSize : ℕ) :
    Fallible CacheError (Option ByteRange) := do
  Fallible.failIf (descriptor.count ≤ index)
    (remoteLayoutError path s!"TIFF tile-index entry {index} exceeds descriptor count")
  match descriptor.storage with
  | .inlineScalar _ => do
    Fallible.failIf (descriptor.count ≠ 1 ∨ index ≠ 0)
      (remoteLayoutError path "TIFF inline tile-index descriptor is not scalar")
    pure none
  | .outOfLine base => do
    let offset ← Fallible.orElse (remoteLayoutError path "TIFF tile-index entry offset overflow")
      ((checkedMul 64 index descriptor.elementWidth).bind (checkedAdd 64 base ·))
    let range ← checkedRemoteRange path offset descriptor.elementWidth objectSize
    pure (some range)

/-- `decode_descriptor_value`. -/
def decodeDescriptorValue (path : String) (descriptor : IndexDescriptor) (index : ℕ)
    (bytes : Option (List UInt8)) (tag : ℕ) : Fallible CacheError ℕ :=
  match descriptor.storage with
  | .inlineScalar value => pure value
  | .outOfLine _ => do
    let bytes ← Fallible.orElse (remoteLayoutError path
      s!"TIFF tile-index tag {tag} entry {index} response is missing") bytes
    Fallible.failIf (bytes.length ≠ descriptor.elementWidth) (remoteLayoutError path
      s!"TIFF tile-index tag {tag} entry {index} returned {bytes.length} bytes, expected {descriptor.elementWidth}")
    if descriptor.fieldType = 4 then remoteU32 path bytes
    else if descriptor.fieldType = 16 then remoteU64 path bytes
    else Fallible.fail (remoteLayoutError path
      s!"unsupported TIFF tile-index field type {descriptor.fieldType}")

/-- The range requests of the planned tiles, for each tile the offset before the byte count. -/
def indexRanges (path : String) (tileOffsets tileByteCounts : IndexDescriptor) (objectSize : ℕ) :
    List ℕ → Fallible CacheError (List ByteRange)
  | [] => pure []
  | index :: indices => do
    let offsetRange ← descriptorEntryRange path tileOffsets index objectSize
    let countRange ← descriptorEntryRange path tileByteCounts index objectSize
    let ranges ← indexRanges path tileOffsets tileByteCounts objectSize indices
    pure (offsetRange.toList ++ countRange.toList ++ ranges)

/-- The next answer for an array, and the position after it. -/
def entryResponse (descriptor : IndexDescriptor) (responses : List (List UInt8)) (responseIndex : ℕ) :
    Option (List UInt8) × ℕ :=
  match descriptor.storage with
  | .outOfLine _ => (responses[responseIndex]?, responseIndex + 1)
  | .inlineScalar _ => (none, responseIndex)

/-- The loop over the planned tiles: the tiles and the sum of their byte counts. -/
def resolveTiles (path : String) (tileOffsets tileByteCounts : IndexDescriptor)
    (responses : List (List UInt8)) : List ℕ → ℕ → ℕ → Fallible CacheError (List ResolvedTile × ℕ)
  | [], _, compressedBytes => pure ([], compressedBytes)
  | index :: indices, responseIndex, compressedBytes => do
    let offsetResponse := entryResponse tileOffsets responses responseIndex
    let countResponse := entryResponse tileByteCounts responses offsetResponse.2
    let offset ← decodeDescriptorValue path tileOffsets index offsetResponse.1 324
    let byteCount ← decodeDescriptorValue path tileByteCounts index countResponse.1 325
    let stop ← Fallible.orElse (remoteLayoutError path "TIFF compressed chunk end overflow")
      (checkedAdd 64 offset byteCount)
    let compressedBytes ← Fallible.orElse
      (remoteLayoutError path "TIFF covered compressed bytes overflow")
      (checkedAdd 64 compressedBytes byteCount)
    let (tiles, total) ← resolveTiles path tileOffsets tileByteCounts responses indices
      countResponse.2 compressedBytes
    pure (⟨index, offset, stop⟩ :: tiles, total)

/-- The bytes of all answers. -/
def responseBytes (path : String) : List (List UInt8) → ℕ → Fallible CacheError ℕ
  | [], total => pure total
  | response :: responses, total => do
    let total ← Fallible.orElse (remoteLayoutError path "TIFF index response bytes overflow")
      (checkedAdd 64 total response.length)
    responseBytes path responses total

/-- The answers to the range requests; without requests the store is not asked. -/
def indexResponses (store : RangeStore) (path : String) (ranges : List ByteRange) :
    Remote (List (List UInt8)) :=
  if ranges.isEmpty then pure [] else getRanges store path ranges

/-- The index arrays are all that is read of the metadata. -/
def resolveTilePlan (store : RangeStore) (path : String) (index : CogIndex) (geometry : TilePlan)
    (objectSize : ℕ) : Remote (ResolvedTilePlan × ℕ) := do
  let ranges ← indexRanges path index.tileOffsets index.tileByteCounts objectSize geometry.indices
  let responses ← indexResponses store path ranges
  (Fallible.failIf (responses.length ≠ ranges.length) (remoteLayoutError path
    s!"TIFF tile-index response count {responses.length}, expected {ranges.length}"))
  let (tiles, compressedBytes) ← resolveTiles path index.tileOffsets index.tileByteCounts responses
    geometry.indices 0 0
  let indexBytes ← responseBytes path responses 0
  pure (⟨objectSize, tiles, compressedBytes⟩, indexBytes)

/-! ## The meaning of an entry -/

section Meaning

variable (format : TiffFormat) (entry : List UInt8)

/-- The field type of a directory entry. -/
def entryFieldType : ℕ := leValue ((entry.drop 2).take 2)

/-- The number of elements. -/
def entryCount : ℕ := leValue ((entry.drop 4).take format.inlineWidth)

/-- The value field. It has as many bytes as the count. -/
def entryValueField : List UInt8 := (entry.drop (4 + format.inlineWidth)).take format.inlineWidth

/-- The bytes of an element of a `LONG` or `LONG8` array. -/
def tileElementWidth : ℕ := if entryFieldType entry = 16 then 8 else 4

/-- The array is in the value field. -/
def IsInline : Prop := entryCount format entry * tileElementWidth entry ≤ format.inlineWidth

instance : Decidable (IsInline format entry) := inferInstanceAs (Decidable (_ ≤ _))

/-- Element `i` of the array: the bytes that belong to it, as a little-endian number. -/
def tileIndexEntry (content : List UInt8) (i : ℕ) : ℕ :=
  let width := tileElementWidth entry
  if IsInline format entry then leValue (((entryValueField format entry).drop (i * width)).take width)
  else
    let start := leValue (entryValueField format entry) + i * width
    leValue (byteSlice content ⟨start, start + width⟩)

/-- The value field has only zeros behind an array that is in it. -/
def PaddingZero : Prop :=
  IsInline format entry → ∀ byte ∈ (entryValueField format entry).drop
    (entryCount format entry * tileElementWidth entry), byte = 0

instance : Decidable (PaddingZero format entry) := inferInstanceAs (Decidable (_ → _))

end Meaning

/-! ## Little-endian numbers -/

theorem leValue_eq_zero_iff {bytes : List UInt8} : leValue bytes = 0 ↔ ∀ byte ∈ bytes, byte = 0 := by
  induction bytes with
  | nil => simp [leValue]
  | cons byte bytes ih =>
    have hbyte : byte.toNat = 0 ↔ byte = 0 := by
      rw [← UInt8.toNat_inj]
      rfl
    rw [leValue, Nat.add_eq_zero_iff, mul_eq_zero, List.forall_mem_cons, hbyte, ih]
    simp

theorem leValue_take_eq_iff {bytes : List UInt8} {n : ℕ} :
    leValue bytes = leValue (bytes.take n) ↔ ∀ byte ∈ bytes.drop n, byte = 0 := by
  have hsplit : leValue bytes =
      leValue (bytes.take n) + 256 ^ (bytes.take n).length * leValue (bytes.drop n) := by
    rw [← leValue_append, List.take_append_drop]
  rw [← leValue_eq_zero_iff, hsplit, Nat.add_eq_left, mul_eq_zero]
  simp

/-! ## What is resolved -/

section Lift

variable {α : Type}

@[simp]
theorem lift_outcome (x : Fallible CacheError α) : (liftM x : Remote α).outcome = x.run := rfl

theorem getRanges_outcome_eq_ok {store : RangeStore} {path : String} {ranges : List ByteRange}
    {responses : List (List UInt8)}
    (h : (getRanges store path ranges).outcome = .ok (.ok responses)) :
    store.getRanges ranges = .ok responses := by
  unfold getRanges Traced.request at h
  cases hresponse : store.getRanges ranges with
  | error error =>
    rw [hresponse] at h
    cases h
  | ok found =>
    rw [hresponse] at h
    cases h
    rfl

end Lift

/-- The value that is used for an entry of an array. -/
def IndexDescriptor.usedValue (descriptor : IndexDescriptor) (content : List UInt8) (index : ℕ) : ℕ :=
  match descriptor.storage with
  | .inlineScalar value => value
  | .outOfLine base =>
    let start := base + index * descriptor.elementWidth
    leValue (byteSlice content ⟨start, start + descriptor.elementWidth⟩)

section Resolve

variable {path : String} {descriptor : IndexDescriptor} {index objectSize : ℕ} {content : List UInt8}

theorem checkedRemoteRange_run_eq_ok {start length : ℕ} {range : ByteRange}
    (h : (checkedRemoteRange path start length objectSize).run = .ok (.ok range)) :
    range = ⟨start, start + length⟩ ∧ start + length ≤ objectSize := by
  unfold checkedRemoteRange at h
  obtain ⟨stop, hstop, h⟩ := Fallible.bind_run_eq_ok h
  obtain ⟨_, hsize, h⟩ := Fallible.bind_run_eq_ok h
  obtain ⟨rfl, -⟩ := checkedAdd_eq_some (Fallible.orElse_run_eq_ok hstop)
  have hsize := Fallible.failIf_run_eq_ok hsize
  cases h
  exact ⟨rfl, not_lt.1 hsize⟩

/-- An entry is in the value field, alone in its array, or has its range requested. -/
theorem descriptorEntryRange_run_eq_ok {range : Option ByteRange}
    (h : (descriptorEntryRange path descriptor index objectSize).run = .ok (.ok range)) :
    index < descriptor.count ∧
      match descriptor.storage with
      | .inlineScalar _ => range = none ∧ descriptor.count = 1 ∧ index = 0
      | .outOfLine base => range = some ⟨base + index * descriptor.elementWidth,
          base + index * descriptor.elementWidth + descriptor.elementWidth⟩ := by
  unfold descriptorEntryRange at h
  obtain ⟨_, hcount, h⟩ := Fallible.bind_run_eq_ok h
  refine ⟨not_le.1 (Fallible.failIf_run_eq_ok hcount), ?_⟩
  cases hstorage : descriptor.storage with
  | inlineScalar value =>
    rw [hstorage] at h
    obtain ⟨_, hscalar, h⟩ := Fallible.bind_run_eq_ok h
    have hscalar := Fallible.failIf_run_eq_ok hscalar
    cases h
    exact ⟨rfl, by omega, by omega⟩
  | outOfLine base =>
    rw [hstorage] at h
    obtain ⟨offset, hoffset, h⟩ := Fallible.bind_run_eq_ok h
    obtain ⟨found, hfound, h⟩ := Fallible.bind_run_eq_ok h
    obtain ⟨product, hproduct, hsum⟩ := Option.bind_eq_some_iff.1 (Fallible.orElse_run_eq_ok hoffset)
    obtain ⟨rfl, -⟩ := checkedMul_eq_some hproduct
    obtain ⟨rfl, -⟩ := checkedAdd_eq_some hsum
    obtain ⟨rfl, -⟩ := checkedRemoteRange_run_eq_ok hfound
    cases h
    rfl

theorem remoteUnsigned_run_eq_ok {width : ℕ} {missing : String} {bytes : List UInt8} {value : ℕ}
    (h : (remoteUnsigned width missing path bytes).run = .ok (.ok value)) :
    bytes.length = width ∧ value = leValue bytes := by
  unfold remoteUnsigned at h
  obtain ⟨_, hlength, h⟩ := Fallible.bind_run_eq_ok h
  have hlength := Fallible.failIf_run_eq_ok hlength
  cases h
  exact ⟨not_not.1 hlength, rfl⟩

/-- The value of an entry comes from the value field or from the answer. -/
theorem decodeDescriptorValue_run_eq_ok {bytes : Option (List UInt8)} {tag value : ℕ}
    (h : (decodeDescriptorValue path descriptor index bytes tag).run = .ok (.ok value)) :
    match descriptor.storage with
    | .inlineScalar inlined => value = inlined
    | .outOfLine _ => ∃ answer, bytes = some answer ∧ value = leValue answer := by
  unfold decodeDescriptorValue at h
  cases hstorage : descriptor.storage with
  | inlineScalar inlined =>
    rw [hstorage] at h
    cases h
    rfl
  | outOfLine base =>
    rw [hstorage] at h
    obtain ⟨answer, hanswer, h⟩ := Fallible.bind_run_eq_ok h
    obtain ⟨_, -, h⟩ := Fallible.bind_run_eq_ok h
    refine ⟨answer, Fallible.orElse_run_eq_ok hanswer, ?_⟩
    split_ifs at h
    · exact (remoteUnsigned_run_eq_ok h).2
    · exact (remoteUnsigned_run_eq_ok h).2
    · cases h

/-- One array of one tile: the value that is used, and the answers that remain. -/
theorem entryResponse_spec {responses rest : List (List UInt8)} {position tag value : ℕ}
    {range : Option ByteRange}
    (hrange : (descriptorEntryRange path descriptor index objectSize).run = .ok (.ok range))
    (hresponses : responses.drop position = (range.toList.map (byteSlice content)) ++ rest)
    (hvalue : (decodeDescriptorValue path descriptor index
      (entryResponse descriptor responses position).1 tag).run = .ok (.ok value)) :
    value = descriptor.usedValue content index ∧
      responses.drop (entryResponse descriptor responses position).2 = rest := by
  obtain ⟨-, hrange⟩ := descriptorEntryRange_run_eq_ok hrange
  have hvalue := decodeDescriptorValue_run_eq_ok hvalue
  unfold entryResponse at hvalue ⊢
  unfold IndexDescriptor.usedValue
  cases hstorage : descriptor.storage with
  | inlineScalar inlined =>
    rw [hstorage] at hvalue hrange
    obtain ⟨rfl, -, -⟩ := hrange
    exact ⟨hvalue, hresponses⟩
  | outOfLine base =>
    rw [hstorage] at hvalue hrange
    rw [hrange] at hresponses
    obtain ⟨answer, hanswer, rfl⟩ := hvalue
    have hanswer : responses[position]? = some answer := hanswer
    rw [← List.head?_drop, hresponses] at hanswer
    cases hanswer
    refine ⟨rfl, ?_⟩
    show responses.drop (position + 1) = rest
    rw [← List.tail_drop, hresponses]
    rfl

/-- **The loop over the tiles.** Each planned tile gets the values of its own entries: the answers that
are left are those of the tiles that are left. -/
theorem resolveTiles_run_eq_ok {tileOffsets tileByteCounts : IndexDescriptor} {indices : List ℕ}
    {ranges : List ByteRange} {responses : List (List UInt8)} {position compressedBytes total : ℕ}
    {tiles : List ResolvedTile}
    (hranges : (indexRanges path tileOffsets tileByteCounts objectSize indices).run = .ok (.ok ranges))
    (hresponses : responses.drop position = ranges.map (byteSlice content))
    (h : (resolveTiles path tileOffsets tileByteCounts responses indices position
      compressedBytes).run = .ok (.ok (tiles, total))) :
    tiles = indices.map (fun i => ⟨i, tileOffsets.usedValue content i,
        tileOffsets.usedValue content i + tileByteCounts.usedValue content i⟩) ∧
      ∀ i ∈ indices, ∀ descriptor ∈ [tileOffsets, tileByteCounts], ∃ range,
        (descriptorEntryRange path descriptor i objectSize).run = .ok (.ok range) := by
  induction indices generalizing ranges position compressedBytes tiles total with
  | nil =>
    cases h
    exact ⟨rfl, fun _ hi => nomatch hi⟩
  | cons index indices ih =>
    unfold indexRanges at hranges
    obtain ⟨offsetRange, hoffsetRange, hranges⟩ := Fallible.bind_run_eq_ok hranges
    obtain ⟨countRange, hcountRange, hranges⟩ := Fallible.bind_run_eq_ok hranges
    obtain ⟨rest, hrest, hranges⟩ := Fallible.bind_run_eq_ok hranges
    cases hranges
    unfold resolveTiles at h
    obtain ⟨offset, hoffset, h⟩ := Fallible.bind_run_eq_ok h
    obtain ⟨byteCount, hbyteCount, h⟩ := Fallible.bind_run_eq_ok h
    obtain ⟨stop, hstop, h⟩ := Fallible.bind_run_eq_ok h
    obtain ⟨compressedBytes', -, h⟩ := Fallible.bind_run_eq_ok h
    obtain ⟨⟨tiles', total'⟩, htiles, h⟩ := Fallible.bind_run_eq_ok h
    cases h
    rw [List.map_append, List.map_append, List.append_assoc] at hresponses
    obtain ⟨rfl, hafterOffset⟩ := entryResponse_spec hoffsetRange hresponses hoffset
    obtain ⟨rfl, hafterCount⟩ := entryResponse_spec hcountRange hafterOffset hbyteCount
    obtain ⟨rfl, hsound⟩ := ih hrest hafterCount htiles
    obtain ⟨rfl, -⟩ := checkedAdd_eq_some (Fallible.orElse_run_eq_ok hstop)
    refine ⟨rfl, ?_⟩
    intro i hi descriptor hdescriptor
    rcases List.mem_cons.1 hi with rfl | hi
    · simp only [List.mem_cons, List.not_mem_nil, or_false] at hdescriptor
      rcases hdescriptor with rfl | rfl
      · exact ⟨_, hoffsetRange⟩
      · exact ⟨_, hcountRange⟩
    · exact hsound i hi descriptor hdescriptor

end Resolve

/-! ## Descriptors of entries -/

section Descriptor

variable {path : String} {format : TiffFormat} {entry : List UInt8} {parsed : IfdEntry}
  {descriptor : IndexDescriptor} {objectSize : ℕ} {content : List UInt8}

theorem remoteUnsigned_slice {width start : ℕ} {missing : String} {value : ℕ} {part : List UInt8}
    (hslice : (liftM (readSlice entry start width) : Fallible CacheError _).run = .ok (.ok part))
    (h : (remoteUnsigned width missing path part).run = .ok (.ok value)) :
    value = leValue ((entry.drop start).take width) := by
  rw [(remoteUnsigned_run_eq_ok h).2, readSlice_of_ok (Fallible.lift_run_eq_ok hslice)]

theorem remoteIfdEntry_run_eq_ok (h : (remoteIfdEntry path format entry).run = .ok (.ok parsed)) :
    parsed.fieldType = entryFieldType entry ∧ parsed.count = entryCount format entry ∧
      parsed.value = leValue (entryValueField format entry) := by
  unfold remoteIfdEntry at h
  obtain ⟨tagBytes, -, h⟩ := Fallible.bind_run_eq_ok h
  obtain ⟨tag, -, h⟩ := Fallible.bind_run_eq_ok h
  obtain ⟨typeBytes, htypeBytes, h⟩ := Fallible.bind_run_eq_ok h
  obtain ⟨fieldType, hfieldType, h⟩ := Fallible.bind_run_eq_ok h
  obtain ⟨⟨count, value⟩, hfields, h⟩ := Fallible.bind_run_eq_ok h
  obtain ⟨_, -, h⟩ := Fallible.bind_run_eq_ok h
  cases h
  refine ⟨remoteUnsigned_slice htypeBytes hfieldType, ?_⟩
  cases format with
  | classic =>
    obtain ⟨countBytes, hcountBytes, hfields⟩ := Fallible.bind_run_eq_ok hfields
    obtain ⟨count, hcount, hfields⟩ := Fallible.bind_run_eq_ok hfields
    obtain ⟨valueBytes, hvalueBytes, hfields⟩ := Fallible.bind_run_eq_ok hfields
    obtain ⟨value, hvalue, hfields⟩ := Fallible.bind_run_eq_ok hfields
    cases hfields
    exact ⟨remoteUnsigned_slice hcountBytes hcount, remoteUnsigned_slice hvalueBytes hvalue⟩
  | bigTiff =>
    obtain ⟨countBytes, hcountBytes, hfields⟩ := Fallible.bind_run_eq_ok hfields
    obtain ⟨count, hcount, hfields⟩ := Fallible.bind_run_eq_ok hfields
    obtain ⟨valueBytes, hvalueBytes, hfields⟩ := Fallible.bind_run_eq_ok hfields
    obtain ⟨value, hvalue, hfields⟩ := Fallible.bind_run_eq_ok hfields
    cases hfields
    exact ⟨remoteUnsigned_slice hcountBytes hcount, remoteUnsigned_slice hvalueBytes hvalue⟩

theorem remoteDescriptor_run_eq_ok
    (h : (remoteDescriptor path format parsed objectSize).run = .ok (.ok descriptor)) :
    descriptor = ⟨parsed.fieldType, if parsed.fieldType = 16 then 8 else 4, parsed.count,
      if parsed.count * (if parsed.fieldType = 16 then 8 else 4) ≤ format.inlineWidth then
        .inlineScalar parsed.value else .outOfLine parsed.value⟩ := by
  unfold remoteDescriptor at h
  obtain ⟨_, htype, h⟩ := Fallible.bind_run_eq_ok h
  obtain ⟨width, hwidth, h⟩ := Fallible.bind_run_eq_ok h
  obtain ⟨byteCount, hbyteCount, h⟩ := Fallible.bind_run_eq_ok h
  obtain ⟨extent, -, h⟩ := Fallible.bind_run_eq_ok h
  obtain ⟨rfl, -⟩ := checkedMul_eq_some (Fallible.orElse_run_eq_ok hbyteCount)
  have htype := Fallible.failIf_run_eq_ok htype
  have hwidth := Fallible.orElse_run_eq_ok hwidth
  have hkinds : parsed.fieldType = 4 ∨ parsed.fieldType = 16 := by
    simpa [or_iff_not_imp_left] using (not_or.1 htype).2
  have hwidth : width = if parsed.fieldType = 16 then 8 else 4 := by
    rcases hkinds with hkind | hkind
    · rw [hkind] at hwidth ⊢
      exact (Option.some.inj hwidth).symm
    · rw [hkind] at hwidth ⊢
      exact (Option.some.inj hwidth).symm
  subst hwidth
  cases extent with
  | none =>
    cases h
    rfl
  | some range =>
    obtain ⟨_, -, h⟩ := Fallible.bind_run_eq_ok h
    cases h
    rfl

/-- **One entry.** The value that is used is that of the element exactly when no other bytes stand
behind it in the value field. -/
theorem usedValue_eq_iff (hentry : (remoteIfdEntry path format entry).run = .ok (.ok parsed))
    (hdescriptor : (remoteDescriptor path format parsed objectSize).run = .ok (.ok descriptor))
    {i : ℕ} {range : Option ByteRange}
    (hrange : (descriptorEntryRange path descriptor i objectSize).run = .ok (.ok range)) :
    descriptor.usedValue content i = tileIndexEntry format entry content i ↔
      PaddingZero format entry := by
  obtain ⟨htype, hcount, hvalue⟩ := remoteIfdEntry_run_eq_ok hentry
  have hdescriptor := remoteDescriptor_run_eq_ok hdescriptor
  rw [htype, hcount, hvalue] at hdescriptor
  obtain ⟨-, hrange⟩ := descriptorEntryRange_run_eq_ok hrange
  unfold tileIndexEntry PaddingZero IndexDescriptor.usedValue
  by_cases hinline : IsInline format entry
  · have hstorage : descriptor.storage = .inlineScalar (leValue (entryValueField format entry)) := by
      rw [hdescriptor]
      exact if_pos hinline
    rw [hstorage] at hrange ⊢
    obtain ⟨-, hone, rfl⟩ := hrange
    have hone : entryCount format entry = 1 := by
      rw [hdescriptor] at hone
      exact hone
    simp only [if_pos hinline, Nat.zero_mul, List.drop_zero, hone, Nat.one_mul, leValue_take_eq_iff]
    exact ⟨fun h _ => h, fun h => h hinline⟩
  · have hstorage : descriptor.storage = .outOfLine (leValue (entryValueField format entry)) := by
      rw [hdescriptor]
      exact if_neg hinline
    have hwidth : descriptor.elementWidth = tileElementWidth entry := by
      rw [hdescriptor]
      rfl
    rw [hstorage, hwidth]
    simp only [if_neg hinline, true_iff]
    exact fun h => absurd h hinline

end Descriptor

/-! ## The tags of the arrays -/

/-- The bytes of a directory entry with the tag, and the array that it describes. -/
def DescribesArray (path : String) (format : TiffFormat) (objectSize tag : ℕ) (entry : List UInt8)
    (descriptor : IndexDescriptor) : Prop :=
  ∃ parsed, (remoteIfdEntry path format entry).run = .ok (.ok parsed) ∧ parsed.tag = tag ∧
    (remoteDescriptor path format parsed objectSize).run = .ok (.ok descriptor)

section Tags

variable {path : String} {format : TiffFormat} {objectSize : ℕ}

/-- Every entry of a directory was parsed from bytes of it. -/
theorem exists_bytes_of_parseEntries {bytes : List UInt8} {entries : List IfdEntry}
    (h : (parseEntries path format bytes).run = .ok (.ok entries)) :
    ∀ parsed ∈ entries, ∃ entry, (remoteIfdEntry path format entry).run = .ok (.ok parsed) := by
  intro parsed hmem
  obtain ⟨chunks, -, h⟩ := Fallible.bind_run_eq_ok h
  have hall : List.Forall₂
      (fun entry parsed => (remoteIfdEntry path format entry).run = .ok (.ok parsed)) chunks entries :=
    (Fallible.mapM_run_eq_ok_iff fun _ _ => Iff.rfl).1 h
  obtain ⟨entry, -, hparsed⟩ := exists_of_forall₂ hall.flip hmem
  exact ⟨entry, hparsed⟩

theorem mem_of_remoteEntry {entries : List IfdEntry} {tag : ℕ} {entry : IfdEntry}
    (h : (remoteEntry path entries tag).run = .ok (.ok entry)) : entry ∈ entries ∧ entry.tag = tag := by
  have hfind := Fallible.orElse_run_eq_ok h
  exact ⟨List.mem_of_find?_eq_some hfind, by simpa using List.find?_some hfind⟩

/-- The arrays of a directory are those of its entries with the tags. -/
theorem exists_entries_of_readLayoutFields {entries : List IfdEntry} {fields : LayoutFields}
    (h : (readLayoutFields path objectSize format entries).run = .ok (.ok fields)) :
    (∃ entry ∈ entries, entry.tag = 324 ∧
      (remoteDescriptor path format entry objectSize).run = .ok (.ok fields.tileOffsets)) ∧
    ∃ entry ∈ entries, entry.tag = 325 ∧
      (remoteDescriptor path format entry objectSize).run = .ok (.ok fields.tileByteCounts) := by
  unfold readLayoutFields at h
  -- The sizes and the transform come first.
  iterate 7 obtain ⟨_, -, h⟩ := Fallible.bind_run_eq_ok h
  obtain ⟨offsetsEntry, hoffsetsEntry, h⟩ := Fallible.bind_run_eq_ok h
  obtain ⟨tileOffsets, hoffsets, h⟩ := Fallible.bind_run_eq_ok h
  obtain ⟨countsEntry, hcountsEntry, h⟩ := Fallible.bind_run_eq_ok h
  obtain ⟨tileByteCounts, hcounts, h⟩ := Fallible.bind_run_eq_ok h
  iterate 12 obtain ⟨_, -, h⟩ := Fallible.bind_run_eq_ok h
  cases h
  obtain ⟨hoffsetsMem, hoffsetsTag⟩ := mem_of_remoteEntry hoffsetsEntry
  obtain ⟨hcountsMem, hcountsTag⟩ := mem_of_remoteEntry hcountsEntry
  exact ⟨⟨offsetsEntry, hoffsetsMem, hoffsetsTag, hoffsets⟩, countsEntry, hcountsMem, hcountsTag, hcounts⟩

/-- **The arrays of a layout** are those of directory entries with the tags `TileOffsets` and
`TileByteCounts`. -/
theorem describesArray_of_readRemoteLayout {store : RangeStore} {layout : RemoteLayout}
    (h : (readRemoteLayout store path objectSize).outcome = .ok (.ok layout)) :
    (∃ entry, DescribesArray path layout.format objectSize 324 entry layout.tileOffsets) ∧
      ∃ entry, DescribesArray path layout.format objectSize 325 entry layout.tileByteCounts := by
  unfold readRemoteLayout at h
  obtain ⟨_, -, h⟩ := Traced.bind_outcome_eq_ok h
  obtain ⟨_, -, h⟩ := Traced.bind_outcome_eq_ok h
  obtain ⟨⟨format, ifdOffset⟩, -, h⟩ := Traced.bind_outcome_eq_ok h
  obtain ⟨⟨entries, entryBytesRead⟩, hdirectory, h⟩ := Traced.bind_outcome_eq_ok h
  obtain ⟨fields, hfields, h⟩ := Traced.bind_outcome_eq_ok h
  iterate 7 obtain ⟨_, -, h⟩ := Traced.bind_outcome_eq_ok h
  cases h
  unfold readIfdEntries at hdirectory
  iterate 8 obtain ⟨_, -, hdirectory⟩ := Traced.bind_outcome_eq_ok hdirectory
  obtain ⟨parsed, hparsed, hdirectory⟩ := Traced.bind_outcome_eq_ok hdirectory
  cases hdirectory
  obtain ⟨⟨offsets, hoffsetsMem, hoffsetsTag, hoffsets⟩, counts, hcountsMem, hcountsTag, hcounts⟩ :=
    exists_entries_of_readLayoutFields hfields
  obtain ⟨offsetsEntry, hoffsetsEntry⟩ := exists_bytes_of_parseEntries hparsed offsets hoffsetsMem
  obtain ⟨countsEntry, hcountsEntry⟩ := exists_bytes_of_parseEntries hparsed counts hcountsMem
  exact ⟨⟨offsetsEntry, offsets, hoffsetsEntry, hoffsetsTag, hoffsets⟩,
    countsEntry, counts, hcountsEntry, hcountsTag, hcounts⟩

end Tags

/-- **Tile index resolution.** When the tiles of a plan are resolved against the bytes of an object,
each planned tile has the range that its entries of the two arrays give, exactly when no tile is planned
or an array that is in a value field has only zeros behind it. -/
theorem resolveTilePlan_ranges_iff {path : String} {format : TiffFormat} {content : List UInt8}
    {objectSize : ℕ} {offsetsEntry countsEntry : List UInt8} {offsetsParsed countsParsed : IfdEntry}
    {tileOffsets tileByteCounts : IndexDescriptor}
    (hoffsetsEntry : (remoteIfdEntry path format offsetsEntry).run = .ok (.ok offsetsParsed))
    (hcountsEntry : (remoteIfdEntry path format countsEntry).run = .ok (.ok countsParsed))
    (hoffsets : (remoteDescriptor path format offsetsParsed objectSize).run = .ok (.ok tileOffsets))
    (hcounts : (remoteDescriptor path format countsParsed objectSize).run = .ok (.ok tileByteCounts))
    {geometry : TilePlan} {plan : ResolvedTilePlan} {indexBytes : ℕ}
    (hresolved : (resolveTilePlan (.ofBytes content) path ⟨tileOffsets, tileByteCounts⟩ geometry
      objectSize).outcome = .ok (.ok (plan, indexBytes))) :
    plan.tiles = geometry.indices.map (fun i => ⟨i, tileIndexEntry format offsetsEntry content i,
        tileIndexEntry format offsetsEntry content i + tileIndexEntry format countsEntry content i⟩) ↔
      geometry.indices = [] ∨ PaddingZero format offsetsEntry ∧ PaddingZero format countsEntry := by
  unfold resolveTilePlan at hresolved
  obtain ⟨ranges, hranges, hresolved⟩ := Traced.bind_outcome_eq_ok hresolved
  obtain ⟨responses, hresponses, hresolved⟩ := Traced.bind_outcome_eq_ok hresolved
  obtain ⟨_, -, hresolved⟩ := Traced.bind_outcome_eq_ok hresolved
  obtain ⟨⟨tiles, compressedBytes⟩, htiles, hresolved⟩ := Traced.bind_outcome_eq_ok hresolved
  obtain ⟨_, -, hresolved⟩ := Traced.bind_outcome_eq_ok hresolved
  cases hresolved
  have hresponses : responses.drop 0 = ranges.map (byteSlice content) := by
    unfold indexResponses at hresponses
    split_ifs at hresponses with hempty
    · cases hresponses
      rw [List.isEmpty_iff.1 hempty]
      rfl
    · have hanswers := getRanges_outcome_eq_ok hresponses
      cases hanswers
      rfl
  obtain ⟨rfl, hread⟩ := resolveTiles_run_eq_ok hranges hresponses htiles
  have hoffset : ∀ i ∈ geometry.indices, tileOffsets.usedValue content i =
      tileIndexEntry format offsetsEntry content i ↔ PaddingZero format offsetsEntry := by
    intro i hi
    obtain ⟨range, hrange⟩ := hread i hi tileOffsets (by simp)
    exact usedValue_eq_iff hoffsetsEntry hoffsets hrange
  have hcount : ∀ i ∈ geometry.indices, tileByteCounts.usedValue content i =
      tileIndexEntry format countsEntry content i ↔ PaddingZero format countsEntry := by
    intro i hi
    obtain ⟨range, hrange⟩ := hread i hi tileByteCounts (by simp)
    exact usedValue_eq_iff hcountsEntry hcounts hrange
  rw [List.map_inj_left]
  constructor
  · intro h
    cases hindices : geometry.indices with
    | nil => exact .inl rfl
    | cons i indices =>
      have hi : i ∈ geometry.indices := hindices ▸ List.mem_cons_self
      have heq := h i hi
      simp only [ResolvedTile.mk.injEq, true_and] at heq
      have hfirst := (hoffset i hi).1 heq.1
      have hsecond : tileByteCounts.usedValue content i = tileIndexEntry format countsEntry content i := by
        omega
      exact .inr ⟨hfirst, (hcount i hi).1 hsecond⟩
  · intro h i hi
    rcases h with hempty | ⟨hfirst, hsecond⟩
    · rw [hempty] at hi
      exact absurd hi List.not_mem_nil
    · rw [(hoffset i hi).2 hfirst, (hcount i hi).2 hsecond]

/-- A `TileOffsets` entry of one `LONG8`, which a classic entry has no room for. -/
def long8OffsetsEntry : List UInt8 := [0x44, 0x01, 16, 0, 1, 0, 0, 0, 16, 0, 0, 0]

/-- A `TileByteCounts` entry of one `LONG`, in its value field. -/
def longCountsEntry : List UInt8 := [0x45, 0x01, 4, 0, 1, 0, 0, 0, 8, 0, 0, 0]

/-- An offset in the object and a byte count in its entry. -/
theorem resolveTilePlan_ranges_mixed :
    (resolveTilePlan (.ofBytes (List.replicate 16 0 ++ leBytes 24)) "flow_dir.tif"
      ⟨⟨16, 8, 1, .outOfLine 16⟩, ⟨4, 4, 1, .inlineScalar 8⟩⟩ ⟨[0]⟩ 32).outcome =
        .ok (.ok (⟨32, [⟨0, 24, 32⟩], 8⟩, 8)) ∧
    ([⟨0, 24, 32⟩] : List ResolvedTile) = [0].map fun i =>
      ⟨i, tileIndexEntry .classic long8OffsetsEntry (List.replicate 16 0 ++ leBytes 24) i,
        tileIndexEntry .classic long8OffsetsEntry (List.replicate 16 0 ++ leBytes 24) i +
          tileIndexEntry .classic longCountsEntry (List.replicate 16 0 ++ leBytes 24) i⟩ := by
  have hoffsets : (remoteIfdEntry "flow_dir.tif" .classic long8OffsetsEntry).run =
      .ok (.ok ⟨324, 16, 1, 16⟩) := rfl
  have hcounts : (remoteIfdEntry "flow_dir.tif" .classic longCountsEntry).run =
      .ok (.ok ⟨325, 4, 1, 8⟩) := rfl
  have hresolved : (resolveTilePlan (.ofBytes (List.replicate 16 0 ++ leBytes 24)) "flow_dir.tif"
      ⟨⟨16, 8, 1, .outOfLine 16⟩, ⟨4, 4, 1, .inlineScalar 8⟩⟩ ⟨[0]⟩ 32).outcome =
        .ok (.ok (⟨32, [⟨0, 24, 32⟩], 8⟩, 8)) := rfl
  have hiff := resolveTilePlan_ranges_iff hoffsets hcounts rfl rfl hresolved
  exact ⟨hresolved, hiff.2 (.inr ⟨by decide, by decide +kernel⟩)⟩

/-- A BigTIFF `TileOffsets` entry: the `LONG` 16, and a byte behind it. -/
def paddedOffsetsEntry : List UInt8 :=
  [0x44, 0x01, 4, 0, 1, 0, 0, 0, 0, 0, 0, 0, 16, 0, 0, 0, 1, 0, 0, 0]

def bigCountsEntry : List UInt8 :=
  [0x45, 0x01, 4, 0, 1, 0, 0, 0, 0, 0, 0, 0, 8, 0, 0, 0, 0, 0, 0, 0]

/-- The padding is read as part of the offset. -/
theorem not_resolveTilePlan_ranges :
    ¬∀ (format : TiffFormat) (content offsetsEntry countsEntry : List UInt8)
      (offsetsParsed countsParsed : IfdEntry) (tileOffsets tileByteCounts : IndexDescriptor)
      (geometry : TilePlan) (plan : ResolvedTilePlan) (indexBytes : ℕ),
      (remoteIfdEntry "flow_dir.tif" format offsetsEntry).run = .ok (.ok offsetsParsed) →
      (remoteIfdEntry "flow_dir.tif" format countsEntry).run = .ok (.ok countsParsed) →
      (remoteDescriptor "flow_dir.tif" format offsetsParsed content.length).run =
        .ok (.ok tileOffsets) →
      (remoteDescriptor "flow_dir.tif" format countsParsed content.length).run =
        .ok (.ok tileByteCounts) →
      (resolveTilePlan (.ofBytes content) "flow_dir.tif" ⟨tileOffsets, tileByteCounts⟩ geometry
        content.length).outcome = .ok (.ok (plan, indexBytes)) →
      plan.tiles = geometry.indices.map fun i => ⟨i, tileIndexEntry format offsetsEntry content i,
        tileIndexEntry format offsetsEntry content i +
          tileIndexEntry format countsEntry content i⟩ := by
  intro h
  have htiles := h .bigTiff [] paddedOffsetsEntry bigCountsEntry ⟨324, 4, 1, 2 ^ 32 + 16⟩
    ⟨325, 4, 1, 8⟩ ⟨4, 4, 1, .inlineScalar (2 ^ 32 + 16)⟩ ⟨4, 4, 1, .inlineScalar 8⟩ ⟨[0]⟩
    ⟨0, [⟨0, 2 ^ 32 + 16, 2 ^ 32 + 24⟩], 8⟩ 0 rfl rfl rfl rfl rfl
  revert htiles
  decide

end Pourpoint
