import Pourpoint.Fnv
import Pourpoint.Library.SortedMap
import Pourpoint.Library.Success
import Pourpoint.Library.Utf8
import Pourpoint.Machine
import Pourpoint.Manifest
import Pourpoint.Upstream

/-!
# The id index file

An id index file is an Arrow body, the length of the footer, the mark `IIDX` and a JSON footer. The reader
looks for the mark from the end and takes it when the length before it reaches the end of the file. The
mark may also occur in the footer, but the byte before it is then no control byte, so the length that is
read there is at least `2 ^ 61` (`splitBodyAndFooter_fileBytes`).
-/

namespace Pourpoint.IdIndexFormat

open Library

/-! ## Indexes -/

/-- `IdIndex`, with the map of row groups in id order. -/
structure IdIndex where
  ids : List UnitId
  idRowGroups : Option (SortedMap UnitId ℕ)

/-- `Footer`. -/
structure Footer where
  fileEtag : Option String
  fileSize : UInt64
  builtByPourpointVersion : String
  validatedAt : UInt64
  bodyCrc32 : BitVec 32
  deriving DecidableEq

/-- `CARGO_PKG_VERSION`. -/
def cargoPkgVersion : String := "0.1.0"

/-- The letters `IIDX`. -/
def magic : List UInt8 := [0x49, 0x49, 0x44, 0x58]

/-- The bytes of the footer's length and of the magic. -/
def markerLen : ℕ := 12

/-! ## The checksum -/

/-- The turn of the inner loop of `crc32`. -/
def crc32Turn (crc : BitVec 32) : BitVec 32 :=
  let mask := 0#32 - (crc &&& 1#32)
  (crc >>> 1) ^^^ (0xedb88320#32 &&& mask)

/-- `crc32`. -/
def crc32 (bytes : List UInt8) : BitVec 32 :=
  ~~~bytes.foldl (fun crc byte => crc32Turn^[8] (crc ^^^ byte.toBitVec.setWidth 32)) 0xffffffff#32

example : crc32 (utf8Bytes "123456789") = 0xcbf43926#32 := by decide +kernel

/-! ## Arrow and JSON -/

/-- The types of a column. -/
inductive ArrowType where
  | int32 | int64 | other
  deriving DecidableEq, Repr

/-- A column of a record batch, with its nulls. -/
inductive ArrowColumn where
  | int64 (values : List (Option ℤ))
  | int32 (values : List (Option ℤ))
  | other
  deriving DecidableEq, Repr

/-- A record batch by its columns. -/
abbrev ArrowBatch := List (String × ArrowColumn)

/-- What a stream reader finds: the fields of the schema, and the batches, `none` for one that fails. -/
structure ArrowStream where
  schema : List (String × ArrowType)
  batches : List (Option ArrowBatch)
  deriving DecidableEq, Repr

/-- The schema of `encode_body`. -/
def indexSchema : List (String × ArrowType) := [("id", .int64), ("row_group", .int32)]

/-- Arrow IPC streams of one batch, `serde_json` on footers, and the check of `UnitId::new`. -/
structure IndexCodec where
  writeStream : List (String × ArrowType) → ArrowBatch → Except String (List UInt8)
  readStream : List UInt8 → Option ArrowStream
  footerToVec : Footer → Except String (List UInt8)
  footerFromSlice : List UInt8 → Option Footer
  unitId : ℤ → Option String

/-- `serde_json` writes a text without control characters, and reads back what it wrote. -/
structure IndexCodec.JsonLawful (codec : IndexCodec) : Prop where
  roundTrip : ∀ footer, ∃ text : String, codec.footerToVec footer = .ok (utf8Bytes text) ∧
    codec.footerFromSlice (utf8Bytes text) = some footer ∧ ∀ c ∈ text.toList, 0x20 ≤ c.val

/-- Arrow reads back a batch of an `Int64` and a nullable `Int32` column. -/
def IndexCodec.ArrowLawful (codec : IndexCodec) : Prop :=
  ∀ (ids : List ℤ) (rowGroups : List (Option ℤ)), ids.length = rowGroups.length →
    (∀ id ∈ ids, -2 ^ 63 ≤ id ∧ id < 2 ^ 63) →
    (∀ rowGroup ∈ rowGroups.reduceOption, -2 ^ 31 ≤ rowGroup ∧ rowGroup < 2 ^ 31) →
    ∃ body, codec.writeStream indexSchema
        [("id", .int64 (ids.map some)), ("row_group", .int32 rowGroups)] = .ok body ∧
      codec.readStream body = some ⟨indexSchema,
        [some [("id", .int64 (ids.map some)), ("row_group", .int32 rowGroups)]]⟩

section

variable (codec : IndexCodec)

/-! ## Writing -/

/-- The cell of an id in `encode_body`: `i32::try_from` of its row group, if it has one. -/
def rowGroupCell (index : IdIndex) (id : UnitId) : Except SessionError (Option ℤ) :=
  match index.idRowGroups.bind fun groups => groups.get? id with
  | none => .ok none
  | some rowGroup =>
    if rowGroup < 2 ^ 31 then .ok (some rowGroup)
    else .error (.integrityViolation "id index row group does not fit in Int32")

/-- `encode_body`. -/
def encodeBody (index : IdIndex) : Except SessionError (List UInt8) := do
  let rowGroups ← index.ids.mapM (rowGroupCell index)
  (codec.writeStream indexSchema
    [("id", .int64 (index.ids.map some)), ("row_group", .int32 rowGroups)]).mapError .cache

/-- The bytes that `write_to_path` gives to `fs::write`. -/
def fileBytes (body footerJson : List UInt8) : List UInt8 :=
  body ++ toLeBytes 8 footerJson.length ++ magic ++ footerJson

/-- How the two calls of `write_to_path` on the file system end. -/
structure WriteOutcome where
  createDirAll : Except SessionError Unit
  write : Except SessionError Unit

/-- `write_to_path`: what the file then holds. -/
def writeToPath (outcome : WriteOutcome) (validatedAt : UInt64) (index : IdIndex) (fileSize : UInt64)
    (fileEtag : Option String) : Except SessionError (List UInt8) := do
  outcome.createDirAll
  let body ← encodeBody codec index
  let footer : Footer := ⟨fileEtag, fileSize, cargoPkgVersion, validatedAt, crc32 body⟩
  let footerJson ← (codec.footerToVec footer).mapError fun _ => .cache "serialize id index footer"
  outcome.write
  .ok (fileBytes body footerJson)

/-! ## Reading -/

/-- The loop of `split_body_and_footer`, for the starts of the length below `starts`. On a 64-bit target
`usize::try_from` does not fail. -/
def splitLoop (bytes : List UInt8) : ℕ → Option (List UInt8 × List UInt8)
  | 0 => none
  | lengthStart + 1 =>
    let magicStart := lengthStart + 8
    if (bytes.drop magicStart).take magic.length ≠ magic then splitLoop bytes lengthStart
    else
      let footerStart := magicStart + magic.length
      let footerLen := leValue ((bytes.drop lengthStart).take 8)
      match checkedAdd 64 footerStart footerLen with
      | none => none
      | some footerEnd =>
        if footerEnd = bytes.length then
          some (bytes.take lengthStart, (bytes.drop footerStart).take footerLen)
        else splitLoop bytes lengthStart

/-- `split_body_and_footer`. -/
def splitBodyAndFooter (bytes : List UInt8) : Option (List UInt8 × List UInt8) :=
  if bytes.length < markerLen then none else splitLoop bytes (bytes.length - markerLen + 1)

/-- The row of `decode_body`. -/
def decodeRow (row : Option ℤ × Option ℤ) : Option (UnitId × Option ℕ) := do
  let id ← row.1
  if (codec.unitId id).isSome then none
  else
    match row.2 with
    | none => some (id, none)
    | some raw => if raw < 0 then none else some (id, some raw.toNat)

/-- The batch of `decode_body`. The columns of a batch have one length. -/
def decodeBatch (batch : ArrowBatch) : Option (List (UnitId × Option ℕ)) :=
  match batch.lookup "id", batch.lookup "row_group" with
  | some (.int64 ids), some (.int32 rowGroups) => (ids.zip rowGroups).mapM (decodeRow codec)
  | _, _ => none

/-- An insertion that must be new. -/
def insertNew (groups : SortedMap UnitId ℕ) (entry : UnitId × ℕ) : Option (SortedMap UnitId ℕ) :=
  if groups.contains entry.1 then none else some (groups.insert entry.1 entry.2)

/-- The end of `decode_body`: either no row has a row group, or all have one. -/
def collectRowGroups (rows : List (UnitId × Option ℕ)) : Option IdIndex :=
  let ids := rows.map (·.1)
  let count := rows.countP (·.2.isSome)
  if count = 0 then some ⟨ids, none⟩
  else if count = ids.length then do
    let groups ← (ids.zip (rows.map (·.2)).reduceOption).foldlM insertNew .empty
    some ⟨ids, some groups⟩
  else none

/-- `decode_body`. -/
def decodeBody (body : List UInt8) : Option IdIndex := do
  let stream ← codec.readStream body
  let idField ← stream.schema.lookup "id"
  let rowGroupField ← stream.schema.lookup "row_group"
  if idField ≠ .int64 ∨ rowGroupField ≠ .int32 then none
  else do
    let batches ← stream.batches.mapM fun batch => batch.bind (decodeBatch codec)
    collectRowGroups batches.flatten

/-- What `fs::read` finds. -/
inductive FileRead where
  | bytes (bytes : List UInt8)
  | notFound
  | failed (error : SessionError)

/-- `load_from_path`. -/
def loadFromPath (file : FileRead) (expectedSize : UInt64) (expectedEtag : Option String) :
    Except SessionError (Option IdIndex) :=
  match file with
  | .notFound => .ok none
  | .failed error => .error error
  | .bytes bytes =>
    match splitBodyAndFooter bytes with
    | none => .ok none
    | some (body, footerJson) =>
      match codec.footerFromSlice footerJson with
      | none => .ok none
      | some footer =>
        if footer.fileSize ≠ expectedSize ∨ footer.fileEtag ≠ expectedEtag then .ok none
        else if footer.builtByPourpointVersion ≠ cargoPkgVersion then .ok none
        else if crc32 body ≠ footer.bodyCrc32 then .ok none
        else .ok (decodeBody codec body)

end

/-! ## The mark -/

theorem utf8Bytes_eq (text : String) : utf8Bytes text = text.toList.flatMap String.utf8EncodeChar := by
  rw [utf8Bytes, String.toUTF8_eq_toByteArray, ← String.utf8Encode_toList, List.utf8Encode,
    List.toList_data_toByteArray]

/-- The byte before an `I` in the footer, or at its start, is no control byte and ends a character. -/
theorem byte_before_mark {text : String} (htext : ∀ c ∈ text.toList, 0x20 ≤ c.val) {j : ℕ}
    (hmark : (0x58 :: utf8Bytes text)[j + 1]? = some 0x49) :
    ∃ top, (0x58 :: utf8Bytes text)[j]? = some top ∧ 0x20 ≤ top ∧ top ≤ 0xBF := by
  have hbytes : 0x58 :: utf8Bytes text = ('X' :: text.toList).flatMap String.utf8EncodeChar := by
    rw [utf8Bytes_eq, List.flatMap_cons]
    rfl
  rw [hbytes] at hmark ⊢
  obtain ⟨hlt, hmark⟩ := List.getElem?_eq_some_iff.1 hmark
  have hj : j < (('X' :: text.toList).flatMap String.utf8EncodeChar).length := by omega
  have hchain := List.isChain_iff_getElem.1 (isChain_utf8 ('X' :: text.toList)) j hlt
  refine ⟨_, List.getElem?_eq_getElem hj, ?_, hchain (hmark ▸ by decide)⟩
  obtain ⟨c, hc, hbyte⟩ := List.mem_flatMap.1 (List.getElem_mem hj)
  refine forall_le_utf8EncodeChar ?_ _ hbyte
  rcases List.mem_cons.1 hc with rfl | hc
  · decide
  · exact htext c hc

theorem leValue_take_eight {bytes : List UInt8} {top : UInt8} (h : bytes[7]? = some top) :
    top.toNat * 2 ^ 56 ≤ leValue (bytes.take 8) ∧
      leValue (bytes.take 8) < (top.toNat + 1) * 2 ^ 56 := by
  have hlength : (bytes.take 7).length = 7 := by
    obtain ⟨hlt, -⟩ := List.getElem?_eq_some_iff.1 h
    rw [List.length_take]
    omega
  have hlow := leValue_lt (bytes.take 7)
  rw [List.take_add_one, h, Option.toList_some, leValue_append, hlength]
  rw [hlength] at hlow
  simp only [leValue, Nat.mul_zero, Nat.add_zero]
  omega

section

variable {body : List UInt8} {text : String}

theorem length_fileBytes (body footerJson : List UInt8) :
    (fileBytes body footerJson).length = body.length + 12 + footerJson.length := by
  simp only [fileBytes, List.length_append, length_toLeBytes, magic, List.length_cons, List.length_nil]

/-- **No false mark.** Behind its own place the mark is not accepted, and the search goes on. -/
theorem splitLoop_behind (htext : ∀ c ∈ text.toList, 0x20 ≤ c.val)
    (hmemory : (fileBytes body (utf8Bytes text)).length < 2 ^ 61) {k : ℕ} (hk : body.length < k)
    (hend : k + 12 ≤ (fileBytes body (utf8Bytes text)).length) :
    splitLoop (fileBytes body (utf8Bytes text)) (k + 1) =
      splitLoop (fileBytes body (utf8Bytes text)) k := by
  rw [splitLoop]
  dsimp only
  split_ifs with hmagic
  · rfl
  rw [not_not] at hmagic
  -- The last two bytes of the mark, and the footer.
  have htail : ∀ n, (fileBytes body (utf8Bytes text))[body.length + 10 + n]? =
      (0x44 :: 0x58 :: utf8Bytes text)[n]? := by
    intro n
    have hsplit : fileBytes body (utf8Bytes text) =
        (body ++ toLeBytes 8 (utf8Bytes text).length ++ [0x49, 0x49]) ++
          (0x44 :: 0x58 :: utf8Bytes text) := by
      simp [fileBytes, magic]
    have hlength : (body ++ toLeBytes 8 (utf8Bytes text).length ++ [0x49, 0x49]).length =
        body.length + 10 := by
      simp only [List.length_append, length_toLeBytes, List.length_cons, List.length_nil]
    rw [hsplit, List.getElem?_append_right (by omega), hlength, Nat.add_sub_cancel_left]
  have hmark : ∀ n < 4, (fileBytes body (utf8Bytes text))[k + 8 + n]? = magic[n]? := by
    intro n hn
    rw [← hmagic, List.getElem?_take_of_lt (show n < magic.length from hn), List.getElem?_drop]
  obtain ⟨j, rfl⟩ := Nat.exists_eq_add_of_lt hk
  match j with
  | 0 =>
    have hthird := hmark 1 (by decide)
    rw [show body.length + 0 + 1 + 8 + 1 = body.length + 10 + 0 by omega, htail] at hthird
    simp [magic] at hthird
  | 1 =>
    have hthird := hmark 0 (by decide)
    rw [show body.length + 1 + 1 + 8 + 0 = body.length + 10 + 0 by omega, htail] at hthird
    simp [magic] at hthird
  | 2 =>
    have hfourth := hmark 0 (by decide)
    rw [show body.length + 2 + 1 + 8 + 0 = body.length + 10 + 1 by omega, htail] at hfourth
    simp [magic] at hfourth
  | j + 3 =>
    have hfirst := hmark 0 (by decide)
    rw [show body.length + (j + 3) + 1 + 8 + 0 = body.length + 10 + (j + 1 + 1) by omega, htail,
      List.getElem?_cons_succ] at hfirst
    obtain ⟨top, htop, hlow, hhigh⟩ := byte_before_mark htext hfirst
    have hbyte : ((fileBytes body (utf8Bytes text)).drop (body.length + (j + 3) + 1))[7]? =
        some top := by
      rw [List.getElem?_drop, show body.length + (j + 3) + 1 + 7 = body.length + 10 + (j + 1) by omega,
        htail, List.getElem?_cons_succ, htop]
    obtain ⟨hge, hlt⟩ := leValue_take_eight hbyte
    rw [UInt8.le_iff_toNat_le] at hlow hhigh
    have hlow' : 32 ≤ top.toNat := hlow
    have hhigh' : top.toNat ≤ 191 := hhigh
    -- The length is too large for the file, but not too large to be added.
    have hmagicLength : magic.length = 4 := rfl
    rw [checkedAdd, if_pos (by omega)]
    dsimp only
    rw [if_neg (by omega)]

/-- The mark in its own place is accepted. -/
theorem splitLoop_mark (hmemory : (fileBytes body (utf8Bytes text)).length < 2 ^ 61) :
    splitLoop (fileBytes body (utf8Bytes text)) (body.length + 1) = some (body, utf8Bytes text) := by
  have hlength := length_fileBytes body (utf8Bytes text)
  have hlengthBytes : ((fileBytes body (utf8Bytes text)).drop body.length).take 8 =
      toLeBytes 8 (utf8Bytes text).length := by
    rw [fileBytes, List.append_assoc, List.append_assoc, List.drop_left, List.take_left']
    exact length_toLeBytes _ _
  have hprefix : (body ++ toLeBytes 8 (utf8Bytes text).length).length = body.length + 8 := by
    rw [List.length_append, length_toLeBytes]
  have hmagic : ((fileBytes body (utf8Bytes text)).drop (body.length + 8)).take magic.length = magic := by
    rw [fileBytes, List.append_assoc, List.drop_left' hprefix, List.take_left]
  have hfooter : (fileBytes body (utf8Bytes text)).drop (body.length + 8 + magic.length) =
      utf8Bytes text := by
    rw [fileBytes, List.drop_left']
    rw [List.length_append, hprefix]
  have hsmall : (utf8Bytes text).length < 256 ^ 8 := by omega
  rw [splitLoop]
  dsimp only
  rw [if_neg (not_not.2 hmagic), hlengthBytes, leValue_toLeBytes hsmall, checkedAdd]
  have hmagicLength : magic.length = 4 := rfl
  rw [if_pos (by omega)]
  dsimp only
  rw [if_pos (by omega), hfooter, List.take_length, fileBytes, List.append_assoc, List.append_assoc,
    List.take_left]

/-- **The search finds the footer**, whatever the body and the texts in the footer are. -/
theorem splitBodyAndFooter_fileBytes (htext : ∀ c ∈ text.toList, 0x20 ≤ c.val)
    (hmemory : (fileBytes body (utf8Bytes text)).length < 2 ^ 61) :
    splitBodyAndFooter (fileBytes body (utf8Bytes text)) = some (body, utf8Bytes text) := by
  have hlength := length_fileBytes body (utf8Bytes text)
  have hfrom : ∀ n ≤ (utf8Bytes text).length,
      splitLoop (fileBytes body (utf8Bytes text)) (body.length + n + 1) =
        some (body, utf8Bytes text) := by
    intro n hn
    induction n with
    | zero => exact splitLoop_mark hmemory
    | succ n ih =>
      rw [splitLoop_behind htext hmemory (by omega) (by omega), ← Nat.add_assoc]
      exact ih (by omega)
  rw [splitBodyAndFooter, if_neg (by simp only [markerLen]; omega)]
  have hstart : (fileBytes body (utf8Bytes text)).length - markerLen + 1 =
      body.length + (utf8Bytes text).length + 1 := by
    simp only [markerLen]
    omega
  rw [hstart]
  exact hfrom _ le_rfl

end

end Pourpoint.IdIndexFormat
