import Pourpoint.IdIndexFormat
import Pourpoint.Library.JsonText

/-!
# A codec of id indexes

Footers are written as `serde_json` writes them. In the place of an Arrow stream there are rows of thirteen
bytes: the id, whether there is a row group, and the row group.
-/

namespace Pourpoint.IdIndexFormat

open Library Library.JsonText

/-! ## Footers -/

/-- The text, if it starts with a word, without that word. -/
def expect (word text : List Char) : Option (List Char) :=
  if word.isPrefixOf text then some (text.drop word.length) else none

def etagText : Option String → List Char
  | none => ['n', 'u', 'l', 'l']
  | some etag => quoteMark :: quoted etag.toList

/-- The text between the values of a footer. -/
def beforeEtag : List Char := "\x7b\"file_etag\":".toList

def beforeSize : List Char := ",\"file_size\":".toList

def beforeVersion : List Char := ",\"built_by_pourpoint_version\":\"".toList

def beforeValidatedAt : List Char := ",\"validated_at\":".toList

def beforeCrc : List Char := ",\"body_crc32\":".toList

def closing : List Char := "\x7d".toList

/-- `serde_json` on a footer, by the order of its fields. -/
def footerText (footer : Footer) : List Char :=
  beforeEtag ++ (etagText footer.fileEtag ++
  (beforeSize ++ (Nat.toDigits 10 footer.fileSize.toNat ++
  (beforeVersion ++ (quoted footer.builtByPourpointVersion.toList ++
  (beforeValidatedAt ++ (Nat.toDigits 10 footer.validatedAt.toNat ++
  (beforeCrc ++ (Nat.toDigits 10 footer.bodyCrc32.toNat ++ closing)))))))))

def readEtag (text : List Char) : Option (Option String × List Char) :=
  match expect ['n', 'u', 'l', 'l'] text with
  | some rest => some (none, rest)
  | none => do
    let rest ← expect [quoteMark] text
    let read ← readString rest
    some (some (String.ofList read.1), read.2)

/-- A number below `2 ^ bits`. -/
def readUnsigned (bits : ℕ) (text : List Char) : Option (ℕ × List Char) :=
  (readNumber text).filter fun read => read.1 < 2 ^ bits

/-- A footer, and what follows it. -/
def readFooter (text : List Char) : Option (Footer × List Char) := do
  let text ← expect beforeEtag text
  let fileEtag ← readEtag text
  let text ← expect beforeSize fileEtag.2
  let fileSize ← readUnsigned 64 text
  let text ← expect beforeVersion fileSize.2
  let version ← readString text
  let text ← expect beforeValidatedAt version.2
  let validatedAt ← readUnsigned 64 text
  let text ← expect beforeCrc validatedAt.2
  let bodyCrc32 ← readUnsigned 32 text
  let text ← expect closing bodyCrc32.2
  some (⟨fileEtag.1, .ofNat fileSize.1, String.ofList version.1, .ofNat validatedAt.1,
    .ofNat 32 bodyCrc32.1⟩, text)

theorem expect_append (word rest : List Char) : expect word (word ++ rest) = some rest := by
  rw [expect, if_pos (List.isPrefixOf_iff_prefix.2 (List.prefix_append _ _)), List.drop_left]

theorem readEtag_etagText (etag : Option String) (rest : List Char) :
    readEtag (etagText etag ++ rest) = some (etag, rest) := by
  cases etag with
  | none => rw [etagText, readEtag, expect_append]
  | some etag =>
    have hnull : expect ['n', 'u', 'l', 'l'] (quoteMark :: quoted etag.toList ++ rest) = none := by
      have hfirst : ('n' == quoteMark) = false := by decide
      rw [expect, List.cons_append, List.isPrefixOf, hfirst, Bool.false_and]
      exact if_neg Bool.false_ne_true
    have hmark : expect [quoteMark] (quoteMark :: quoted etag.toList ++ rest) =
        some (quoted etag.toList ++ rest) := expect_append [quoteMark] _
    rw [etagText, readEtag, hnull]
    simp only [hmark, readString_quoted, Option.bind_eq_bind, Option.bind_some, String.ofList_toList]

theorem readUnsigned_decimal {bits n : ℕ} (hn : n < 2 ^ bits) {rest : List Char}
    (hrest : NoDigitFirst rest) : readUnsigned bits (Nat.toDigits 10 n ++ rest) = some (n, rest) := by
  rw [readUnsigned, readNumber_decimal n hrest, Option.filter_some, if_pos (by simpa using hn)]

theorem noDigitFirst_append {word : List Char} (hword : word.head?.map Char.isDigit = some false)
    (rest : List Char) : NoDigitFirst (word ++ rest) := by
  obtain ⟨c, hc, hdigit⟩ := Option.map_eq_some_iff.1 hword
  intro d hd
  rw [List.head?_append, hc] at hd
  cases hd
  exact hdigit

/-- A footer is read back. -/
theorem readFooter_footerText (footer : Footer) : readFooter (footerText footer) = some (footer, []) := by
  have hclosing : NoDigitFirst closing := by
    rw [← List.append_nil closing]
    exact noDigitFirst_append (by decide) []
  have hend : expect closing closing = some [] := by
    have happend := expect_append closing []
    rwa [List.append_nil] at happend
  simp only [readFooter, footerText, expect_append, readEtag_etagText,
    Option.bind_eq_bind, Option.bind_some]
  rw [readUnsigned_decimal (by exact footer.fileSize.toNat_lt) (noDigitFirst_append (by decide) _)]
  simp only [expect_append, readString_quoted, Option.bind_some]
  rw [readUnsigned_decimal (by exact footer.validatedAt.toNat_lt) (noDigitFirst_append (by decide) _)]
  simp only [expect_append, Option.bind_some]
  rw [readUnsigned_decimal (by exact footer.bodyCrc32.isLt) hclosing]
  simp only [hend, Option.bind_some, String.ofList_toList, UInt64.ofNat_toNat, BitVec.ofNat_toNat,
    BitVec.setWidth_eq]

theorem le_of_isDigit {c : Char} (h : c.isDigit = true) : 0x20 ≤ c.toNat :=
  le_trans (by decide) (Char.isDigit_iff_toNat.1 h).1

/-- A footer is written without control characters. -/
theorem le_of_mem_footerText {footer : Footer} {c : Char} (h : c ∈ footerText footer) :
    0x20 ≤ c.toNat := by
  have hdigits : ∀ n : ℕ, ∀ c ∈ Nat.toDigits 10 n, 0x20 ≤ c.toNat := fun n c hc =>
    le_of_isDigit (Nat.isDigit_of_mem_toDigits (by decide) (by decide) hc)
  have hword : ∀ {word : List Char}, word.all (fun c => Nat.ble 0x20 c.toNat) = true →
      ∀ c ∈ word, 0x20 ≤ c.toNat :=
    fun hword c hc => Nat.le_of_ble_eq_true (List.all_eq_true.1 hword c hc)
  have hetag : ∀ c ∈ etagText footer.fileEtag, 0x20 ≤ c.toNat := by
    cases footer.fileEtag with
    | none => exact hword rfl
    | some etag => exact List.forall_mem_cons.2 ⟨by decide, fun c hc => le_of_mem_quoted hc⟩
  simp only [footerText, List.mem_append] at h
  rcases h with h | h | h | h | h | h | h | h | h | h | h
  exacts [hword (by rfl) c h, hetag c h, hword (by rfl) c h, hdigits _ c h, hword (by rfl) c h,
    le_of_mem_quoted h, hword (by rfl) c h, hdigits _ c h, hword (by rfl) c h, hdigits _ c h,
    hword (by rfl) c h]

/-! ## Rows -/

/-- A row: the id and the row group, moved to numbers without sign. -/
def rowBytes (row : Option ℤ × Option ℤ) : List UInt8 :=
  toLeBytes 8 ((row.1.getD 0) + 2 ^ 63).toNat ++
    (if row.2.isSome then 1 else 0) :: toLeBytes 4 ((row.2.getD 0) + 2 ^ 31).toNat

def readRow (bytes : List UInt8) : Option ℤ × Option ℤ :=
  (some (leValue (bytes.take 8) - 2 ^ 63),
    if bytes[8]? = some 1 then some (leValue (bytes.drop 9) - 2 ^ 31) else none)

/-- The stream of one batch. -/
def writeRows (schema : List (String × ArrowType)) (batch : ArrowBatch) :
    Except String (List UInt8) :=
  match batch.lookup "id", batch.lookup "row_group" with
  | some (.int64 ids), some (.int32 rowGroups) =>
    if schema = indexSchema then .ok ((ids.zip rowGroups).map rowBytes).flatten
    else .error "unknown schema"
  | _, _ => .error "unknown batch"

/-- Rows of thirteen bytes, to the end of the body. -/
def readRows (body : List UInt8) : Option ArrowStream :=
  match chunksExact 13 body with
  | .ok chunks => some ⟨indexSchema, [some [("id", .int64 ((chunks.map readRow).map (·.1))),
      ("row_group", .int32 ((chunks.map readRow).map (·.2)))]]⟩
  | .error _ => none

theorem length_rowBytes (row : Option ℤ × Option ℤ) : (rowBytes row).length = 13 := by
  simp [rowBytes]

/-- A row is read back. -/
theorem readRow_rowBytes {id : ℤ} (hid : -2 ^ 63 ≤ id ∧ id < 2 ^ 63) {rowGroup : Option ℤ}
    (hrow : ∀ n ∈ rowGroup, -2 ^ 31 ≤ n ∧ n < 2 ^ 31) :
    readRow (rowBytes (some id, rowGroup)) = (some id, rowGroup) := by
  have hidBytes : leValue (toLeBytes 8 (id + 2 ^ 63).toNat) = (id + 2 ^ 63).toNat :=
    leValue_toLeBytes (by omega)
  have hvalue : ((id + 2 ^ 63).toNat : ℤ) - 2 ^ 63 = id := by omega
  have htake : (rowBytes (some id, rowGroup)).take 8 = toLeBytes 8 (id + 2 ^ 63).toNat :=
    List.take_left' (length_toLeBytes _ _)
  cases rowGroup with
  | none =>
    have hflag : (rowBytes (some id, none))[8]? = some 0 :=
      List.getElem?_append_right (length_toLeBytes 8 _).le
    rw [readRow, htake, hidBytes, hvalue, hflag, if_neg (by decide)]
  | some n =>
    obtain ⟨hlow, hhigh⟩ := hrow n rfl
    have hflag : (rowBytes (some id, some n))[8]? = some 1 :=
      List.getElem?_append_right (length_toLeBytes 8 _).le
    have hdrop : (rowBytes (some id, some n)).drop 9 = toLeBytes 4 (n + 2 ^ 31).toNat := rfl
    have hrowBytes : leValue (toLeBytes 4 (n + 2 ^ 31).toNat) = (n + 2 ^ 31).toNat :=
      leValue_toLeBytes (by omega)
    have hrowValue : ((n + 2 ^ 31).toNat : ℤ) - 2 ^ 31 = n := by omega
    rw [readRow, htake, hidBytes, hvalue, hflag, if_pos rfl, hdrop, hrowBytes, hrowValue]

/-! ## The codec -/

/-- The codec, where the positive ids are unit ids. -/
def jsonRowCodec : IndexCodec where
  writeStream := writeRows
  readStream := readRows
  footerToVec := fun footer => .ok (utf8Bytes (String.ofList (footerText footer)))
  footerFromSlice := fun bytes => do
    let text ← String.fromUTF8? ⟨bytes.toArray⟩
    let read ← readFooter text.toList
    if read.2 = [] then some read.1 else none
  unitId := fun id => if id ≤ 0 then some "unit id must be positive" else none

theorem jsonRowCodec_jsonLawful : jsonRowCodec.JsonLawful where
  roundTrip footer := by
    refine ⟨String.ofList (footerText footer), rfl, ?_, ?_⟩
    · have htext : String.fromUTF8? ⟨(utf8Bytes (String.ofList (footerText footer))).toArray⟩ =
          some (String.ofList (footerText footer)) := by
        have hbytes : (⟨(utf8Bytes (String.ofList (footerText footer))).toArray⟩ : ByteArray) =
            (String.ofList (footerText footer)).toByteArray := by
          rw [utf8Bytes, String.toUTF8_eq_toByteArray, Array.toArray_toList]
        rw [hbytes, String.fromUTF8?, dif_pos (String.isValidUTF8 _)]
        rfl
      simp only [jsonRowCodec, htext, Option.bind_eq_bind, Option.bind_some, String.toList_ofList,
        readFooter_footerText, if_true]
    · intro c hc
      rw [String.toList_ofList] at hc
      exact UInt32.le_iff_toNat_le.2 (le_of_mem_footerText hc)

theorem jsonRowCodec_arrowLawful : jsonRowCodec.ArrowLawful := by
  intro ids rowGroups hlength hids hrowGroups
  refine ⟨(((ids.map some).zip rowGroups).map rowBytes).flatten, ?_, ?_⟩
  · have hlookup : writeRows indexSchema
        [("id", .int64 (ids.map some)), ("row_group", .int32 rowGroups)] =
        if indexSchema = indexSchema then .ok (((ids.map some).zip rowGroups).map rowBytes).flatten
        else .error "unknown schema" := rfl
    exact hlookup.trans (if_pos rfl)
  · have hlength' : (ids.map some).length = rowGroups.length := by rw [List.length_map, hlength]
    have hchunks : chunksExact 13 (((ids.map some).zip rowGroups).map rowBytes).flatten =
        .ok (((ids.map some).zip rowGroups).map rowBytes) := by
      refine chunksExact_flatten (by decide) fun row hrow => ?_
      obtain ⟨_, -, rfl⟩ := List.mem_map.1 hrow
      exact length_rowBytes _
    have hrows : (((ids.map some).zip rowGroups).map rowBytes).map readRow =
        (ids.map some).zip rowGroups := by
      rw [List.map_map]
      refine (List.map_congr_left ?_).trans (List.map_id _)
      rintro ⟨id, rowGroup⟩ hrow
      obtain ⟨n, hn, rfl⟩ := List.mem_map.1 (List.of_mem_zip hrow).1
      refine readRow_rowBytes (hids n hn) ?_
      rintro m rfl
      exact hrowGroups m (List.reduceOption_mem_iff.2 (List.of_mem_zip hrow).2)
    simp only [jsonRowCodec, readRows, hchunks, hrows, List.map_fst_zip hlength'.le,
      List.map_snd_zip hlength'.ge]

end Pourpoint.IdIndexFormat
