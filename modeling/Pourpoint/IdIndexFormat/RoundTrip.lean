import Pourpoint.IdIndexFormat.Codec
import Pourpoint.Library.Crc

/-!
# Id indexes are read back

What is written is read back for the same size and ETag (`idIndex_roundTrip`), and the checksum of the
footer refuses every body in which up to four bytes next to each other were changed
(`idIndex_corruption`).
-/

namespace Pourpoint.IdIndexFormat

open Library

/-! ## Bodies -/

/-- An index that can be written: distinct ids that `UnitId::new` accepts, and row groups for all of them
or for none. -/
structure IdIndex.Valid (codec : IndexCodec) (index : IdIndex) : Prop where
  nonempty : index.ids ≠ []
  nodup : index.ids.Nodup
  unitIds : ∀ id ∈ index.ids, codec.unitId id = none ∧ -2 ^ 63 ≤ id ∧ id < 2 ^ 63
  keys : ∀ groups, index.idRowGroups = some groups → ∀ id, id ∈ groups.keys ↔ id ∈ index.ids
  small : ∀ groups, index.idRowGroups = some groups → ∀ entry ∈ groups.entries, entry.2 < 2 ^ 31

/-- The row group of an id. -/
def IdIndex.rowGroupOf (index : IdIndex) (id : UnitId) : Option ℕ :=
  index.idRowGroups.bind fun groups => groups.get? id

section

variable {codec : IndexCodec} {index : IdIndex}

theorem IdIndex.Valid.rowGroupOf_lt (h : index.Valid codec) {id : UnitId} {rowGroup : ℕ}
    (hrow : index.rowGroupOf id = some rowGroup) : rowGroup < 2 ^ 31 := by
  obtain ⟨groups, hgroups, hget⟩ := Option.bind_eq_some_iff.1 hrow
  exact h.small groups hgroups _ (SortedMap.get?_eq_some_iff.1 hget)

/-- A valid index has a body, which holds its ids and row groups. -/
theorem IdIndex.Valid.encodeBody (h : index.Valid codec) (hcodec : codec.ArrowLawful) :
    ∃ body, encodeBody codec index = .ok body ∧ codec.readStream body = some ⟨indexSchema,
      [some [("id", .int64 (index.ids.map some)),
        ("row_group", .int32 (index.ids.map fun id => (index.rowGroupOf id).map Nat.cast))]]⟩ := by
  have hcells : index.ids.mapM (rowGroupCell index) =
      .ok (index.ids.map fun id => (index.rowGroupOf id).map Nat.cast) := by
    refine mapM_eq_ok_map fun id _ => ?_
    unfold rowGroupCell
    rw [← IdIndex.rowGroupOf]
    cases hrow : index.rowGroupOf id with
    | none => rfl
    | some rowGroup => exact if_pos (h.rowGroupOf_lt hrow)
  obtain ⟨body, hwrite, hread⟩ := hcodec index.ids
    (index.ids.map fun id => (index.rowGroupOf id).map Nat.cast) (by rw [List.length_map])
    (fun id hid => (h.unitIds id hid).2) (by
      intro rowGroup hmem
      rw [List.reduceOption_mem_iff, List.mem_map] at hmem
      obtain ⟨id, -, hrow⟩ := hmem
      obtain ⟨n, hn, rfl⟩ := Option.map_eq_some_iff.1 hrow
      have := h.rowGroupOf_lt hn
      omega)
  refine ⟨body, ?_, hread⟩
  rw [IdIndexFormat.encodeBody, hcells, ok_bind, hwrite]
  rfl

/-- New entries are inserted one after the other. -/
theorem foldlM_insertNew {entries : List (UnitId × ℕ)} (hnodup : (entries.map (·.1)).Nodup)
    {groups : SortedMap UnitId ℕ} (hnew : ∀ entry ∈ entries, entry.1 ∉ groups.keys) :
    entries.foldlM insertNew groups =
      some (entries.foldl (fun groups entry => groups.insert entry.1 entry.2) groups) := by
  induction entries generalizing groups with
  | nil => rfl
  | cons entry entries ih =>
    obtain ⟨hhead, htail⟩ := List.nodup_cons.1 hnodup
    have hinsert : insertNew groups entry = some (groups.insert entry.1 entry.2) := by
      rw [insertNew, SortedMap.contains, if_neg (by simpa using hnew entry List.mem_cons_self)]
    rw [List.foldlM_cons, hinsert, List.foldl_cons]
    refine ih htail ?_
    intro other hother hmem
    obtain ⟨v, hv⟩ := SortedMap.mem_keys.1 hmem
    rcases SortedMap.mem_insert_iff.1 hv with heq | ⟨-, hold⟩
    · obtain ⟨hkey, -⟩ := Prod.mk.inj heq
      exact hhead (List.mem_map.2 ⟨other, hother, hkey⟩)
    · exact hnew other (List.mem_cons_of_mem _ hother) (SortedMap.mem_keys.2 ⟨v, hold⟩)

/-- The rows of an index are collected into the index. -/
theorem IdIndex.Valid.collectRowGroups (h : index.Valid codec) :
    collectRowGroups (index.ids.map fun id => (id, index.rowGroupOf id)) = some index := by
  have hids : (index.ids.map fun id => (id, index.rowGroupOf id)).map (·.1) = index.ids := by
    rw [List.map_map]
    exact List.map_id _
  unfold IdIndexFormat.collectRowGroups
  dsimp only
  rw [hids]
  cases hgroups : index.idRowGroups with
  | none =>
    have hnone : ∀ id, index.rowGroupOf id = none := fun id => by rw [rowGroupOf, hgroups]; rfl
    have hcount : (index.ids.map fun id => (id, index.rowGroupOf id)).countP (·.2.isSome) = 0 := by
      simp [List.countP_eq_zero, hnone]
    rw [if_pos hcount, ← hgroups]
  | some groups =>
    have hsome : ∀ id ∈ index.ids, ∃ rowGroup, groups.get? id = some rowGroup := by
      intro id hid
      obtain ⟨rowGroup, hmem⟩ := SortedMap.mem_keys.1 ((h.keys groups hgroups id).2 hid)
      exact ⟨rowGroup, SortedMap.get?_eq_some_iff.2 hmem⟩
    have hvalue : ∀ id ∈ index.ids, index.rowGroupOf id = some ((groups.get? id).getD 0) := by
      intro id hid
      obtain ⟨rowGroup, hget⟩ := hsome id hid
      rw [rowGroupOf, hgroups, Option.bind_some, hget, Option.getD_some]
    have hrows : (index.ids.map fun id => (id, index.rowGroupOf id)) =
        index.ids.map fun id => (id, some ((groups.get? id).getD 0)) :=
      List.map_congr_left fun id hid => by rw [hvalue id hid]
    have hcount : (index.ids.map fun id => (id, index.rowGroupOf id)).countP (·.2.isSome) =
        index.ids.length := by
      rw [hrows, List.countP_eq_length.2 (by simp), List.length_map]
    have hentries : index.ids.zip
        ((index.ids.map fun id => (id, index.rowGroupOf id)).map (·.2)).reduceOption =
        index.ids.map fun id => (id, (groups.get? id).getD 0) := by
      have hpresent : ((index.ids.map fun id => (id, index.rowGroupOf id)).map (·.2)).reduceOption =
          index.ids.map fun id => (groups.get? id).getD 0 := by
        rw [hrows, List.map_map, List.reduceOption, List.filterMap_map]
        exact congrFun List.filterMap_eq_map' _
      rw [hpresent, ← List.map_prod_left_eq_zip]
    have hnodup : ((index.ids.map fun id => (id, (groups.get? id).getD 0)).map (·.1)).Nodup := by
      rw [List.map_map]
      exact (List.map_id index.ids).symm ▸ h.nodup
    rw [if_neg (by rw [hcount]; exact fun hzero => h.nonempty (List.eq_nil_of_length_eq_zero hzero)),
      if_pos hcount, hentries, foldlM_insertNew hnodup (by simp [SortedMap.keys, SortedMap.empty]),
      Option.bind_eq_bind, Option.bind_some]
    -- The map is determined by its entries.
    have hmap : (index.ids.map fun id => (id, (groups.get? id).getD 0)).foldl
        (fun groups entry => groups.insert entry.1 entry.2) .empty = groups := by
      refine SortedMap.ext_entries fun entry => ?_
      rw [SortedMap.mem_foldl_insert hnodup, List.mem_map]
      constructor
      · rintro (⟨id, hid, rfl⟩ | ⟨-, hempty⟩)
        · obtain ⟨rowGroup, hget⟩ := hsome id hid
          rw [hget, Option.getD_some]
          exact SortedMap.get?_eq_some_iff.1 hget
        · exact absurd hempty List.not_mem_nil
      · intro hentry
        refine Or.inl ⟨entry.1, (h.keys groups hgroups _).1 (SortedMap.mem_keys.2 ⟨entry.2, hentry⟩), ?_⟩
        rw [SortedMap.get?_eq_some_iff.2 hentry, Option.getD_some]
    rw [hmap, ← hgroups]

/-- **A body is read back.** -/
theorem IdIndex.Valid.decodeBody (h : index.Valid codec) {body : List UInt8}
    (hread : codec.readStream body = some ⟨indexSchema,
      [some [("id", .int64 (index.ids.map some)),
        ("row_group", .int32 (index.ids.map fun id => (index.rowGroupOf id).map Nat.cast))]]⟩) :
    decodeBody codec body = some index := by
  have hrow : ∀ id ∈ index.ids, decodeRow codec (some id, (index.rowGroupOf id).map Nat.cast) =
      some (id, index.rowGroupOf id) := by
    intro id hid
    simp only [decodeRow, Option.bind_eq_bind, Option.bind_some, (h.unitIds id hid).1]
    cases index.rowGroupOf id with
    | none => rfl
    | some rowGroup => simp
  have hbatch : decodeBatch codec [("id", .int64 (index.ids.map some)),
      ("row_group", .int32 (index.ids.map fun id => (index.rowGroupOf id).map Nat.cast))] =
      some (index.ids.map fun id => (id, index.rowGroupOf id)) := by
    have hlookup : (decodeBatch codec [("id", .int64 (index.ids.map some)),
        ("row_group", .int32 (index.ids.map fun id => (index.rowGroupOf id).map Nat.cast))]) =
        ((index.ids.map some).zip
          (index.ids.map fun id => (index.rowGroupOf id).map Nat.cast)).mapM (decodeRow codec) := rfl
    rw [hlookup, List.zip_map', List.mapM_map]
    exact (mapM_congr hrow).trans List.mapM_pure
  have hfields : indexSchema.lookup "id" = some .int64 ∧ indexSchema.lookup "row_group" = some .int32 := by
    decide
  rw [IdIndexFormat.decodeBody, hread]
  simp only [Option.bind_eq_bind, Option.bind_some, hfields.1, hfields.2, List.mapM_cons,
    List.mapM_nil, hbatch]
  simpa using h.collectRowGroups

end

/-! ## Round trip -/

section

variable {codec : IndexCodec}

theorem writeToPath_eq_ok {outcome : WriteOutcome} {validatedAt : UInt64} {index : IdIndex}
    {fileSize : UInt64} {fileEtag : Option String} {bytes : List UInt8}
    (h : writeToPath codec outcome validatedAt index fileSize fileEtag = .ok bytes) :
    ∃ body footerJson, encodeBody codec index = .ok body ∧
      codec.footerToVec ⟨fileEtag, fileSize, cargoPkgVersion, validatedAt, crc32 body⟩ =
        .ok footerJson ∧ bytes = fileBytes body footerJson := by
  obtain ⟨-, -, h⟩ := bind_eq_ok h
  obtain ⟨body, hbody, h⟩ := bind_eq_ok h
  obtain ⟨footerJson, hjson, h⟩ := bind_eq_ok h
  obtain ⟨-, -, h⟩ := bind_eq_ok h
  cases h
  exact ⟨body, footerJson, hbody, mapError_eq_ok_iff.1 hjson, rfl⟩

theorem loadFromPath_fileBytes (hcodec : codec.JsonLawful) {footer : Footer} {footerJson : List UInt8}
    (hjson : codec.footerToVec footer = .ok footerJson) {body : List UInt8}
    (hmemory : (fileBytes body footerJson).length < 2 ^ 61) (expectedSize : UInt64)
    (expectedEtag : Option String) :
    loadFromPath codec (.bytes (fileBytes body footerJson)) expectedSize expectedEtag =
      if footer.fileSize ≠ expectedSize ∨ footer.fileEtag ≠ expectedEtag then .ok none
      else if footer.builtByPourpointVersion ≠ cargoPkgVersion then .ok none
      else if crc32 body ≠ footer.bodyCrc32 then .ok none
      else .ok (decodeBody codec body) := by
  obtain ⟨text, htext, hparse, hplain⟩ := hcodec.roundTrip footer
  obtain rfl : utf8Bytes text = footerJson := by
    rw [htext] at hjson
    exact Except.ok.inj hjson
  simp only [loadFromPath, splitBodyAndFooter_fileBytes hplain hmemory, hparse]

/-- **The round trip of an id index.** A valid index is written when the file system allows it, and a file
that fits into memory is loaded as that index for the same size and ETag, and not for any other. -/
theorem idIndex_roundTrip (hjson : codec.JsonLawful) (harrow : codec.ArrowLawful) {index : IdIndex}
    (hvalid : index.Valid codec) (validatedAt fileSize : UInt64) (fileEtag : Option String) :
    ∃ bytes, writeToPath codec ⟨.ok (), .ok ()⟩ validatedAt index fileSize fileEtag = .ok bytes ∧
      (bytes.length < 2 ^ 61 →
        loadFromPath codec (.bytes bytes) fileSize fileEtag = .ok (some index) ∧
        ∀ otherSize otherEtag, otherSize ≠ fileSize ∨ otherEtag ≠ fileEtag →
          loadFromPath codec (.bytes bytes) otherSize otherEtag = .ok none) := by
  obtain ⟨body, hbody, hread⟩ := hvalid.encodeBody harrow
  obtain ⟨text, htext, -, -⟩ := hjson.roundTrip
    ⟨fileEtag, fileSize, cargoPkgVersion, validatedAt, crc32 body⟩
  refine ⟨fileBytes body (utf8Bytes text), ?_, fun hmemory => ⟨?_, ?_⟩⟩
  · simp only [writeToPath, ok_bind, hbody, htext]
    rfl
  · rw [loadFromPath_fileBytes hjson htext hmemory, if_neg (by simp), if_neg (by simp),
      if_neg (by simp), hvalid.decodeBody hread]
  · intro otherSize otherEtag hother
    rw [loadFromPath_fileBytes hjson htext hmemory, if_pos]
    exact hother.imp Ne.symm Ne.symm

/-- Two units with row groups. -/
def twoUnits : IdIndex := ⟨[3, 1], some ((SortedMap.empty.insert 3 5).insert 1 0)⟩

/-- An ETag with the mark, a quotation mark, a control character and a character beyond ASCII. -/
def markEtag : String := "\"IIDX\n\u00e9"

theorem twoUnits_valid : twoUnits.Valid jsonRowCodec where
  nonempty := by decide
  nodup := by decide
  unitIds := by decide
  keys := by
    rintro groups ⟨⟩ id
    have hkeys : ((SortedMap.empty.insert 3 5).insert 1 0 : SortedMap UnitId ℕ).keys = [1, 3] := rfl
    rw [hkeys, twoUnits, List.mem_cons, List.mem_singleton, List.mem_cons, List.mem_singleton, or_comm]
  small := by
    rintro groups ⟨⟩
    decide

/-- The index of two units is loaded with an ETag that holds the mark. -/
theorem idIndex_roundTrip_mark :
    ∃ bytes, writeToPath jsonRowCodec ⟨.ok (), .ok ()⟩ 9 twoUnits 7 (some markEtag) = .ok bytes ∧
      loadFromPath jsonRowCodec (.bytes bytes) 7 (some markEtag) = .ok (some twoUnits) := by
  have hlength : (writeToPath jsonRowCodec ⟨.ok (), .ok ()⟩ 9 twoUnits 7
      (some markEtag)).toOption.map List.length = some 156 := by
    decide +kernel
  obtain ⟨bytes, hwrite, hload⟩ := idIndex_roundTrip jsonRowCodec_jsonLawful jsonRowCodec_arrowLawful
    twoUnits_valid 9 7 (some markEtag)
  rw [hwrite] at hlength
  have hbytes : bytes.length = 156 := Option.some.inj hlength
  exact ⟨bytes, hwrite, (hload (by rw [hbytes]; decide)).1⟩

/-! ## Corruption -/

/-- The polynomial of `crc32`. -/
def crcPolynomial : BitVec 32 := 0xedb88320#32

theorem crc32Turn_eq (crc : BitVec 32) : crc32Turn crc = crcShift crcPolynomial crc := by
  rw [crc32Turn, crcShift, BitVec.and_one_eq_setWidth_ofBool_getLsbD]
  cases crc.getLsbD 0 <;> simp [crcPolynomial]

theorem crc32_eq (bytes : List UInt8) :
    crc32 bytes = ~~~crcBytes crcPolynomial 0xffffffff#32 (bytes.map UInt8.toBitVec) := by
  have hturn : crc32Turn = crcShift crcPolynomial := funext crc32Turn_eq
  rw [crc32, crcBytes, List.foldl_map, hturn]
  rfl

/-- A change of up to four bytes next to each other changes the checksum. -/
theorem crc32_burst {before after changed changed' : List UInt8}
    (hlength : changed.length = changed'.length) (hfour : changed.length ≤ 4)
    (hne : changed ≠ changed') :
    crc32 (before ++ changed ++ after) ≠ crc32 (before ++ changed' ++ after) := by
  rw [crc32_eq, crc32_eq, ne_eq, BitVec.not_inj]
  simp only [List.map_append]
  refine crcBytes_burst (by decide) (by simpa using hlength) ?_ ?_ _
  · rw [List.length_map]
    omega
  · intro h
    exact hne (List.map_injective_iff.2 (fun _ _ => UInt8.toBitVec_inj.1) h)

theorem append_drop_fileBytes (body body' footerJson : List UInt8) :
    body' ++ (fileBytes body footerJson).drop body.length = fileBytes body' footerJson := by
  simp only [fileBytes, List.append_assoc, List.drop_left]

/-- **Corruption is detected.** Whatever was written, a file in whose body up to four bytes next to each
other were changed is not loaded. -/
theorem idIndex_corruption (hjson : codec.JsonLawful) {outcome : WriteOutcome} {validatedAt : UInt64}
    {index : IdIndex} {fileSize : UInt64} {fileEtag : Option String} {bytes : List UInt8}
    (hwrite : writeToPath codec outcome validatedAt index fileSize fileEtag = .ok bytes)
    (hmemory : bytes.length < 2 ^ 61) {before changed changed' after : List UInt8}
    (hbody : encodeBody codec index = .ok (before ++ changed ++ after))
    (hlength : changed.length = changed'.length) (hfour : changed.length ≤ 4)
    (hne : changed ≠ changed') (expectedSize : UInt64) (expectedEtag : Option String) :
    loadFromPath codec (.bytes (before ++ changed' ++ after ++
      bytes.drop (before ++ changed ++ after).length)) expectedSize expectedEtag = .ok none := by
  obtain ⟨body, footerJson, hbody', hfooter, rfl⟩ := writeToPath_eq_ok hwrite
  obtain rfl : before ++ changed ++ after = body := by
    rw [hbody] at hbody'
    exact Except.ok.inj hbody'
  have hmemory' : (fileBytes (before ++ changed' ++ after) footerJson).length < 2 ^ 61 := by
    simp only [length_fileBytes, List.length_append] at hmemory ⊢
    omega
  have hcrc : crc32 (before ++ changed' ++ after) ≠ crc32 (before ++ changed ++ after) :=
    (crc32_burst hlength hfour hne).symm
  rw [append_drop_fileBytes, loadFromPath_fileBytes hjson hfooter hmemory', if_pos hcrc, ite_self,
    ite_self]

/-- The body of the two units after the two lowest bytes of the first id. -/
def twoUnitsRest : List UInt8 :=
  [0, 0, 0, 0, 0, 0x80, 1, 5, 0, 0, 0x80, 1, 0, 0, 0, 0, 0, 0, 0x80, 1, 0, 0, 0, 0x80]

/-- The file of the two units is not loaded with another first id. -/
theorem idIndex_corruption_id :
    ∃ bytes, writeToPath jsonRowCodec ⟨.ok (), .ok ()⟩ 9 twoUnits 7 none = .ok bytes ∧
      loadFromPath jsonRowCodec (.bytes ([] ++ [4, 1] ++ twoUnitsRest ++ bytes.drop 26)) 7 none =
        .ok none := by
  obtain ⟨bytes, hwrite, hbytes⟩ : ∃ bytes,
      writeToPath jsonRowCodec ⟨.ok (), .ok ()⟩ 9 twoUnits 7 none = .ok bytes ∧ bytes.length = 148 := by
    refine ⟨_, rfl, ?_⟩
    decide +kernel
  have hbody : encodeBody jsonRowCodec twoUnits = .ok ([] ++ [3, 0] ++ twoUnitsRest) := by rfl
  refine ⟨bytes, hwrite, ?_⟩
  exact idIndex_corruption jsonRowCodec_jsonLawful hwrite (by rw [hbytes]; decide) hbody
    (show ([3, 0] : List UInt8).length = [4, 1].length from rfl) (by decide) (by decide) 7 none

end

end Pourpoint.IdIndexFormat
