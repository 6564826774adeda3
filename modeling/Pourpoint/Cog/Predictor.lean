import Pourpoint.Cog.Window

/-!
# Encoding one tile

The inverse of the tile decoder: a padded tile of samples is written row by row with the predictor of
the file. Predictor 2 stores the differences of neighbours along a padded row, modulo 2⁸ or 2³².
Predictor 3 splits a row of words into four byte planes, the most significant first, and stores the
differences of neighbouring bytes along all four. Decoding an encoded tile gives back its live part
(`decodeOwnedChunk_encodeTile`).
-/

namespace Pourpoint

/-! ## Tiles of samples -/

/-- The samples of a padded tile, row by row. -/
structure PaddedRows (α : Type) where
  rows : List (List α)
  length_rows : rows.length = 512
  length_row : ∀ row ∈ rows, row.length = 512

/-- The samples of a tile, as their bits. -/
inductive TileSamples where
  | bytes (tile : PaddedRows UInt8)
  | words (tile : PaddedRows UInt32)

/-- The samples have the width of the type. -/
def TileSamples.Fits : TileSamples → CogSampleType → Prop
  | .bytes _, sampleType => sampleType.isByte = true
  | .words _, sampleType => sampleType.isByte = false

/-- The columns and rows of a tile that lie on the raster. -/
def PaddedRows.live {α : Type} (tile : PaddedRows α) (liveWidth liveHeight : ℕ) : List α :=
  ((tile.rows.take liveHeight).map fun row => row.take liveWidth).flatten

/-! ## Predictors -/

/-- The difference of each byte to the one before it, modulo 2⁸. -/
def differenceBytes (previous : UInt8) : List UInt8 → List UInt8
  | [] => []
  | b :: bs => (b - previous) :: differenceBytes b bs

/-- The difference of each word to the one before it, modulo 2³². -/
def differenceWords (previous : UInt32) : List UInt32 → List UInt32
  | [] => []
  | w :: ws => (w - previous) :: differenceWords w ws

/-- The words of a row in little-endian order. -/
def wordBytes (row : List UInt32) : List UInt8 := row.flatMap leBytesOfWord

/-- The four byte planes of a row, the most significant first. -/
def bytePlanes (row : List UInt32) : List UInt8 :=
  row.map (fun w : UInt32 => (w >>> 24).toUInt8) ++ row.map (fun w : UInt32 => (w >>> 16).toUInt8) ++
    row.map (fun w : UInt32 => (w >>> 8).toUInt8) ++ row.map UInt32.toUInt8

/-- A row of bytes with the predictor applied. -/
def encodeByteRow (predictor : ℕ) (row : List UInt8) : List UInt8 :=
  if predictor = 2 then differenceBytes 0 row else row

/-- A row of integers with the predictor applied. -/
def encodeI32Row (predictor : ℕ) (row : List UInt32) : List UInt8 :=
  wordBytes (if predictor = 2 then differenceWords 0 row else row)

/-- A row of floats with the predictor applied. -/
def encodeF32Row (predictor : ℕ) (row : List UInt32) : List UInt8 :=
  if predictor = 3 then differenceBytes 0 (bytePlanes row) else wordBytes row

/-- Words are integers or floats. -/
def encodeWordRow (metadata : CogMetadata) (row : List UInt32) : List UInt8 :=
  match metadata.sampleType with
  | .f32 => encodeF32Row metadata.predictor row
  | _ => encodeI32Row metadata.predictor row

/-- The bytes of a tile before compression. -/
def encodeTile (metadata : CogMetadata) : TileSamples → List UInt8
  | .bytes tile => (tile.rows.map (encodeByteRow metadata.predictor)).flatten
  | .words tile => (tile.rows.map (encodeWordRow metadata)).flatten

/-- The live part of a tile, with the nodata mapping of `i32` samples. -/
def liveTile (metadata : CogMetadata) (liveWidth liveHeight : ℕ) : TileSamples → OwnedTileData
  | .bytes tile => .u8 (tile.live liveWidth liveHeight)
  | .words tile =>
    let live := tile.live liveWidth liveHeight
    match metadata.sampleType with
    | .f32 => .f32 (live.map F32.ofBits)
    | _ => .f32 (normalizeI32Accumulation (live.map i32OfWord) (parseI32 metadata.nodata))

/-! ## Words and bytes -/

/-- A word from its four bytes, as natural numbers. -/
theorem lor_bytes (n : ℕ) (h : n < 2 ^ 32) :
    n % 2 ^ 8 ||| ((n >>> 8) % 2 ^ 8) <<< 8 % 2 ^ 32 ||| ((n >>> 16) % 2 ^ 8) <<< 16 % 2 ^ 32 |||
      ((n >>> 24) % 2 ^ 8) <<< 24 % 2 ^ 32 = n := by
  apply Nat.eq_of_testBit_eq
  intro i
  simp only [Nat.testBit_or, Nat.testBit_mod_two_pow, Nat.testBit_shiftLeft, Nat.testBit_shiftRight]
  -- each bit comes from the byte that it lies in
  rcases Nat.lt_or_ge i 32 with hi | hi
  · have hbyte : i < 8 ∨ 8 ≤ i ∧ i < 16 ∨ 16 ≤ i ∧ i < 24 ∨ 24 ≤ i := by omega
    rcases hbyte with h8 | ⟨h8, h16⟩ | ⟨h16, h24⟩ | h24
    · simp [h8, hi, show ¬8 ≤ i by omega, show ¬16 ≤ i by omega, show ¬24 ≤ i by omega]
    · simp [h8, hi, show ¬i < 8 by omega, show i - 8 < 8 by omega, show ¬16 ≤ i by omega,
        show ¬24 ≤ i by omega, show 8 + (i - 8) = i by omega]
    · simp [h16, hi, show ¬i < 8 by omega, show ¬i - 8 < 8 by omega, show i - 16 < 8 by omega,
        show ¬24 ≤ i by omega, show 16 + (i - 16) = i by omega]
    · simp [h24, hi, show ¬i < 8 by omega, show ¬i - 8 < 8 by omega, show ¬i - 16 < 8 by omega,
        show i - 24 < 8 by omega, show 24 + (i - 24) = i by omega]
  · have hbit : n.testBit i = false :=
      Nat.testBit_lt_two_pow (h.trans_le (Nat.pow_le_pow_right (by decide) hi))
    simp [hbit, show ¬i < 8 by omega, show ¬i < 32 by omega]

theorem wordOfLeBytes_leBytes (w : UInt32) :
    wordOfLeBytes w.toUInt8 (w >>> 8).toUInt8 (w >>> 16).toUInt8 (w >>> 24).toUInt8 = w := by
  apply UInt32.toNat_inj.1
  simp only [wordOfLeBytes, UInt32.toNat_or, UInt32.toNat_shiftLeft, UInt8.toNat_toUInt32,
    UInt32.toNat_toUInt8, UInt32.toNat_shiftRight]
  exact lor_bytes w.toNat w.toNat_lt

theorem leWords_wordBytes (row : List UInt32) : leWords (wordBytes row) = row := by
  induction row with
  | nil => rfl
  | cons w ws ih =>
    show wordOfLeBytes _ _ _ _ :: leWords (wordBytes ws) = w :: ws
    rw [wordOfLeBytes_leBytes, ih]

@[simp] theorem length_wordBytes (row : List UInt32) : (wordBytes row).length = 4 * row.length := by
  induction row with
  | nil => rfl
  | cons w ws ih =>
    show (leBytesOfWord w ++ wordBytes ws).length = _
    rw [List.length_append, ih, List.length_cons]
    show 4 + _ = _
    omega

/-! ## Predictors are undone -/

theorem accumulateBytes_differenceBytes (previous : UInt8) (row : List UInt8) :
    accumulateBytes previous (differenceBytes previous row) = row := by
  induction row generalizing previous with
  | nil => rfl
  | cons b bs ih =>
    have hsum : b - previous + previous = b := UInt8.sub_add_cancel b previous
    rw [differenceBytes, accumulateBytes, hsum, ih]

theorem accumulateWords_differenceWords (previous : UInt32) (row : List UInt32) :
    accumulateWords previous (wordBytes (differenceWords previous row)) = wordBytes row := by
  induction row generalizing previous with
  | nil => rfl
  | cons w ws ih =>
    have hsum : previous + (w - previous) = w := by
      rw [UInt32.add_comm, UInt32.sub_add_cancel]
    show leBytesOfWord (previous + wordOfLeBytes _ _ _ _) ++
      accumulateWords (previous + wordOfLeBytes _ _ _ _) (wordBytes (differenceWords w ws)) = _
    rw [wordOfLeBytes_leBytes, hsum, ih]
    rfl

@[simp] theorem length_differenceBytes (previous : UInt8) (row : List UInt8) :
    (differenceBytes previous row).length = row.length := by
  induction row generalizing previous with
  | nil => rfl
  | cons b bs ih => rw [differenceBytes, List.length_cons, List.length_cons, ih]

@[simp] theorem length_differenceWords (previous : UInt32) (row : List UInt32) :
    (differenceWords previous row).length = row.length := by
  induction row generalizing previous with
  | nil => rfl
  | cons w ws ih => rw [differenceWords, List.length_cons, List.length_cons, ih]

@[simp] theorem length_bytePlanes (row : List UInt32) :
    (bytePlanes row).length = 4 * row.length := by
  simp only [bytePlanes, List.length_append, List.length_map]
  omega

/-- A sample is put together from the four planes. -/
theorem planeSample_bytePlanes {row : List UInt32} {column : ℕ} (h : column < row.length) :
    planeSample (bytePlanes row) row.length column = .ok (F32.ofBits row[column]) := by
  have hread : ∀ {i : ℕ} {b : UInt8}, (bytePlanes row)[i]? = some b →
      readIndex (bytePlanes row) i = .ok b := by
    intro i b hb
    rw [readIndex, hb]
  have h0 : (bytePlanes row)[column]? = some (row[column] >>> 24).toUInt8 := by
    simp [bytePlanes, List.getElem?_append, h]
  have h1 : (bytePlanes row)[row.length + column]? = some (row[column] >>> 16).toUInt8 := by
    simp [bytePlanes, List.getElem?_append, h]
  have h2 : (bytePlanes row)[2 * row.length + column]? = some (row[column] >>> 8).toUInt8 := by
    simp [bytePlanes, List.getElem?_append, h, two_mul, Nat.add_assoc]
  have h3 : (bytePlanes row)[3 * row.length + column]? = some row[column].toUInt8 := by
    have hindex : 3 * row.length + column = row.length + (row.length + (row.length + column)) := by
      ring
    rw [hindex]
    simp [bytePlanes, h]
  rw [planeSample, hread h0, ok_bind, hread h1, ok_bind, hread h2, ok_bind, hread h3, ok_bind,
    wordOfLeBytes_leBytes]
  rfl

/-! ## Rows -/

section Rows

variable {α β : Type} {rows : List (List α)} {size : ℕ}

theorem clipRows_map {encode : List α → List UInt8} (hsize : 0 < size)
    (h : ∀ row ∈ rows, (encode row).length = size) (clipRow : List UInt8 → Exec (List β))
    {live : List α → List β} (hclip : ∀ row ∈ rows, clipRow (encode row) = .ok (live row))
    (liveHeight : ℕ) :
    clipRows size liveHeight clipRow (rows.map encode).flatten =
      .ok ((rows.take liveHeight).map live).flatten := by
  have hrows : ∀ row ∈ rows.map encode, row.length = size := by
    intro row hrow
    obtain ⟨source, hsource, rfl⟩ := List.mem_map.1 hrow
    exact h source hsource
  rw [clipRows, chunksExact_flatten hsize hrows, ok_bind, ← List.map_take, List.mapM_map]
  rw [mapM_eq_ok_map (f := clipRow ∘ encode) fun row hrow => hclip row (List.mem_of_mem_take hrow),
    ok_bind]
  rfl

end Rows

/-! ## One tile -/

section Tile

variable {metadata : CogMetadata} {path : String}

theorem length_encodeByteRow (predictor : ℕ) (row : List UInt8) :
    (encodeByteRow predictor row).length = row.length := by
  unfold encodeByteRow
  split_ifs
  · exact length_differenceBytes 0 row
  · rfl

theorem length_encodeWordRow (metadata : CogMetadata) (row : List UInt32) :
    (encodeWordRow metadata row).length = 4 * row.length := by
  unfold encodeWordRow
  split
  · unfold encodeF32Row
    split_ifs <;> simp
  · unfold encodeI32Row
    split_ifs <;> simp

theorem PaddedRows.length_encoded {α : Type} (tile : PaddedRows α) {encode : List α → List UInt8}
    {size : ℕ} (h : ∀ row : List α, row.length = 512 → (encode row).length = size) :
    ∀ row ∈ tile.rows.map encode, row.length = size := by
  intro row hrow
  obtain ⟨plain, hplain, rfl⟩ := List.mem_map.1 hrow
  exact h plain (tile.length_row plain hplain)

/-- The predictor of a row of words before the words are read: planes stay planes. -/
def plainWordRow (metadata : CogMetadata) (row : List UInt32) : List UInt8 :=
  if metadata.sampleType = .f32 ∧ metadata.predictor = 3 then bytePlanes row else wordBytes row

theorem length_plainWordRow (metadata : CogMetadata) (row : List UInt32) :
    (plainWordRow metadata row).length = 4 * row.length := by
  unfold plainWordRow
  split_ifs <;> simp

theorem TileSamples.length_encodeTile {samples : TileSamples} (h : samples.Fits metadata.sampleType) :
    (encodeTile metadata samples).length = metadata.paddedBytes := by
  cases samples with
  | bytes tile =>
    have hwidth : metadata.sampleType.sampleWidth = 1 := by
      revert h
      cases metadata.sampleType <;> simp [TileSamples.Fits, CogSampleType.isByte,
        CogSampleType.sampleWidth]
    have hrows : ∀ row ∈ tile.rows.map (encodeByteRow metadata.predictor), row.length = 512 :=
      tile.length_encoded fun row hrow => by rw [length_encodeByteRow, hrow]
    rw [encodeTile, length_flatten_eq_mul hrows, List.length_map, tile.length_rows,
      CogMetadata.paddedBytes, hwidth]
  | words tile =>
    have hwidth : metadata.sampleType.sampleWidth = 4 := by
      revert h
      cases metadata.sampleType <;> simp [TileSamples.Fits, CogSampleType.isByte,
        CogSampleType.sampleWidth]
    have hrows : ∀ row ∈ tile.rows.map (encodeWordRow metadata), row.length = 2048 :=
      tile.length_encoded fun row hrow => by rw [length_encodeWordRow, hrow]
    rw [encodeTile, length_flatten_eq_mul hrows, List.length_map, tile.length_rows,
      CogMetadata.paddedBytes, hwidth]

/-- The predictor of a tile of bytes is undone. -/
theorem undoPredictor_bytes (h : metadata.Merit) (htype : metadata.sampleType.isByte = true)
    (tile : PaddedRows UInt8) :
    (undoPredictor metadata (encodeTile metadata (.bytes tile)) path).Returns
      fun bytes => bytes = tile.rows.flatten := by
  have hpredictor : metadata.predictor = 1 ∨ metadata.predictor = 2 := by
    have hsupported := h.predictor
    revert htype hsupported
    cases metadata.sampleType <;> simp [CogSampleType.isByte, CogSampleType.supportedPredictor]
  rcases hpredictor with h1 | h2
  · have hplain : encodeTile metadata (.bytes tile) = tile.rows.flatten := by
      have hid : encodeByteRow 1 = id := by
        funext row
        simp [encodeByteRow]
      rw [encodeTile, h1, hid, List.map_id]
    unfold undoPredictor
    rw [h1, hplain]
    exact Fallible.returns_pure rfl
  · have hrows : ∀ row ∈ tile.rows.map (differenceBytes 0), row.length = 512 :=
      tile.length_encoded fun row hrow => by rw [length_differenceBytes, hrow]
    have hencoded : encodeTile metadata (.bytes tile) = (tile.rows.map (differenceBytes 0)).flatten := by
      rw [encodeTile, h2]
      rfl
    have hdecoded : mapChunksExact 512 (accumulateBytes 0) (encodeTile metadata (.bytes tile)) =
        .ok tile.rows.flatten := by
      rw [hencoded, mapChunksExact_flatten (by decide) hrows, List.map_map]
      simp [Function.comp_def, accumulateBytes_differenceBytes]
    unfold undoPredictor
    rw [h2, h.tileWidth]
    cases hsample : metadata.sampleType with
    | u8 => exact Fallible.returns_lift hdecoded rfl
    | i8 => exact Fallible.returns_lift hdecoded rfl
    | f32 => simp [hsample, CogSampleType.isByte] at htype
    | i32 => simp [hsample, CogSampleType.isByte] at htype

/-- A differenced tile of words is summed up again. -/
theorem mapChunksExact_words (tile : PaddedRows UInt32) (encode : List UInt32 → List UInt8)
    {plain : List UInt32 → List UInt8} {undo : List UInt8 → List UInt8}
    (hlength : ∀ row, (encode row).length = 4 * row.length)
    (hundo : ∀ row, undo (encode row) = plain row) :
    mapChunksExact 2048 undo (tile.rows.map encode).flatten = .ok (tile.rows.map plain).flatten := by
  have hrows : ∀ row ∈ tile.rows.map encode, row.length = 2048 :=
    tile.length_encoded fun row hrow => by rw [hlength, hrow]
  rw [mapChunksExact_flatten (by decide) hrows, List.map_map]
  simp only [Function.comp_def, hundo]

/-- The predictor of a tile of words is undone; planes stay planes. -/
theorem undoPredictor_words (h : metadata.Merit) (htype : metadata.sampleType.isByte = false)
    (tile : PaddedRows UInt32) :
    (undoPredictor metadata (encodeTile metadata (.words tile)) path).Returns
      fun bytes => bytes = (tile.rows.map (plainWordRow metadata)).flatten := by
  have hsupported := h.predictor
  cases hsample : metadata.sampleType with
  | u8 => simp [hsample, CogSampleType.isByte] at htype
  | i8 => simp [hsample, CogSampleType.isByte] at htype
  | i32 =>
    have hencode : encodeWordRow metadata = encodeI32Row metadata.predictor := by
      funext row
      rw [encodeWordRow, hsample]
    have hplain : plainWordRow metadata = wordBytes := by
      funext row
      simp [plainWordRow, hsample]
    have hpredictor : metadata.predictor = 1 ∨ metadata.predictor = 2 := by
      simpa [hsample, CogSampleType.supportedPredictor] using hsupported
    rw [encodeTile, hencode, hplain]
    unfold undoPredictor
    rw [h.tileWidth, hsample]
    rcases hpredictor with h1 | h2
    · rw [h1]
      exact Fallible.returns_pure rfl
    · rw [h2]
      apply Fallible.returns_orElse_bind (checkedMul_of_lt (by decide))
      have hmap := mapChunksExact_words tile (encodeI32Row 2)
        (by simp [encodeI32Row]) (accumulateWords_differenceWords 0)
      exact Fallible.returns_lift hmap rfl
  | f32 =>
    have hencode : encodeWordRow metadata = encodeF32Row metadata.predictor := by
      funext row
      rw [encodeWordRow, hsample]
    have hpredictor : metadata.predictor = 1 ∨ metadata.predictor = 3 := by
      simpa [hsample, CogSampleType.supportedPredictor] using hsupported
    rw [encodeTile, hencode]
    unfold undoPredictor
    rw [h.tileWidth, hsample]
    rcases hpredictor with h1 | h3
    · have hplain : plainWordRow metadata = encodeF32Row 1 := by
        funext row
        simp [plainWordRow, encodeF32Row, h1]
      rw [h1, hplain]
      exact Fallible.returns_pure rfl
    · have hplain : plainWordRow metadata = bytePlanes := by
        funext row
        simp [plainWordRow, hsample, h3]
      rw [h3, hplain]
      apply Fallible.returns_orElse_bind (checkedMul_of_lt (by decide))
      have hmap := mapChunksExact_words tile (encodeF32Row 3)
        (by simp [encodeF32Row]) fun row => accumulateBytes_differenceBytes 0 (bytePlanes row)
      exact Fallible.returns_lift hmap rfl

/-- The live samples of a row of `f32` planes or words. -/
theorem clipF32Row_plainWordRow (hsample : metadata.sampleType = .f32) {row : List UInt32}
    (hrow : row.length = 512) {liveWidth : ℕ} (hlive : liveWidth ≤ 512) :
    clipF32Row metadata.predictor 2048 liveWidth (plainWordRow metadata row) =
      .ok ((row.take liveWidth).map F32.ofBits) := by
  unfold clipF32Row plainWordRow
  by_cases h3 : metadata.predictor = 3
  · rw [if_pos h3, if_pos ⟨hsample, h3⟩]
    have hcolumn : ∀ column ∈ List.range liveWidth,
        planeSample (bytePlanes row) (2048 / 4) column =
          .ok (F32.ofBits ((row[column]?).getD 0)) := by
      intro column hmem
      rw [List.mem_range] at hmem
      have hlt : column < row.length := by omega
      have hsample := planeSample_bytePlanes hlt
      rw [hrow] at hsample
      rw [List.getElem?_eq_getElem hlt]
      exact hsample
    rw [mapM_eq_ok_map hcolumn]
    congr 1
    apply List.ext_getElem?
    intro i
    rw [List.getElem?_map, List.getElem?_map, List.getElem?_take]
    by_cases hi : i < liveWidth
    · have hlt : i < row.length := by omega
      rw [List.getElem?_range hi, if_pos hi, Option.map_some, List.getElem?_eq_getElem hlt]
      rfl
    · rw [if_neg hi, List.getElem?_eq_none (by simpa using hi)]
      rfl
  · rw [if_neg h3, if_neg fun h => h3 h.2, leWords_wordBytes]

theorem clipTile_bytes (h : metadata.Merit) (htype : metadata.sampleType.isByte = true)
    (tile : PaddedRows UInt8) {liveWidth : ℕ} (hlive : liveWidth ≤ 512) (liveHeight : ℕ) :
    (clipTile metadata tile.rows.flatten liveWidth liveHeight path).Returns
      fun data => data = liveTile metadata liveWidth liveHeight (.bytes tile) := by
  have hclip : clipRows 512 liveHeight (fun row => readSlice row 0 liveWidth) tile.rows.flatten =
      .ok (tile.live liveWidth liveHeight) := by
    have hrow : ∀ row ∈ tile.rows, readSlice (id row) 0 liveWidth = .ok (row.take liveWidth) := by
      intro row hrow
      have hlength := tile.length_row row hrow
      rw [id, readSlice_eq_ok (by omega), List.drop_zero]
    have hmap := clipRows_map (by decide) tile.length_row (fun row => readSlice row 0 liveWidth) hrow
      liveHeight
    rwa [List.map_id'] at hmap
  unfold clipTile
  rw [h.tileWidth]
  cases hsample : metadata.sampleType with
  | u8 => exact Fallible.returns_lift_bind hclip (Fallible.returns_pure rfl)
  | i8 => exact Fallible.returns_lift_bind hclip (Fallible.returns_pure rfl)
  | f32 => simp [hsample, CogSampleType.isByte] at htype
  | i32 => simp [hsample, CogSampleType.isByte] at htype

theorem PaddedRows.live_map {α β : Type} (tile : PaddedRows α) (f : α → β) (liveWidth liveHeight : ℕ) :
    ((tile.rows.take liveHeight).map fun row => (row.take liveWidth).map f).flatten =
      (tile.live liveWidth liveHeight).map f := by
  rw [PaddedRows.live, List.map_flatten, List.map_map]
  rfl

theorem clipTile_words (h : metadata.Merit) (htype : metadata.sampleType.isByte = false)
    (tile : PaddedRows UInt32) {liveWidth : ℕ} (hlive : liveWidth ≤ 512) (liveHeight : ℕ) :
    (clipTile metadata (tile.rows.map (plainWordRow metadata)).flatten liveWidth liveHeight
      path).Returns fun data => data = liveTile metadata liveWidth liveHeight (.words tile) := by
  have hlength : ∀ row ∈ tile.rows, (plainWordRow metadata row).length = 2048 := by
    intro row hrow
    rw [length_plainWordRow, tile.length_row row hrow]
  unfold clipTile
  rw [h.tileWidth]
  cases hsample : metadata.sampleType with
  | u8 => simp [hsample, CogSampleType.isByte] at htype
  | i8 => simp [hsample, CogSampleType.isByte] at htype
  | f32 =>
    have hclip := clipRows_map (by decide) hlength (clipF32Row metadata.predictor 2048 liveWidth)
      (fun row hrow => clipF32Row_plainWordRow hsample (tile.length_row row hrow) hlive) liveHeight
    rw [tile.live_map] at hclip
    apply Fallible.returns_orElse_bind (checkedMul_of_lt (by decide))
    apply Fallible.returns_lift_bind hclip
    apply Fallible.returns_pure
    rw [liveTile, hsample]
  | i32 =>
    have hrow : ∀ row ∈ tile.rows, (Except.ok (((leWords (plainWordRow metadata row)).take
        liveWidth).map i32OfWord) : Exec (List ℤ)) = .ok ((row.take liveWidth).map i32OfWord) := by
      intro row _
      rw [plainWordRow, if_neg (by simp [hsample]), leWords_wordBytes]
    have hclip := clipRows_map (by decide) hlength
      (fun row => .ok (((leWords row).take liveWidth).map i32OfWord)) hrow liveHeight
    rw [tile.live_map] at hclip
    apply Fallible.returns_orElse_bind (checkedMul_of_lt (by decide))
    apply Fallible.returns_lift_bind hclip
    apply Fallible.returns_pure
    rw [liveTile, hsample]

theorem tileOn_of_lt (h : metadata.Merit) {tileIndex : ℕ}
    (hindex : tileIndex < metadata.tilesAcross * metadata.tilesDown) :
    metadata.TileOn (tileIndex % metadata.tilesAcross) (tileIndex / metadata.tilesAcross) ∧
      metadata.tileIndex (tileIndex % metadata.tilesAcross) (tileIndex / metadata.tilesAcross) =
        tileIndex := by
  have hacross : 0 < metadata.tilesAcross := Nat.pos_of_ne_zero fun h0 => by simp [h0] at hindex
  refine ⟨⟨?_, ?_⟩, ?_⟩
  · exact (lt_divCeil h.tileWidth_pos).1 (Nat.mod_lt _ hacross)
  · exact (lt_divCeil h.tileHeight_pos).1 (Nat.div_lt_of_lt_mul hindex)
  · exact Nat.div_add_mod' tileIndex metadata.tilesAcross

end Tile

/-- **Decoding inverts encoding.** For every raster size and tile of it, and whatever the samples of the
padded tile, decoding the encoded and compressed tile gives its live part. What inflates to any other
length than the padded tile is an error. -/
theorem decodeOwnedChunk_encodeTile {metadata : CogMetadata} (h : metadata.Merit) {tileIndex : ℕ}
    (hindex : tileIndex < metadata.tilesAcross * metadata.tilesDown)
    (inflate : List UInt8 → ℕ → Except String (List UInt8)) (deflate : List UInt8 → List UInt8)
    (hinflate : ∀ bytes limit, inflate (deflate bytes) limit = .ok (bytes.take limit))
    (path : String) :
    (∀ samples : TileSamples, samples.Fits metadata.sampleType →
      (decodeOwnedChunk inflate (deflate (encodeTile metadata samples)) metadata tileIndex path).run =
        .ok (.ok (liveTile metadata (metadata.liveWidth (tileIndex % metadata.tilesAcross))
          (metadata.liveHeight (tileIndex / metadata.tilesAcross)) samples))) ∧
    (∀ bytes, bytes.length ≠ metadata.paddedBytes →
      ∃ error, (decodeOwnedChunk inflate (deflate bytes) metadata tileIndex path).run =
        .ok (.error error)) ∧
    ∀ compressed inflated, inflate compressed (metadata.paddedBytes + 1) = .ok inflated →
      inflated.length ≠ metadata.paddedBytes →
      ∃ error, (decodeOwnedChunk inflate compressed metadata tileIndex path).run =
        .ok (.error error) := by
  obtain ⟨hon, htile⟩ := tileOn_of_lt h hindex
  refine ⟨?_, ?_, ?_⟩
  · intro samples hfits
    have hlength := TileSamples.length_encodeTile hfits
    have hinflated : inflate (deflate (encodeTile metadata samples)) (metadata.paddedBytes + 1) =
        .ok (encodeTile metadata samples) := by
      rw [hinflate, List.take_of_length_le (by omega)]
    have hw : metadata.liveWidth (tileIndex % metadata.tilesAcross) ≤ 512 :=
      (min_le_left _ _).trans h.tileWidth.le
    have hreturns : (decodeOwnedChunk inflate (deflate (encodeTile metadata samples)) metadata
        (metadata.tileIndex (tileIndex % metadata.tilesAcross) (tileIndex / metadata.tilesAcross))
        path).Returns fun data => data = liveTile metadata
          (metadata.liveWidth (tileIndex % metadata.tilesAcross))
          (metadata.liveHeight (tileIndex / metadata.tilesAcross)) samples := by
      cases samples with
      | bytes tile =>
        apply decodeOwnedChunk_returns_of h hon hinflated hlength (undoPredictor_bytes h hfits tile)
        rintro _ rfl
        exact clipTile_bytes h hfits tile hw _
      | words tile =>
        apply decodeOwnedChunk_returns_of h hon hinflated hlength (undoPredictor_words h hfits tile)
        rintro _ rfl
        exact clipTile_words h hfits tile hw _
    rw [htile] at hreturns
    obtain ⟨data, hrun, rfl⟩ := hreturns
    exact hrun
  · intro bytes hlength
    apply decodeOwnedChunk_error h
    intro inflated hinflated
    rw [hinflate] at hinflated
    cases hinflated
    rw [List.length_take]
    omega
  · intro compressed inflated hinflated hlength
    apply decodeOwnedChunk_error h
    intro inflated' hinflated'
    rw [hinflated] at hinflated'
    cases hinflated'
    exact hlength

/-- A tile whose samples grow along its rows and columns, and wrap. -/
def rampTile : PaddedRows UInt8 where
  rows := (List.range 512).map fun row => (List.range 512).map fun column => UInt8.ofNat (row + column)
  length_rows := by simp
  length_row := by
    intro row hrow
    obtain ⟨i, -, rfl⟩ := List.mem_map.1 hrow
    simp

/-- The last tile of four on a raster of bytes with predictor 2, in a stream of stored blocks. -/
theorem decodeOwnedChunk_encodeTile_ramp :
    fourTileMetadata.predictor = 2 ∧
    (decodeOwnedChunk Zlib.inflate (Zlib.store (encodeTile fourTileMetadata (.bytes rampTile)))
      fourTileMetadata 3 "d8.tif").run =
      .ok (.ok (liveTile fourTileMetadata (fourTileMetadata.liveWidth 1)
        (fourTileMetadata.liveHeight 1) (.bytes rampTile))) := by
  have hmerit : fourTileMetadata.Merit := ⟨rfl, rfl, rfl⟩
  have hindex : 3 < fourTileMetadata.tilesAcross * fourTileMetadata.tilesDown := by decide
  have hdecode := decodeOwnedChunk_encodeTile hmerit hindex Zlib.inflate Zlib.store Zlib.inflate_store
    "d8.tif"
  have hcolumn : 3 % fourTileMetadata.tilesAcross = 1 := by decide
  have hrow : 3 / fourTileMetadata.tilesAcross = 1 := by decide
  have htile := hdecode.1 (.bytes rampTile) rfl
  rw [hcolumn, hrow] at htile
  exact ⟨rfl, htile⟩

end Pourpoint
