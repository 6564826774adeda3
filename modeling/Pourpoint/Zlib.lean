import Pourpoint.Machine

/-!
# Zlib streams of stored blocks

A zlib stream whose blocks store their bytes uncompressed, at most 65535 in each, with the checksum of the
whole at its end. Reading such a stream gives back what was written, up to the limit of the reader
(`inflate_store`).
-/

namespace Pourpoint.Zlib

/-- Adler-32. -/
def checksum (bytes : List UInt8) : ℕ :=
  let sums := bytes.foldl (fun (sums : ℕ × ℕ) byte =>
    let low := (sums.1 + byte.toNat) % 65521
    (low, (sums.2 + low) % 65521)) (1, 0)
  sums.2 * 65536 + sums.1

/-- The most that a stored block holds. -/
def maxBlock : ℕ := 65535

/-! ## Writing -/

/-- A block after its header: its length and the complement of that, and its bytes. -/
def storedBlock (bytes : List UInt8) : List UInt8 :=
  toLeBytes 2 bytes.length ++ (toLeBytes 2 (maxBlock - bytes.length) ++ bytes)

/-- The last block has the header one. -/
def storedBlocks (bytes : List UInt8) : List UInt8 :=
  if bytes.length ≤ maxBlock then 1 :: storedBlock bytes
  else 0 :: (storedBlock (bytes.take maxBlock) ++ storedBlocks (bytes.drop maxBlock))
termination_by bytes.length
decreasing_by
  rw [List.length_drop]
  unfold maxBlock at *
  omega

/-- The two header bytes, the blocks, and the checksum with the highest byte first. -/
def store (bytes : List UInt8) : List UInt8 :=
  0x78 :: 0x01 :: (storedBlocks bytes ++ (toLeBytes 4 (checksum bytes)).reverse)

/-! ## Reading -/

/-- The bytes of a stored block, and what is after it. -/
def readBlock (stream : List UInt8) : Option (List UInt8 × List UInt8) := do
  let (length, stream) ← readLe 2 stream
  let (complement, stream) ← readLe 2 stream
  if length + complement = maxBlock ∧ length ≤ stream.length then
    some (stream.take length, stream.drop length)
  else none

/-- The blocks up to the last one. The fuel bounds their number. -/
def readBlocks : ℕ → List UInt8 → Option (List UInt8 × List UInt8)
  | fuel + 1, header :: stream => do
    let (bytes, stream) ← readBlock stream
    if header = 1 then some (bytes, stream)
    else if header = 0 then
      let (more, stream) ← readBlocks fuel stream
      some (bytes ++ more, stream)
    else none
  | _, _ => none

/-- The first bytes of a stream, up to the limit. Blocks of other types are not read. -/
def inflate (stream : List UInt8) (limit : ℕ) : Except String (List UInt8) :=
  match stream with
  | 0x78 :: 0x01 :: blocks =>
    match readBlocks blocks.length blocks with
    | some (bytes, trailer) =>
      if trailer.take 4 = (toLeBytes 4 (checksum bytes)).reverse then .ok (bytes.take limit)
      else .error "incorrect data check"
    | none => .error "invalid block type"
  | _ => .error "incorrect header check"

/-! ## Round trip -/

theorem readBlock_storedBlock {bytes : List UInt8} (h : bytes.length ≤ maxBlock) (rest : List UInt8) :
    readBlock (storedBlock bytes ++ rest) = some (bytes, rest) := by
  have hfits : ∀ n ≤ maxBlock, n < 256 ^ 2 := by
    intro n hn
    unfold maxBlock at hn
    omega
  rw [storedBlock, readBlock, List.append_assoc, List.append_assoc, readLe_toLeBytes (hfits _ h)]
  simp only [Option.bind_eq_bind, Option.bind_some,
    readLe_toLeBytes (hfits _ (Nat.sub_le maxBlock bytes.length))]
  rw [if_pos ⟨by omega, by simp⟩, List.take_left, List.drop_left]

/-- The blocks are read back in front of any bytes. -/
theorem readBlocks_storedBlocks {fuel : ℕ} {bytes : List UInt8} (hfuel : bytes.length < fuel)
    (rest : List UInt8) : readBlocks fuel (storedBlocks bytes ++ rest) = some (bytes, rest) := by
  induction fuel generalizing bytes with
  | zero => omega
  | succ fuel ih =>
    rw [storedBlocks]
    split_ifs with hlast
    · rw [List.cons_append, readBlocks, readBlock_storedBlock hlast]
      rfl
    · have hrest : (bytes.drop maxBlock).length < fuel := by
        rw [List.length_drop]
        unfold maxBlock at *
        omega
      rw [List.cons_append, List.append_assoc, readBlocks,
        readBlock_storedBlock (List.length_take_le _ _)]
      simp only [Option.bind_eq_bind, Option.bind_some, ih hrest]
      rw [if_neg (by decide), if_pos trivial, List.take_append_drop]

theorem length_storedBlock (bytes : List UInt8) : (storedBlock bytes).length = bytes.length + 4 := by
  simp only [storedBlock, List.length_append, length_toLeBytes]
  omega

theorem length_storedBlocks (bytes : List UInt8) :
    (storedBlocks bytes).length = bytes.length + 5 * ((bytes.length - 1) / maxBlock + 1) := by
  fun_induction storedBlocks bytes with
  | case1 bytes h =>
    rw [Nat.div_eq_of_lt (by unfold maxBlock at *; omega), List.length_cons, length_storedBlock]
  | case2 bytes h ih =>
    rw [List.length_cons, List.length_append, ih, length_storedBlock, List.length_take, List.length_drop]
    unfold maxBlock at *
    omega

theorem length_store (bytes : List UInt8) :
    (store bytes).length = bytes.length + 5 * ((bytes.length - 1) / maxBlock + 1) + 6 := by
  rw [store, List.length_cons, List.length_cons, List.length_append, length_storedBlocks,
    List.length_reverse, length_toLeBytes]

/-- **Stored bytes are read back**, as many of them as the limit allows. -/
theorem inflate_store (bytes : List UInt8) (limit : ℕ) :
    inflate (store bytes) limit = .ok (bytes.take limit) := by
  have hfuel : bytes.length <
      (storedBlocks bytes ++ (toLeBytes 4 (checksum bytes)).reverse).length := by
    rw [List.length_append, length_storedBlocks]
    unfold maxBlock
    omega
  have htake : (toLeBytes 4 (checksum bytes)).reverse.take 4 = (toLeBytes 4 (checksum bytes)).reverse :=
    List.take_of_length_le (by rw [List.length_reverse, length_toLeBytes])
  rw [store, inflate, readBlocks_storedBlocks hfuel]
  exact if_pos htake

end Pourpoint.Zlib
