import Pourpoint.Cog.Header
import Pourpoint.Library.Contiguous
import Pourpoint.Manifest
import Pourpoint.ParseNumber

/-!
# Downloads in ranges

`read_remote_artifact` requests an object above 4 MiB in up to sixteen ranges, and appends the answers
in order. The ranges are one quotient long, the last is clipped; none is empty, because the square of
the number of ranges is below the size (`remoteArtifactRanges_partition`).
-/

namespace Pourpoint

open Library

/-! ## Definitions -/

/-- Four mebibytes. -/
def rangeGetChunkTargetBytes : ℕ := 4 * 1024 * 1024

/-- `pourpoint_get_ranges_concurrency`, for a value of the environment variable. -/
def pourpointGetRangesConcurrency (value : Option String) : ℕ :=
  min (max ((value.bind (parseUnsigned 64)).getD 8) 1) 16

theorem pourpointGetRangesConcurrency_bounds (value : Option String) :
    1 ≤ pourpointGetRangesConcurrency value ∧ pourpointGetRangesConcurrency value ≤ 16 := by
  unfold pourpointGetRangesConcurrency
  omega

/-- `remote_artifact_ranges`. -/
def remoteArtifactRanges (size concurrency : ℕ) : Exec (List ByteRange) :=
  let chunkCount := divCeil size rangeGetChunkTargetBytes
  let rangeCount := max (min chunkCount concurrency) 1
  let rangeSize := divCeil size rangeCount
  (List.range rangeCount).mapM fun index => do
    let start ← mulU64 index rangeSize
    let next ← addU64 index 1
    let stop ← mulU64 next rangeSize
    .ok ⟨start, min stop size⟩

/-- The answers of an object store at one path. -/
structure ObjectAnswers where
  head : Except String ℕ
  get : Except String (List UInt8)
  getRange : ByteRange → Except String (List UInt8)

/-- `read_remote_artifact`. All ranges are requested before the first answer is looked at; every size
fits a `usize` of 64 bits. -/
def readRemoteArtifact (store : ObjectAnswers) (artifact path : String) (concurrency : ℕ) :
    Fallible SessionError (List UInt8) := do
  let readError := fun _ : String => SessionError.remoteArtifactRead artifact path
  let size ← Fallible.mapError readError store.head
  if rangeGetChunkTargetBytes < size then do
    let ranges ← liftM (remoteArtifactRanges size concurrency)
    let chunks := ranges.map store.getRange
    let bytes ← Fallible.mapError readError (chunks.mapM id)
    pure bytes.flatten
  else Fallible.mapError readError store.get

/-- The store answers from these bytes. -/
structure ObjectAnswers.Holds (store : ObjectAnswers) (content : List UInt8) : Prop where
  head : store.head = .ok content.length
  getRange : ∀ range, range.Inside content.length → store.getRange range = .ok (byteSlice content range)

/-- The store that holds these bytes. -/
def ObjectAnswers.ofBytes (content : List UInt8) : ObjectAnswers where
  head := .ok content.length
  get := .ok content
  getRange range := .ok (byteSlice content range)

theorem ObjectAnswers.holds_ofBytes (content : List UInt8) : (ofBytes content).Holds content :=
  ⟨rfl, fun _ _ => rfl⟩

/-! ## The ranges -/

theorem mul_divCeil_le {size count : ℕ} (hcount : 0 < count) :
    count * divCeil size count < size + count := by
  have hlast : divCeil size count ≤ size / count + 1 := by
    unfold divCeil
    split_ifs <;> omega
  have hmod := Nat.div_add_mod size count
  have hlt := Nat.mod_lt size hcount
  rcases Nat.eq_or_lt_of_le hlast with heq | hlt'
  · have hpos : size % count ≠ 0 := by
      intro hzero
      unfold divCeil at heq
      rw [if_pos hzero] at heq
      omega
    rw [heq, Nat.mul_add, Nat.mul_one]
    omega
  · have hle : divCeil size count ≤ size / count := by omega
    have := Nat.mul_le_mul_left count hle
    omega

theorem le_mul_divCeil {size count : ℕ} (hcount : 0 < count) : size ≤ count * divCeil size count := by
  by_contra hlt
  rw [not_le, Nat.mul_comm] at hlt
  exact absurd ((lt_divCeil hcount).2 hlt) (lt_irrefl _)

theorem mul_divCeil_lt {size count index : ℕ} (hcount : 0 < count) (hsquare : count * count < size)
    (hindex : index < count) : index * divCeil size count < size := by
  have hrange := @mul_divCeil_le size _ hcount
  have hstep : index * divCeil size count + divCeil size count ≤ count * divCeil size count := by
    rw [← Nat.succ_mul]
    exact Nat.mul_le_mul_right _ hindex
  have hlong : count < divCeil size count := (lt_divCeil hcount).2 hsquare
  omega

section

variable {size concurrency : ℕ}

/-- The number of ranges. -/
def rangeCount (size concurrency : ℕ) : ℕ :=
  max (min (divCeil size rangeGetChunkTargetBytes) concurrency) 1

/-- Where the range with this index starts, and the end of the object after the last. -/
def rangeCut (size concurrency index : ℕ) : ℕ :=
  min (index * divCeil size (rangeCount size concurrency)) size

theorem rangeCount_pos : 0 < rangeCount size concurrency :=
  lt_of_lt_of_le Nat.one_pos (le_max_right _ _)

theorem rangeCount_le (hlow : 1 ≤ concurrency) : rangeCount size concurrency ≤ concurrency :=
  max_le (min_le_right _ _) hlow

theorem rangeCount_square_lt (hlarge : rangeGetChunkTargetBytes < size) (hlow : 1 ≤ concurrency)
    (hhigh : concurrency ≤ 16) :
    rangeCount size concurrency * rangeCount size concurrency < size := by
  have hcount := (@rangeCount_le size concurrency hlow).trans hhigh
  have hsquare := Nat.mul_le_mul hcount hcount
  rw [rangeGetChunkTargetBytes] at hlarge
  omega

/-- The ranges lie between the cuts. -/
theorem remoteArtifactRanges_eq_ok (hlarge : rangeGetChunkTargetBytes < size) (hsize : size < 2 ^ 63)
    (hlow : 1 ≤ concurrency) (hhigh : concurrency ≤ 16) :
    remoteArtifactRanges size concurrency = .ok ((List.range (rangeCount size concurrency)).map
      fun index => ⟨rangeCut size concurrency index, rangeCut size concurrency (index + 1)⟩) := by
  have hpos := @rangeCount_pos size concurrency
  have hcount := (@rangeCount_le size concurrency hlow).trans hhigh
  have hsquare := rangeCount_square_lt hlarge hlow hhigh
  refine mapM_eq_ok_map ?_
  intro index hindex
  rw [List.mem_range] at hindex
  have hstart := mul_divCeil_lt hpos hsquare hindex
  have hstop : (index + 1) * divCeil size (rangeCount size concurrency) < size + 16 := by
    have hnext : (index + 1) * divCeil size (rangeCount size concurrency) ≤
        rangeCount size concurrency * divCeil size (rangeCount size concurrency) :=
      Nat.mul_le_mul_right _ hindex
    have hall := @mul_divCeil_le size _ hpos
    omega
  change (do
    let start ← mulU64 index (divCeil size (rangeCount size concurrency))
    let next ← addU64 index 1
    let stop ← mulU64 next (divCeil size (rangeCount size concurrency))
    .ok (⟨start, min stop size⟩ : ByteRange)) = _
  rw [mulU64_eq_ok (by omega), ok_bind, addU64_eq_ok (by omega), ok_bind, mulU64_eq_ok (by omega),
    ok_bind]
  congr 2
  exact (min_eq_left hstart.le).symm

theorem contiguous_rangeCut (hlarge : rangeGetChunkTargetBytes < size) (hlow : 1 ≤ concurrency)
    (hhigh : concurrency ≤ 16) :
    Contiguous 0 ((List.range (rangeCount size concurrency)).map fun index =>
      (rangeCut size concurrency index, rangeCut size concurrency (index + 1))) size := by
  have hpos := @rangeCount_pos size concurrency
  have hsquare := rangeCount_square_lt hlarge hlow hhigh
  have hrising : ∀ index < rangeCount size concurrency,
      rangeCut size concurrency index < rangeCut size concurrency (index + 1) := by
    intro index hindex
    have hstart := mul_divCeil_lt hpos hsquare hindex
    have hlong : 0 < divCeil size (rangeCount size concurrency) := (lt_divCeil hpos).2 (by omega)
    have hstep := Nat.add_one_mul index (divCeil size (rangeCount size concurrency))
    unfold rangeCut
    rw [Nat.min_eq_left hstart.le]
    exact lt_min (by omega) hstart
  have hcuts := contiguous_cuts (rangeCut size concurrency) _ hrising
  have hfirst : rangeCut size concurrency 0 = 0 := by simp [rangeCut]
  have hlast : rangeCut size concurrency (rangeCount size concurrency) = size :=
    min_eq_right (le_mul_divCeil hpos)
  rwa [hfirst, hlast] at hcuts

/-- **Chunked downloads.** For every size above the chunk target and every number of parallel requests,
the ranges are nonempty and contiguous from zero to the size, nothing overflows, and the bytes that are
put together are those of the object. -/
theorem remoteArtifactRanges_partition (hlarge : rangeGetChunkTargetBytes < size) (hsize : size < 2 ^ 63)
    (hlow : 1 ≤ concurrency) (hhigh : concurrency ≤ 16) :
    ∃ ranges, remoteArtifactRanges size concurrency = .ok ranges ∧
      Contiguous 0 (ranges.map fun range => (range.start, range.stop)) size ∧
      ∀ (store : ObjectAnswers) (content : List UInt8) (artifact path : String),
        content.length = size → store.Holds content →
          (readRemoteArtifact store artifact path concurrency).run = .ok (.ok content) := by
  have hranges := remoteArtifactRanges_eq_ok hlarge hsize hlow hhigh
  have hcontiguous := contiguous_rangeCut hlarge hlow hhigh
  refine ⟨_, hranges, ?_, ?_⟩
  · rw [List.map_map]
    exact hcontiguous
  · intro store content artifact path hcontent hstore
    subst hcontent
    have hanswers : ((List.range (rangeCount content.length concurrency)).map fun index =>
        (⟨rangeCut content.length concurrency index, rangeCut content.length concurrency (index + 1)⟩ :
          ByteRange)).mapM store.getRange =
        .ok (((List.range (rangeCount content.length concurrency)).map fun index =>
          (rangeCut content.length concurrency index,
            rangeCut content.length concurrency (index + 1))).map (slice content)) := by
      rw [List.mapM_map, List.map_map]
      refine mapM_eq_ok_map ?_
      intro index hindex
      obtain ⟨-, hlt, hstop⟩ := hcontiguous.bounds (List.mem_map_of_mem hindex)
      exact hstore.getRange _ ⟨hlt.le, hstop⟩
    have hbytes := hcontiguous.flatMap_slice content le_rfl
    rw [slice_all] at hbytes
    rw [readRemoteArtifact, hstore.head]
    dsimp only [Fallible.mapError]
    rw [pure_bind, if_pos hlarge, hranges, show ∀ ranges : List ByteRange, (liftM (.ok ranges :
      Exec _) : Fallible SessionError _) = pure ranges from fun _ => rfl, pure_bind, List.mapM_map,
      Function.id_comp, hanswers]
    dsimp only
    rw [pure_bind, ← List.flatMap_def, hbytes]
    rfl

end

/-- One byte above the chunk target, without a value in the environment. -/
theorem remoteArtifactRanges_partition_two :
    (∃ ranges, remoteArtifactRanges 4194305 (pourpointGetRangesConcurrency none) = .ok ranges ∧
      Contiguous 0 (ranges.map fun range => (range.start, range.stop)) 4194305) ∧
    (readRemoteArtifact (.ofBytes (List.replicate 4194305 7)) "graph.parquet" "grit/graph.parquet"
      (pourpointGetRangesConcurrency none)).run = .ok (.ok (List.replicate 4194305 7)) := by
  obtain ⟨hlow, hhigh⟩ := pourpointGetRangesConcurrency_bounds none
  obtain ⟨ranges, hranges, hcontiguous, hread⟩ :=
    @remoteArtifactRanges_partition 4194305 _ (by decide) (by decide) hlow hhigh
  exact ⟨⟨ranges, hranges, hcontiguous⟩,
    hread _ _ _ _ List.length_replicate (ObjectAnswers.holds_ofBytes _)⟩

example : remoteArtifactRanges 4194305 8 = .ok [⟨0, 2097153⟩, ⟨2097153, 4194305⟩] := by
  decide +kernel

end Pourpoint
