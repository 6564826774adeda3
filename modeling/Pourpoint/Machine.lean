import Pourpoint.Exec

/-!
# Machine integers, slices, and code that returns errors

Unsigned machine integers are natural numbers; the operators abort where the value does not fit, the
`checked` ones give `none`. Slices are lists; a range that is not within the slice aborts.

`Fallible ε` is code that returns an error of type `ε` or aborts. `Fallible.Safe x P` says that `x`
does not abort and that `P` holds of the value it returns, if it returns one.
-/

namespace Pourpoint

/-! ## Unsigned integers -/

def checkedAdd (bits a b : ℕ) : Option ℕ := if a + b < 2 ^ bits then some (a + b) else none

def checkedSub (a b : ℕ) : Option ℕ := if b ≤ a then some (a - b) else none

def checkedMul (bits a b : ℕ) : Option ℕ := if a * b < 2 ^ bits then some (a * b) else none

/-- The value of a checked operation, or an overflow. -/
def orOverflow : Option ℕ → Exec ℕ
  | some n => .ok n
  | none => .error .overflow

/-- `+` on `u32`. -/
def addU32 (a b : ℕ) : Exec ℕ := orOverflow (checkedAdd 32 a b)

/-- `-` on an unsigned type. -/
def subUnsigned (a b : ℕ) : Exec ℕ := orOverflow (checkedSub a b)

/-- `*` on `u32`. -/
def mulU32 (a b : ℕ) : Exec ℕ := orOverflow (checkedMul 32 a b)

/-- `+` on `u64` and `usize`. -/
def addU64 (a b : ℕ) : Exec ℕ := orOverflow (checkedAdd 64 a b)

/-- `*` on `u64` and `usize`. -/
def mulU64 (a b : ℕ) : Exec ℕ := orOverflow (checkedMul 64 a b)

/-- `/` on an unsigned type. -/
def divUnsigned (a b : ℕ) : Exec ℕ := if b = 0 then .error .divisionByZero else .ok (a / b)

/-- `%` on an unsigned type. -/
def remUnsigned (a b : ℕ) : Exec ℕ := if b = 0 then .error .divisionByZero else .ok (a % b)

theorem checkedAdd_eq_some {bits a b c : ℕ} (h : checkedAdd bits a b = some c) :
    c = a + b ∧ a + b < 2 ^ bits := by
  unfold checkedAdd at h
  split_ifs at h with hlt
  exact ⟨(Option.some.inj h).symm, hlt⟩

theorem checkedMul_eq_some {bits a b c : ℕ} (h : checkedMul bits a b = some c) :
    c = a * b ∧ a * b < 2 ^ bits := by
  unfold checkedMul at h
  split_ifs at h with hlt
  exact ⟨(Option.some.inj h).symm, hlt⟩

theorem checkedMul_of_lt {bits a b : ℕ} (h : a * b < 2 ^ bits) :
    checkedMul bits a b = some (a * b) := if_pos h

theorem checkedSub_eq_some {a b c : ℕ} (h : checkedSub a b = some c) : c = a - b ∧ b ≤ a := by
  unfold checkedSub at h
  split_ifs at h with hle
  exact ⟨(Option.some.inj h).symm, hle⟩

theorem orOverflow_checkedAdd {bits a b : ℕ} (h : a + b < 2 ^ bits) :
    orOverflow (checkedAdd bits a b) = .ok (a + b) := by
  rw [checkedAdd, if_pos h]
  rfl

theorem orOverflow_checkedMul {bits a b : ℕ} (h : a * b < 2 ^ bits) :
    orOverflow (checkedMul bits a b) = .ok (a * b) := by
  rw [checkedMul_of_lt h]
  rfl

theorem addU32_eq_ok {a b : ℕ} (h : a + b < 2 ^ 32) : addU32 a b = .ok (a + b) :=
  orOverflow_checkedAdd h

theorem subUnsigned_eq_ok {a b : ℕ} (h : b ≤ a) : subUnsigned a b = .ok (a - b) := by
  simp only [subUnsigned, checkedSub, if_pos h, orOverflow]

theorem mulU32_eq_ok {a b : ℕ} (h : a * b < 2 ^ 32) : mulU32 a b = .ok (a * b) :=
  orOverflow_checkedMul h

theorem addU64_eq_ok {a b : ℕ} (h : a + b < 2 ^ 64) : addU64 a b = .ok (a + b) :=
  orOverflow_checkedAdd h

theorem mulU64_eq_ok {a b : ℕ} (h : a * b < 2 ^ 64) : mulU64 a b = .ok (a * b) :=
  orOverflow_checkedMul h

theorem divUnsigned_eq_ok {a b : ℕ} (h : 0 < b) : divUnsigned a b = .ok (a / b) :=
  if_neg (Nat.pos_iff_ne_zero.1 h)

theorem remUnsigned_eq_ok {a b : ℕ} (h : 0 < b) : remUnsigned a b = .ok (a % b) :=
  if_neg (Nat.pos_iff_ne_zero.1 h)

theorem addU64_of_ok {a b c : ℕ} (h : addU64 a b = .ok c) : c = a + b := by
  unfold addU64 checkedAdd at h
  split_ifs at h
  · cases h
    rfl
  · cases h

theorem divUnsigned_of_ok {a b c : ℕ} (h : divUnsigned a b = .ok c) : c = a / b := by
  unfold divUnsigned at h
  split_ifs at h
  cases h
  rfl

/-- `div_ceil`, for a nonzero divisor. -/
def divCeil (a b : ℕ) : ℕ := a / b + if a % b = 0 then 0 else 1

theorem lt_divCeil {a b c : ℕ} (hb : 0 < b) : c < divCeil a b ↔ c * b < a := by
  have hdiv := Nat.div_add_mod a b
  have hmod := Nat.mod_lt a hb
  unfold divCeil
  split_ifs with h0
  · rw [Nat.add_zero, Nat.lt_div_iff_mul_lt hb]
    have : c * b < a - (b - 1) ↔ c * b < a := by
      constructor
      · intro h
        omega
      · intro h
        obtain ⟨k, hk⟩ : b ∣ a := Nat.dvd_of_mod_eq_zero h0
        rw [hk, Nat.mul_comm b k] at h ⊢
        have hck : c < k := Nat.lt_of_mul_lt_mul_right h
        have : (c + 1) * b ≤ k * b := Nat.mul_le_mul_right b hck
        have hcb : (c + 1) * b = c * b + b := by ring
        omega
    exact this
  · rw [Nat.lt_succ_iff, Nat.le_div_iff_mul_le hb]
    constructor
    · intro h
      rcases Nat.lt_or_eq_of_le h with h | h
      · exact h
      · exact absurd (by rw [← h]; exact Nat.mul_mod_left c b) h0
    · intro h
      exact h.le

/-! ## Little-endian numbers -/

/-- The number with these bytes, the lowest first. -/
def leValue : List UInt8 → ℕ
  | [] => 0
  | byte :: bytes => byte.toNat + 256 * leValue bytes

/-- `to_le_bytes` of an integer of this many bytes. -/
def toLeBytes : ℕ → ℕ → List UInt8
  | 0, _ => []
  | width + 1, n => UInt8.ofNat n :: toLeBytes width (n / 256)

theorem leValue_append (bytes bytes' : List UInt8) :
    leValue (bytes ++ bytes') = leValue bytes + 256 ^ bytes.length * leValue bytes' := by
  induction bytes with
  | nil => simp [leValue]
  | cons byte bytes ih =>
    rw [List.cons_append, leValue, ih, leValue, List.length_cons, pow_succ]
    ring

theorem leValue_lt (bytes : List UInt8) : leValue bytes < 256 ^ bytes.length := by
  induction bytes with
  | nil => simp [leValue]
  | cons byte bytes ih =>
    have hbyte := byte.toNat_lt
    rw [leValue, List.length_cons, pow_succ]
    omega

@[simp] theorem length_toLeBytes (width n : ℕ) : (toLeBytes width n).length = width := by
  induction width generalizing n with
  | zero => rfl
  | succ width ih => rw [toLeBytes, List.length_cons, ih]

theorem leValue_toLeBytes {width n : ℕ} (h : n < 256 ^ width) : leValue (toLeBytes width n) = n := by
  induction width generalizing n with
  | zero => simp [toLeBytes, leValue] at h ⊢; omega
  | succ width ih =>
    have hrest : n / 256 < 256 ^ width := by
      rw [pow_succ] at h
      exact Nat.div_lt_of_lt_mul (by linarith)
    rw [toLeBytes, leValue, ih hrest, UInt8.toNat_ofNat']
    exact Nat.mod_add_div n 256

/-- A number of this many bytes, and the bytes after it. -/
def readLe (width : ℕ) (bytes : List UInt8) : Option (ℕ × List UInt8) :=
  if width ≤ bytes.length then some (leValue (bytes.take width), bytes.drop width) else none

theorem readLe_toLeBytes {width n : ℕ} (h : n < 256 ^ width) (rest : List UInt8) :
    readLe width (toLeBytes width n ++ rest) = some (n, rest) := by
  have hlength : (toLeBytes width n).length = width := length_toLeBytes width n
  have htake : (toLeBytes width n ++ rest).take width = toLeBytes width n := List.take_left' hlength
  have hdrop : (toLeBytes width n ++ rest).drop width = rest := List.drop_left' hlength
  rw [readLe, htake, hdrop, leValue_toLeBytes h, if_pos (by simp)]

/-! ## Slices -/

section Slices

variable {α : Type}

/-- `slice[start..start + len]`. -/
def readSlice (slice : List α) (start len : ℕ) : Exec (List α) :=
  if start + len ≤ slice.length then .ok ((slice.drop start).take len) else .error .outOfBounds

/-- `slice[index]`. -/
def readIndex (slice : List α) (index : ℕ) : Exec α :=
  match slice[index]? with
  | some a => .ok a
  | none => .error .outOfBounds

/-- `slice[index] = value`. -/
def writeIndex (slice : List α) (index : ℕ) (value : α) : Exec (List α) :=
  if index < slice.length then .ok (slice.set index value) else .error .outOfBounds

/-- `chunks_exact(size)`: the chunks of full size. -/
def chunksExact (size : ℕ) (slice : List α) : Exec (List (List α)) :=
  if size = 0 then .error .zeroChunkSize
  else .ok ((List.range (slice.length / size)).map fun i => (slice.drop (i * size)).take size)

/-- The loop over `chunks_exact_mut(size)`: each chunk of full size is replaced. -/
def mapChunksExact (size : ℕ) (f : List α → List α) (slice : List α) : Exec (List α) := do
  let chunks ← chunksExact size slice
  return (chunks.map f).flatten ++ slice.drop (slice.length / size * size)

/-- The slice with the elements from `start` on overwritten. -/
def splice (slice : List α) (start : ℕ) (values : List α) : List α :=
  slice.take start ++ values ++ slice.drop (start + values.length)

/-- `slice[start..start + values.len()].copy_from_slice(values)`. -/
def writeSlice (slice : List α) (start : ℕ) (values : List α) : Exec (List α) :=
  if start + values.length ≤ slice.length then .ok (splice slice start values)
  else .error .outOfBounds

theorem readSlice_eq_ok {slice : List α} {start len : ℕ} (h : start + len ≤ slice.length) :
    readSlice slice start len = .ok ((slice.drop start).take len) := if_pos h

theorem readSlice_of_ok {slice values : List α} {start len : ℕ}
    (h : readSlice slice start len = .ok values) : values = (slice.drop start).take len := by
  unfold readSlice at h
  split_ifs at h
  cases h
  rfl

theorem readIndex_of_getElem? {slice : List α} {index : ℕ} {a : α} (h : slice[index]? = some a) :
    readIndex slice index = .ok a := by
  rw [readIndex, h]

theorem writeIndex_eq_ok {slice : List α} {index : ℕ} (h : index < slice.length) (value : α) :
    writeIndex slice index value = .ok (slice.set index value) := if_pos h

theorem readIndex_eq_ok (slice : List α) (index : ℕ) (h : index < slice.length) :
    ∃ a, readIndex slice index = .ok a := by
  refine ⟨slice[index], ?_⟩
  rw [readIndex, List.getElem?_eq_getElem h]

/-- The chunks of a slice of `count * size` elements. -/
theorem chunksExact_eq_ok {slice : List α} {size count : ℕ} (hsize : 0 < size)
    (h : slice.length = count * size) :
    ∃ chunks, chunksExact size slice = .ok chunks ∧ chunks.length = count ∧
      ∀ chunk ∈ chunks, chunk.length = size := by
  have hcount : slice.length / size = count := by rw [h, Nat.mul_div_cancel _ hsize]
  refine ⟨_, if_neg hsize.ne', ?_, ?_⟩
  · rw [List.length_map, List.length_range, hcount]
  · intro chunk hchunk
    obtain ⟨i, hi, rfl⟩ := List.mem_map.1 hchunk
    rw [List.mem_range, hcount] at hi
    have hend : (i + 1) * size ≤ count * size := Nat.mul_le_mul_right size hi
    have hstep : (i + 1) * size = i * size + size := by ring
    rw [List.length_take, List.length_drop]
    omega

theorem length_flatten_eq_mul {chunks : List (List α)} {size : ℕ}
    (h : ∀ chunk ∈ chunks, chunk.length = size) : chunks.flatten.length = chunks.length * size := by
  induction chunks with
  | nil => simp
  | cons chunk chunks ih =>
    rw [List.flatten_cons, List.length_append, List.length_cons, h chunk (by simp),
      ih fun other hother => h other (by simp [hother])]
    ring

theorem mapChunksExact_eq_ok {slice : List α} {size count : ℕ} {f : List α → List α}
    (hsize : 0 < size) (h : slice.length = count * size)
    (hf : ∀ chunk, chunk.length = size → (f chunk).length = size) :
    ∃ mapped, mapChunksExact size f slice = .ok mapped ∧ mapped.length = count * size := by
  obtain ⟨chunks, hchunks, hlen, hall⟩ := chunksExact_eq_ok hsize h
  refine ⟨(chunks.map f).flatten ++ slice.drop (slice.length / size * size), ?_, ?_⟩
  · rw [mapChunksExact, hchunks, ok_bind]
    rfl
  · have hdrop : slice.drop (slice.length / size * size) = [] := by
      rw [h, Nat.mul_div_cancel _ hsize, List.drop_eq_nil_iff]
      omega
    have hmapped : ∀ chunk ∈ chunks.map f, chunk.length = size := by
      intro chunk hchunk
      obtain ⟨row, hrow, rfl⟩ := List.mem_map.1 hchunk
      exact hf row (hall row hrow)
    rw [hdrop, List.append_nil, length_flatten_eq_mul hmapped, List.length_map, hlen]

theorem drop_take_flatten {rows : List (List α)} {size : ℕ}
    (h : ∀ row ∈ rows, row.length = size) {i : ℕ} (hi : i < rows.length) :
    (rows.flatten.drop (i * size)).take size = rows[i] := by
  induction rows generalizing i with
  | nil => cases hi
  | cons row rows ih =>
    have hrow := h row List.mem_cons_self
    cases i with
    | zero =>
      rw [Nat.zero_mul, List.drop_zero, List.flatten_cons, ← hrow, List.take_left]
      rfl
    | succ i =>
      have hdrop : (row ++ rows.flatten).drop ((i + 1) * size) = rows.flatten.drop (i * size) := by
        rw [Nat.succ_mul, Nat.add_comm, ← hrow, ← List.drop_drop, List.drop_left]
      rw [List.flatten_cons, hdrop]
      exact ih (fun row hmem => h row (List.mem_cons_of_mem _ hmem)) (Nat.lt_of_succ_lt_succ hi)

theorem chunksExact_flatten {rows : List (List α)} {size : ℕ} (hsize : 0 < size)
    (h : ∀ row ∈ rows, row.length = size) : chunksExact size rows.flatten = .ok rows := by
  have hcount : rows.flatten.length / size = rows.length := by
    rw [length_flatten_eq_mul h, Nat.mul_div_cancel _ hsize]
  rw [chunksExact, if_neg hsize.ne', hcount]
  congr 1
  apply List.ext_getElem
  · rw [List.length_map, List.length_range]
  · intro i _ hi
    rw [List.getElem_map, List.getElem_range]
    exact drop_take_flatten h hi

theorem mapChunksExact_flatten {rows : List (List α)} {size : ℕ} (hsize : 0 < size)
    (h : ∀ row ∈ rows, row.length = size) (f : List α → List α) :
    mapChunksExact size f rows.flatten = .ok (rows.map f).flatten := by
  have hdrop : rows.flatten.drop (rows.flatten.length / size * size) = [] := by
    rw [length_flatten_eq_mul h, Nat.mul_div_cancel _ hsize, ← length_flatten_eq_mul h,
      List.drop_length]
  rw [mapChunksExact, chunksExact_flatten hsize h, ok_bind, hdrop, List.append_nil]
  rfl

theorem writeSlice_eq_ok {slice values : List α} {start : ℕ}
    (h : start + values.length ≤ slice.length) :
    writeSlice slice start values = .ok (splice slice start values) := if_pos h

theorem length_splice {slice values : List α} {start : ℕ}
    (h : start + values.length ≤ slice.length) : (splice slice start values).length = slice.length := by
  simp only [splice, List.length_append, List.length_take, List.length_drop]
  omega

theorem getElem?_splice {slice values : List α} {start : ℕ}
    (h : start + values.length ≤ slice.length) (k : ℕ) :
    (splice slice start values)[k]? =
      if start ≤ k ∧ k < start + values.length then values[k - start]? else slice[k]? := by
  have htake : (slice.take start).length = start := by
    rw [List.length_take]
    omega
  rw [splice, List.append_assoc]
  rcases Nat.lt_or_ge k start with hk | hk
  · rw [List.getElem?_append_left (by omega), List.getElem?_take_of_lt hk, if_neg (by omega)]
  · rw [List.getElem?_append_right (by omega), htake]
    rcases Nat.lt_or_ge k (start + values.length) with hlt | hge
    · rw [if_pos ⟨hk, hlt⟩, List.getElem?_append_left (by omega)]
    · rw [if_neg (by omega), List.getElem?_append_right (by omega), List.getElem?_drop]
      congr 1
      omega

end Slices

/-! ## Code that returns errors -/

/-- Code that returns an error of type `ε` or aborts. -/
abbrev Fallible (ε : Type) := ExceptT ε Exec

namespace Fallible

variable {ε α β : Type}

def fail (e : ε) : Fallible ε α := ExceptT.mk (.ok (.error e))

/-- `ok_or_else(..)?`. -/
def orElse (e : ε) : Option α → Fallible ε α
  | some a => pure a
  | none => fail e

/-- `if c { return Err(e) }`. -/
def failIf (c : Prop) [Decidable c] (e : ε) : Fallible ε Unit := if c then fail e else pure ()

/-- `map_err(f)?`. -/
def mapError {δ : Type} (f : δ → ε) : Except δ α → Fallible ε α
  | .ok a => pure a
  | .error e => fail (f e)

/-- The code does not abort, and the value it returns, if any, has the property. -/
def Safe (x : Fallible ε α) (P : α → Prop) : Prop :=
  ∃ r : Except ε α, x.run = .ok r ∧ ∀ a, r = .ok a → P a

theorem safe_pure {P : α → Prop} {a : α} (h : P a) : Safe (pure a : Fallible ε α) P := by
  refine ⟨.ok a, rfl, ?_⟩
  intro b hb
  cases hb
  exact h

theorem safe_fail {P : α → Prop} (e : ε) : Safe (fail e : Fallible ε α) P :=
  ⟨.error e, rfl, by intro a ha; cases ha⟩

theorem safe_lift {P : α → Prop} {x : Exec α} {a : α} (hx : x = .ok a) (h : P a) :
    Safe (liftM x : Fallible ε α) P := by
  rw [hx]
  exact safe_pure h

theorem safe_mono {P Q : α → Prop} {x : Fallible ε α} (hx : Safe x P) (h : ∀ a, P a → Q a) :
    Safe x Q := by
  obtain ⟨r, hr, hP⟩ := hx
  exact ⟨r, hr, fun a ha => h a (hP a ha)⟩

theorem safe_orElse {P : α → Prop} {e : ε} {o : Option α} (h : ∀ a, o = some a → P a) :
    Safe (orElse e o : Fallible ε α) P := by
  cases o with
  | none => exact safe_fail e
  | some a => exact safe_pure (h a rfl)

theorem safe_run {P : α → Prop} {x : Fallible ε α} (hx : Safe x P) :
    Safe x fun a => x.run = .ok (.ok a) ∧ P a := by
  obtain ⟨r, hr, hP⟩ := hx
  refine ⟨r, hr, ?_⟩
  rintro a rfl
  exact ⟨hr, hP a rfl⟩

theorem safe_bind {P : α → Prop} {Q : β → Prop} {x : Fallible ε α} {f : α → Fallible ε β}
    (hx : Safe x P) (hf : ∀ a, P a → Safe (f a) Q) : Safe (x >>= f) Q := by
  obtain ⟨r, hr, hP⟩ := hx
  cases r with
  | error e =>
    refine ⟨.error e, ?_, by intro a ha; cases ha⟩
    rw [ExceptT.run_bind, hr]
    rfl
  | ok a =>
    obtain ⟨s, hs, hQ⟩ := hf a (hP a rfl)
    refine ⟨s, ?_, hQ⟩
    rw [ExceptT.run_bind, hr]
    exact hs

theorem safe_foldlM {P : β → Prop} {f : β → α → Fallible ε β} {l : List α} {b : β} (hb : P b)
    (hf : ∀ b, ∀ a ∈ l, P b → Safe (f b a) P) : Safe (l.foldlM f b) P := by
  induction l generalizing b with
  | nil => exact safe_pure hb
  | cons a l ih =>
    rw [List.foldlM_cons]
    refine safe_bind (hf b a List.mem_cons_self hb) fun b' hb' => ?_
    exact ih hb' fun b'' a' ha' => hf b'' a' (List.mem_cons_of_mem _ ha')

theorem safe_forM {f : α → Fallible ε Unit} {l : List α} (hf : ∀ a ∈ l, Safe (f a) fun _ => True) :
    Safe (l.forM f) fun _ => True := by
  induction l with
  | nil => exact safe_pure trivial
  | cons a l ih =>
    refine safe_bind (hf a List.mem_cons_self) fun _ _ => ?_
    exact ih fun a' ha' => hf a' (List.mem_cons_of_mem _ ha')

theorem safe_lift_bind {Q : β → Prop} {x : Exec α} {f : α → Fallible ε β} {a : α}
    (hx : x = .ok a) (h : Safe (f a) Q) : Safe ((liftM x : Fallible ε α) >>= f) Q := by
  rw [hx]
  exact h

theorem safe_orElse_bind {Q : β → Prop} {e : ε} {o : Option α} {f : α → Fallible ε β}
    (h : ∀ a, o = some a → Safe (f a) Q) : Safe (orElse e o >>= f) Q := by
  cases o with
  | none => exact safe_fail e
  | some a => exact h a rfl

theorem safe_failIf {P : Unit → Prop} {c : Prop} [Decidable c] {e : ε} (h : ¬c → P ()) :
    Safe (failIf c e) P := by
  unfold failIf
  split_ifs with hc
  · exact safe_fail e
  · exact safe_pure (h hc)

theorem safe_failIf_bind {Q : β → Prop} {c : Prop} [Decidable c] {e : ε} {f : Unit → Fallible ε β}
    (h : ¬c → Safe (f ()) Q) : Safe (failIf c e >>= f) Q := by
  unfold failIf
  split_ifs with hc
  · exact safe_fail e
  · exact h hc

theorem safe_mapError_bind {δ : Type} {Q : β → Prop} {g : δ → ε} {x : Except δ α}
    {f : α → Fallible ε β} (h : ∀ a, x = .ok a → Safe (f a) Q) : Safe (mapError g x >>= f) Q := by
  cases x with
  | error e => exact safe_fail _
  | ok a => exact h a rfl

/-- The code returns a value with the property. -/
def Returns (x : Fallible ε α) (P : α → Prop) : Prop := ∃ a, x.run = .ok (.ok a) ∧ P a

theorem Returns.safe {P : α → Prop} {x : Fallible ε α} (h : Returns x P) : Safe x P := by
  obtain ⟨a, ha, hP⟩ := h
  refine ⟨.ok a, ha, ?_⟩
  rintro b ⟨⟩
  exact hP

theorem returns_pure {P : α → Prop} {a : α} (h : P a) : Returns (pure a : Fallible ε α) P :=
  ⟨a, rfl, h⟩

theorem returns_lift {P : α → Prop} {x : Exec α} {a : α} (hx : x = .ok a) (h : P a) :
    Returns (liftM x : Fallible ε α) P := by
  rw [hx]
  exact returns_pure h

theorem returns_bind {P : α → Prop} {Q : β → Prop} {x : Fallible ε α} {f : α → Fallible ε β}
    (hx : Returns x P) (hf : ∀ a, P a → Returns (f a) Q) : Returns (x >>= f) Q := by
  obtain ⟨a, ha, hP⟩ := hx
  obtain ⟨b, hb, hQ⟩ := hf a hP
  refine ⟨b, ?_, hQ⟩
  rw [ExceptT.run_bind, ha]
  exact hb

theorem returns_lift_bind {Q : β → Prop} {x : Exec α} {f : α → Fallible ε β} {a : α}
    (hx : x = .ok a) (h : Returns (f a) Q) : Returns ((liftM x : Fallible ε α) >>= f) Q := by
  rw [hx]
  exact h

theorem returns_orElse_bind {Q : β → Prop} {e : ε} {o : Option α} {f : α → Fallible ε β} {a : α}
    (ho : o = some a) (h : Returns (f a) Q) : Returns (orElse e o >>= f) Q := by
  rw [ho]
  exact h

theorem returns_failIf_bind {Q : β → Prop} {c : Prop} [Decidable c] {e : ε} {f : Unit → Fallible ε β}
    (hc : ¬c) (h : Returns (f ()) Q) : Returns (failIf c e >>= f) Q := by
  rw [failIf, if_neg hc]
  exact h

theorem returns_mapError_bind {δ : Type} {Q : β → Prop} {g : δ → ε} {x : Except δ α}
    {f : α → Fallible ε β} {a : α} (hx : x = .ok a) (h : Returns (f a) Q) :
    Returns (mapError g x >>= f) Q := by
  rw [hx]
  exact h

theorem bind_run_of_ok {x : Fallible ε α} {a : α} (hx : x.run = .ok (.ok a)) (f : α → Fallible ε β) :
    (x >>= f).run = (f a).run := by
  rw [ExceptT.run_bind, hx]
  rfl

theorem bind_run_of_error {x : Fallible ε α} {e : ε} (hx : x.run = .ok (.error e))
    (f : α → Fallible ε β) : (x >>= f).run = .ok (.error e) := by
  rw [ExceptT.run_bind, hx]
  rfl

theorem lift_bind_run {x : Exec α} {a : α} (hx : x = .ok a) (f : α → Fallible ε β) :
    ((liftM x : Fallible ε α) >>= f).run = (f a).run := by
  rw [hx]
  rfl

/-- The value of a computation in sequence comes from values of its parts. -/
theorem bind_run_eq_ok {x : Fallible ε α} {f : α → Fallible ε β} {b : β}
    (h : (x >>= f).run = .ok (.ok b)) : ∃ a, x.run = .ok (.ok a) ∧ (f a).run = .ok (.ok b) := by
  rw [ExceptT.run_bind] at h
  obtain ⟨r, hr, hf⟩ := bind_eq_ok h
  cases r with
  | error e => cases hf
  | ok a => exact ⟨a, hr, hf⟩

theorem bind_run_eq_ok_iff {x : Fallible ε α} {f : α → Fallible ε β} {b : β} :
    (x >>= f).run = .ok (.ok b) ↔ ∃ a, x.run = .ok (.ok a) ∧ (f a).run = .ok (.ok b) := by
  refine ⟨bind_run_eq_ok, ?_⟩
  rintro ⟨a, ha, hb⟩
  rw [ExceptT.run_bind, ha]
  exact hb

theorem mapError_run_eq_ok_iff {δ : Type} {g : δ → ε} {x : Except δ α} {a : α} :
    (mapError g x).run = .ok (.ok a) ↔ x = .ok a := by
  cases x with
  | error e =>
    constructor <;> intro h <;> cases h
  | ok b =>
    constructor
    · intro h
      cases h
      rfl
    · intro h
      cases h
      rfl

theorem failIf_run_eq_ok_iff {c : Prop} [Decidable c] {e : ε} {u : Unit} :
    (failIf c e).run = .ok (.ok u) ↔ ¬c := by
  unfold failIf
  split_ifs with hc
  · refine ⟨fun h => ?_, fun h => absurd hc h⟩
    cases h
  · exact ⟨fun _ => hc, fun _ => rfl⟩

theorem pure_run_eq_ok_iff {a b : α} : (pure a : Fallible ε α).run = .ok (.ok b) ↔ a = b := by
  constructor
  · intro h
    cases h
    rfl
  · intro h
    rw [h]
    rfl

theorem orElse_run_eq_ok {e : ε} {o : Option α} {a : α}
    (h : (orElse e o : Fallible ε α).run = .ok (.ok a)) : o = some a := by
  cases o with
  | none => cases h
  | some b =>
    cases h
    rfl

theorem lift_run_eq_ok {x : Exec α} {a : α} (h : (liftM x : Fallible ε α).run = .ok (.ok a)) :
    x = .ok a := by
  cases x with
  | error e => cases h
  | ok b =>
    cases h
    rfl

theorem failIf_run_eq_ok {c : Prop} [Decidable c] {e : ε} {u : Unit}
    (h : (failIf c e).run = .ok (.ok u)) : ¬c := by
  intro hc
  rw [failIf, if_pos hc] at h
  cases h

/-- A loop that returns has run each of its turns. -/
theorem mapM_run_eq_ok {f : α → Fallible ε β} {g : α → β} {l : List α} {bs : List β}
    (hf : ∀ a b, (f a).run = .ok (.ok b) → b = g a) (h : (l.mapM f).run = .ok (.ok bs)) :
    bs = l.map g := by
  induction l generalizing bs with
  | nil =>
    cases h
    rfl
  | cons a l ih =>
    rw [List.mapM_cons] at h
    obtain ⟨b, hb, h⟩ := bind_run_eq_ok h
    obtain ⟨rest, hrest, h⟩ := bind_run_eq_ok h
    cases h
    rw [List.map_cons, ← hf a b hb, ← ih hrest]

theorem orElse_run_eq_ok_iff {e : ε} {o : Option α} {a : α} :
    (orElse e o : Fallible ε α).run = .ok (.ok a) ↔ o = some a := by
  refine ⟨orElse_run_eq_ok, ?_⟩
  rintro rfl
  rfl

theorem lift_run_eq_ok_iff {x : Exec α} {a : α} :
    (liftM x : Fallible ε α).run = .ok (.ok a) ↔ x = .ok a := by
  refine ⟨lift_run_eq_ok, ?_⟩
  rintro rfl
  rfl

/-- A loop returns what its turns return. -/
theorem mapM_run_eq_ok_iff {R : α → β → Prop} {f : α → Fallible ε β}
    (hf : ∀ a b, (f a).run = .ok (.ok b) ↔ R a b) {l : List α} {bs : List β} :
    (l.mapM f).run = .ok (.ok bs) ↔ List.Forall₂ R l bs := by
  induction l generalizing bs with
  | nil =>
    rw [List.mapM_nil, pure_run_eq_ok_iff, List.forall₂_nil_left_iff]
    exact eq_comm
  | cons a l ih =>
    rw [List.mapM_cons]
    simp only [bind_run_eq_ok_iff, pure_run_eq_ok_iff, hf, ih]
    constructor
    · rintro ⟨b, hb, rest, hrest, rfl⟩
      exact .cons hb hrest
    · intro h
      cases h with
      | cons hb hrest => exact ⟨_, hb, _, hrest, rfl⟩

theorem forM_run_eq_ok_iff {f : α → Fallible ε Unit} {l : List α} {u : Unit} :
    (l.forM f).run = .ok (.ok u) ↔ ∀ a ∈ l, (f a).run = .ok (.ok ()) := by
  induction l with
  | nil => exact iff_of_true rfl (by simp)
  | cons a l ih =>
    change (f a >>= fun _ => l.forM f).run = .ok (.ok u) ↔ _
    rw [bind_run_eq_ok_iff, List.forall_mem_cons, ← ih]
    exact Unique.exists_iff

/-- The code does not abort. -/
def Total (x : Fallible ε α) : Prop := ∃ r : Except ε α, x.run = .ok r

theorem total_pure (a : α) : Total (pure a : Fallible ε α) := ⟨.ok a, rfl⟩

theorem total_fail (e : ε) : Total (fail e : Fallible ε α) := ⟨.error e, rfl⟩

theorem total_orElse (e : ε) (o : Option α) : Total (orElse e o) := by
  cases o with
  | none => exact total_fail e
  | some a => exact total_pure a

theorem total_failIf (c : Prop) [Decidable c] (e : ε) : Total (failIf c e) := by
  unfold failIf
  split_ifs
  · exact total_fail e
  · exact total_pure ()

theorem total_mapError {δ : Type} (f : δ → ε) (x : Except δ α) : Total (mapError f x) := by
  cases x with
  | error e => exact total_fail (f e)
  | ok a => exact total_pure a

theorem total_lift {x : Exec α} {a : α} (hx : x = .ok a) : Total (liftM x : Fallible ε α) := by
  rw [hx]
  exact total_pure a

/-- What follows may use that the first part returned the value. -/
theorem total_bind {x : Fallible ε α} {f : α → Fallible ε β} (hx : Total x)
    (hf : ∀ a, x.run = .ok (.ok a) → Total (f a)) : Total (x >>= f) := by
  obtain ⟨r, hr⟩ := hx
  cases r with
  | error e =>
    refine ⟨.error e, ?_⟩
    rw [ExceptT.run_bind, hr]
    rfl
  | ok a =>
    obtain ⟨s, hs⟩ := hf a hr
    refine ⟨s, ?_⟩
    rw [ExceptT.run_bind, hr]
    exact hs

theorem total_mapM {f : α → Fallible ε β} {l : List α} (h : ∀ a ∈ l, Total (f a)) :
    Total (l.mapM f) := by
  induction l with
  | nil => exact total_pure []
  | cons a l ih =>
    rw [List.mapM_cons]
    refine total_bind (h a List.mem_cons_self) fun b _ => ?_
    refine total_bind (ih fun a ha => h a (List.mem_cons_of_mem _ ha)) fun bs _ => ?_
    exact total_pure (b :: bs)

end Fallible

end Pourpoint
