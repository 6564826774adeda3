import Mathlib.Data.BitVec
import Mathlib.Tactic

/-!
# Cyclic redundancy checks

The register of a reflected check takes a byte into its low bits and shifts eight times, each time with
the polynomial when the bit that leaves is set. A shift is linear in exclusive or, and injective when the
highest bit of the polynomial is set. So bytes that fit into the register enter it as if at once
(`crcBytes_eq_iterate`), and a change of such a run of bytes always changes the check
(`crcBytes_burst`).
-/

namespace Library

variable {w : ℕ}

/-- One shift of the register. -/
def crcShift (poly s : BitVec w) : BitVec w := (s >>> 1) ^^^ if s.getLsbD 0 then poly else 0

/-- A byte goes into the register. -/
def crcByte (poly s : BitVec w) (byte : BitVec 8) : BitVec w :=
  (crcShift poly)^[8] (s ^^^ byte.setWidth w)

/-- The register after all bytes. -/
def crcBytes (poly s : BitVec w) (bytes : List (BitVec 8)) : BitVec w :=
  bytes.foldl (crcByte poly) s

/-- Bytes as one word, the first in the lowest bits. -/
def packBytes : List (BitVec 8) → BitVec w
  | [] => 0
  | byte :: bytes => byte.setWidth w ^^^ packBytes bytes <<< 8

/-! ## Shifts -/

section

variable {poly : BitVec w}

theorem crcShift_xor (s t : BitVec w) :
    crcShift poly (s ^^^ t) = crcShift poly s ^^^ crcShift poly t := by
  unfold crcShift
  rw [BitVec.getLsbD_xor, BitVec.ushiftRight_xor_distrib]
  cases s.getLsbD 0 <;> cases t.getLsbD 0
  · simp
  · simp [BitVec.xor_assoc]
  · simp [BitVec.xor_comm poly, BitVec.xor_assoc]
  · -- The polynomial cancels.
    ext i hi
    simp only [Bool.xor_self, Bool.false_eq_true, if_false, if_true, BitVec.getElem_xor]
    cases poly[i] <;> simp

theorem iterate_crcShift_xor (n : ℕ) (s t : BitVec w) :
    (crcShift poly)^[n] (s ^^^ t) = (crcShift poly)^[n] s ^^^ (crcShift poly)^[n] t := by
  induction n generalizing s t with
  | zero => rfl
  | succ n ih => rw [Function.iterate_succ_apply, crcShift_xor, ih]; rfl

/-- The highest bit after a shift is the bit that left. -/
theorem crcShift_injective (hpoly : poly.getLsbD (w - 1) = true) :
    Function.Injective (crcShift poly) := by
  intro s t h
  have hleft : s.getLsbD 0 = t.getLsbD 0 := by
    have hbit := congrArg (fun v => BitVec.getLsbD v (w - 1)) h
    simp only [crcShift, BitVec.getLsbD_xor, BitVec.getLsbD_ushiftRight] at hbit
    rw [BitVec.getLsbD_of_ge s _ (by omega), BitVec.getLsbD_of_ge t _ (by omega)] at hbit
    cases hs : s.getLsbD 0 <;> cases ht : t.getLsbD 0 <;> simp [hs, ht, hpoly] at hbit ⊢
  have hrest : s >>> 1 = t >>> 1 := by
    unfold crcShift at h
    rw [hleft] at h
    exact (BitVec.xor_left_inj _).1 h
  refine BitVec.eq_of_getLsbD_eq fun i hi => ?_
  cases i with
  | zero => exact hleft
  | succ i =>
    have hbit := congrArg (fun v => BitVec.getLsbD v i) hrest
    simpa [BitVec.getLsbD_ushiftRight, Nat.add_comm] using hbit

/-- While the bits that leave are clear, shifts only move the register down. -/
theorem iterate_crcShift_of_clear {n : ℕ} {s : BitVec w} (h : ∀ i < n, s.getLsbD i = false) :
    (crcShift poly)^[n] s = s >>> n := by
  induction n generalizing s with
  | zero => simp
  | succ n ih =>
    have hshift : crcShift poly s = s >>> 1 := by
      rw [crcShift, h 0 (by omega)]
      simp
    rw [Function.iterate_succ_apply, hshift, ih, ← BitVec.shiftRight_add, Nat.add_comm]
    intro i hi
    rw [BitVec.getLsbD_ushiftRight]
    exact h _ (by omega)

end

/-! ## Words -/

theorem getLsbD_packBytes_of_le {bytes : List (BitVec 8)} {i : ℕ} (h : 8 * bytes.length ≤ i) :
    (packBytes bytes : BitVec w).getLsbD i = false := by
  induction bytes generalizing i with
  | nil => simp [packBytes]
  | cons byte bytes ih =>
    rw [List.length_cons] at h
    simp only [packBytes, BitVec.getLsbD_xor, BitVec.getLsbD_setWidth, BitVec.getLsbD_shiftLeft]
    rw [BitVec.getLsbD_of_ge byte i (by omega), ih (by omega)]
    simp

/-- Words of the same number of bytes that fit differ where their bytes do. -/
theorem packBytes_injective {bytes bytes' : List (BitVec 8)} (hlength : bytes.length = bytes'.length)
    (hfits : 8 * bytes.length ≤ w) (h : (packBytes bytes : BitVec w) = packBytes bytes') :
    bytes = bytes' := by
  have hbits : ∀ i < 8 * bytes.length,
      (packBytes bytes : BitVec w).getLsbD i = (packBytes bytes' : BitVec w).getLsbD i :=
    fun i _ => by rw [h]
  clear h
  induction bytes generalizing bytes' with
  | nil => exact (List.eq_nil_of_length_eq_zero hlength.symm).symm
  | cons byte bytes ih =>
    cases bytes' with
    | nil => cases hlength
    | cons byte' bytes' =>
      rw [List.length_cons] at hfits hbits
      simp only [packBytes, BitVec.getLsbD_xor, BitVec.getLsbD_setWidth, BitVec.getLsbD_shiftLeft]
        at hbits
      have hhead : byte = byte' := by
        refine BitVec.eq_of_getLsbD_eq fun i hi => ?_
        have hbit := hbits i (by omega)
        simpa [hi, show i < w by omega] using hbit
      subst hhead
      rw [ih (Nat.succ.inj hlength) (by omega)]
      intro i hi
      have hbit := hbits (i + 8) (by omega)
      simpa [show i + 8 < w by omega, BitVec.getLsbD_of_ge byte (i + 8) (by omega)] using hbit

/-! ## Bursts -/

section

variable {poly : BitVec w}

/-- **Bytes that fit into the register** enter it as one word. -/
theorem crcBytes_eq_iterate {bytes : List (BitVec 8)} (hfits : 8 * bytes.length ≤ w) (s : BitVec w) :
    crcBytes poly s bytes = (crcShift poly)^[8 * bytes.length] (s ^^^ packBytes bytes) := by
  induction bytes generalizing s with
  | nil => simp [crcBytes, packBytes]
  | cons byte bytes ih =>
    rw [List.length_cons] at hfits
    -- The later bytes are above the byte, where eight shifts only move them down.
    have hlater : (packBytes bytes : BitVec w) = (crcShift poly)^[8] (packBytes bytes <<< 8) := by
      rw [iterate_crcShift_of_clear (by simp +contextual)]
      refine BitVec.eq_of_getLsbD_eq fun i hi => ?_
      rw [BitVec.getLsbD_ushiftRight, BitVec.getLsbD_shiftLeft]
      by_cases hsmall : 8 + i < w
      · simp [hsmall]
      · rw [getLsbD_packBytes_of_le (by omega)]
        simp [hsmall]
    calc crcBytes poly s (byte :: bytes)
        = (crcShift poly)^[8 * bytes.length] (crcByte poly s byte ^^^ packBytes bytes) := by
          rw [crcBytes, List.foldl_cons]
          exact ih (by omega) _
      _ = (crcShift poly)^[8 * bytes.length]
            ((crcShift poly)^[8] (s ^^^ packBytes (byte :: bytes))) := by
          rw [packBytes, ← BitVec.xor_assoc, iterate_crcShift_xor 8, ← hlater]
          rfl
      _ = _ := by
          rw [← Function.iterate_add_apply, List.length_cons, Nat.mul_succ]

theorem crcByte_injective (hpoly : poly.getLsbD (w - 1) = true) (byte : BitVec 8) :
    Function.Injective fun s => crcByte poly s byte := by
  intro s t h
  exact (BitVec.xor_left_inj _).1 ((crcShift_injective hpoly).iterate 8 h)

theorem crcBytes_injective (hpoly : poly.getLsbD (w - 1) = true) (bytes : List (BitVec 8)) :
    Function.Injective fun s => crcBytes poly s bytes := by
  induction bytes with
  | nil => exact Function.injective_id
  | cons byte bytes ih => exact ih.comp (crcByte_injective hpoly byte)

/-- **Burst errors.** A change of a run of bytes that fits into the register changes the check. -/
theorem crcBytes_burst (hpoly : poly.getLsbD (w - 1) = true)
    {before after changed changed' : List (BitVec 8)}
    (hlength : changed.length = changed'.length) (hfits : 8 * changed.length ≤ w)
    (hne : changed ≠ changed') (s : BitVec w) :
    crcBytes poly s (before ++ changed ++ after) ≠ crcBytes poly s (before ++ changed' ++ after) := by
  intro h
  simp only [crcBytes, List.foldl_append] at h
  have hrun := crcBytes_injective hpoly after h
  have hrun' : crcBytes poly (before.foldl (crcByte poly) s) changed =
      crcBytes poly (before.foldl (crcByte poly) s) changed' := hrun
  rw [crcBytes_eq_iterate hfits, crcBytes_eq_iterate (hlength ▸ hfits), ← hlength] at hrun'
  have hwords := (crcShift_injective hpoly).iterate _ hrun'
  exact hne (packBytes_injective hlength hfits ((BitVec.xor_right_inj _).1 hwords))

end

end Library
