import Mathlib.Tactic

/-!
# FNV-1a

The 64-bit FNV-1a hash that the caches put into file names.
-/

namespace Pourpoint

/-- `fnv1a64`. -/
def fnv1a64 (bytes : List UInt8) : UInt64 :=
  bytes.foldl (fun hash byte => (hash ^^^ byte.toUInt64) * 0x100000001b3) 0xcbf29ce484222325

/-- `as_bytes`. -/
def utf8Bytes (text : String) : List UInt8 := text.toUTF8.data.toList

/-- `{:016x}`. -/
def hex16 (value : UInt64) : String :=
  let digits := Nat.toDigits 16 value.toNat
  String.ofList (List.replicate (16 - digits.length) '0' ++ digits)

theorem length_hex16 (value : UInt64) : 16 ≤ (hex16 value).toList.length := by
  simp only [hex16, String.toList_ofList, List.length_append, List.length_replicate]
  omega

theorem slash_notMem_toDigits (n : ℕ) : '/' ∉ Nat.toDigits 16 n := by
  induction n using Nat.strong_induction_on with
  | _ n ih =>
    have hdigit : ∀ m < 16, Nat.digitChar m ≠ '/' := by decide
    rw [Nat.toDigits_eq_if (by decide)]
    split_ifs with hn
    · rw [List.mem_singleton]
      exact (hdigit n hn).symm
    · rw [List.mem_append, List.mem_singleton, not_or]
      exact ⟨ih (n / 16) (by omega), (hdigit (n % 16) (Nat.mod_lt n (by decide))).symm⟩

theorem slash_notMem_hex16 (value : UInt64) : '/' ∉ (hex16 value).toList := by
  rw [hex16, String.toList_ofList, List.mem_append, not_or]
  exact ⟨fun h => absurd (List.eq_of_mem_replicate h) (by decide), slash_notMem_toDigits _⟩

end Pourpoint
