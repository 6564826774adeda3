import Mathlib.Tactic

/-!
# Bytes of UTF-8

What a byte of an encoded text says about the characters: no byte of a character from the space on is
a control byte (`forall_le_utf8EncodeChar`), and the byte before an ASCII byte ends a character, so it is
ASCII or a continuation byte (`isChain_utf8`).
-/

namespace Library

theorem continuation_bounds :
    ∀ x : UInt8, 0x80 ≤ (x &&& 0x3f ||| 0x80) ∧ (x &&& 0x3f ||| 0x80) ≤ 0xBF := by
  have h : ∀ x : BitVec 8, 0x80#8 ≤ (x &&& 0x3f#8 ||| 0x80#8) ∧ (x &&& 0x3f#8 ||| 0x80#8) ≤ 0xBF#8 := by
    decide
  exact fun x => h x.toBitVec

theorem lead_bounds : ∀ x : UInt8, 0x80 ≤ (x &&& 0x1f ||| 0xc0) ∧ 0x80 ≤ (x &&& 0x0f ||| 0xe0) ∧
    0x80 ≤ (x &&& 0x07 ||| 0xf0) := by
  have h : ∀ x : BitVec 8, 0x80#8 ≤ (x &&& 0x1f#8 ||| 0xc0#8) ∧ 0x80#8 ≤ (x &&& 0x0f#8 ||| 0xe0#8) ∧
      0x80#8 ≤ (x &&& 0x07#8 ||| 0xf0#8) := by
    decide
  exact fun x => h x.toBitVec

/-- A character is one ASCII byte, or bytes beyond ASCII of which all but the first are continuation
bytes. -/
theorem utf8EncodeChar_cases (c : Char) :
    (c.val < 0x80 ∧ String.utf8EncodeChar c = [c.val.toUInt8]) ∨
      ∃ lead rest, String.utf8EncodeChar c = lead :: rest ∧ 0x80 ≤ lead ∧ rest ≠ [] ∧
        ∀ byte ∈ rest, 0x80 ≤ byte ∧ byte ≤ 0xBF := by
  rcases Char.utf8Size_eq c with h | h | h | h
  · refine Or.inl ⟨?_, String.utf8EncodeChar_eq_singleton h⟩
    exact UInt32.lt_of_le_of_lt (Char.utf8Size_eq_one_iff.1 h) (by decide)
  · rw [String.utf8EncodeChar_eq_cons_cons h]
    refine Or.inr ⟨_, _, rfl, (lead_bounds _).1, by simp, ?_⟩
    simp [continuation_bounds]
  · rw [String.utf8EncodeChar_eq_cons_cons_cons h]
    refine Or.inr ⟨_, _, rfl, (lead_bounds _).2.1, by simp, ?_⟩
    simp [continuation_bounds]
  · rw [String.utf8EncodeChar_eq_cons_cons_cons_cons h]
    refine Or.inr ⟨_, _, rfl, (lead_bounds _).2.2, by simp, ?_⟩
    simp [continuation_bounds]

theorem forall_le_utf8EncodeChar {c : Char} (h : 0x20 ≤ c.val) :
    ∀ byte ∈ String.utf8EncodeChar c, 0x20 ≤ byte := by
  rcases utf8EncodeChar_cases c with ⟨hascii, henc⟩ | ⟨lead, rest, henc, hlead, -, hrest⟩ <;> rw [henc]
  · intro byte hbyte
    rw [List.mem_singleton.1 hbyte, UInt8.le_iff_toNat_le, UInt32.toNat_toUInt8]
    rw [UInt32.le_iff_toNat_le] at h
    rw [UInt32.lt_iff_toNat_lt] at hascii
    rw [Nat.mod_eq_of_lt (hascii.trans (by decide))]
    exact h
  · refine List.forall_mem_cons.2 ⟨UInt8.le_trans (by decide) hlead, ?_⟩
    exact fun byte hbyte => UInt8.le_trans (by decide) (hrest byte hbyte).1

theorem getLast?_utf8EncodeChar {c : Char} {byte : UInt8}
    (h : byte ∈ (String.utf8EncodeChar c).getLast?) : byte ≤ 0xBF := by
  rcases utf8EncodeChar_cases c with ⟨hascii, henc⟩ | ⟨lead, rest, henc, -, hne, hrest⟩ <;>
    rw [henc] at h
  · obtain rfl : c.val.toUInt8 = byte := by simpa using h
    rw [UInt32.lt_iff_toNat_lt] at hascii
    rw [UInt8.le_iff_toNat_le, UInt32.toNat_toUInt8, Nat.mod_eq_of_lt (hascii.trans (by decide))]
    exact (hascii.trans (by decide)).le
  · rw [List.getLast?_cons_of_ne_nil hne] at h
    exact (hrest byte (List.mem_of_mem_getLast? h)).2

/-- **The byte before an ASCII byte** is not a lead byte. -/
theorem isChain_utf8 (text : List Char) :
    (text.flatMap String.utf8EncodeChar).IsChain fun byte next => next < 0x80 → byte ≤ 0xBF := by
  induction text with
  | nil => exact .nil
  | cons c text ih =>
    rw [List.flatMap_cons, List.isChain_append]
    refine ⟨?_, ih, fun byte hbyte _ _ _ => getLast?_utf8EncodeChar hbyte⟩
    rcases utf8EncodeChar_cases c with ⟨-, henc⟩ | ⟨lead, rest, henc, -, -, hrest⟩ <;> rw [henc]
    · exact .singleton _
    · -- Inside a character the next byte is a continuation byte.
      have hnext : ∀ byte : UInt8, ∀ next ∈ rest, next < 0x80 → byte ≤ 0xBF := by
        intro byte next hmem hascii
        exact absurd (UInt8.lt_of_le_of_lt (hrest next hmem).1 hascii) (by decide)
      refine List.Pairwise.isChain (List.pairwise_cons.2 ⟨hnext lead, ?_⟩)
      exact List.pairwise_of_forall_mem_list fun byte _ => hnext byte

end Library
