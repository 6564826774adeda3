import Mathlib

/-!
# Decimal numbers in text

A decimal number that is followed by a character that is no digit can be read back.
-/

namespace Pourpoint

/-- The list does not start with a digit. -/
def NoDigitFirst (l : List Char) : Prop := ∀ c ∈ l.head?, c.isDigit = false

theorem takeWhile_isDigit_append {digits rest : List Char} (hdigits : ∀ c ∈ digits, c.isDigit = true)
    (hrest : NoDigitFirst rest) : (digits ++ rest).takeWhile Char.isDigit = digits := by
  rw [List.takeWhile_append_of_pos hdigits]
  cases rest with
  | nil => simp
  | cons c rest =>
    rw [List.takeWhile_cons_of_neg (by simp [hrest c (by simp)]), List.append_nil]

/-- **Decimals can be read back.** -/
theorem decimal_append_inj {m n : ℕ} {rest rest' : List Char} (hrest : NoDigitFirst rest)
    (hrest' : NoDigitFirst rest') (h : (toString m).toList ++ rest = (toString n).toList ++ rest') :
    m = n ∧ rest = rest' := by
  have hdigits : ∀ k : ℕ, ∀ c ∈ (toString k).toList, c.isDigit = true := by
    intro k c hc
    rw [show toString k = Nat.repr k from rfl, Nat.toList_repr] at hc
    exact Nat.isDigit_of_mem_toDigits (by decide) (by decide) hc
  have hdigitsEq : (toString m).toList = (toString n).toList := by
    rw [← takeWhile_isDigit_append (hdigits m) hrest, h, takeWhile_isDigit_append (hdigits n) hrest']
  refine ⟨Nat.repr_inj.1 (String.toList_inj.1 hdigitsEq), ?_⟩
  rw [hdigitsEq] at h
  exact List.append_cancel_left h

end Pourpoint
