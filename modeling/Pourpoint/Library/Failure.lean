import Mathlib.Data.List.Basic
import Mathlib.Tactic

/-!
# Where a fallible computation fails

A sequence fails in its first or in its second step, and a loop in one of its turns.
-/

namespace Library

variable {ε ε' α β : Type}

theorem bind_eq_error_iff {x : Except ε α} {f : α → Except ε β} {e : ε} :
    (x >>= f) = .error e ↔ x = .error e ∨ ∃ a, x = .ok a ∧ f a = .error e := by
  cases x with
  | error e' =>
    show (Except.error e' : Except ε β) = .error e ↔ _
    simp
  | ok a =>
    show f a = .error e ↔ _
    simp

theorem mapError_eq_error_iff {f : ε → ε'} {x : Except ε α} {e' : ε'} :
    x.mapError f = .error e' ↔ ∃ e, x = .error e ∧ f e = e' := by
  cases x with
  | error e => simp [Except.mapError]
  | ok a => simp [Except.mapError]

/-- A turn that failed. -/
theorem exists_of_mapM_eq_error {f : α → Except ε β} {l : List α} {e : ε}
    (h : l.mapM f = .error e) : ∃ a ∈ l, f a = .error e := by
  induction l with
  | nil => cases h
  | cons a l ih =>
    rw [List.mapM_cons] at h
    rcases bind_eq_error_iff.1 h with h | ⟨b, -, h⟩
    · exact ⟨a, List.mem_cons_self, h⟩
    · rcases bind_eq_error_iff.1 h with h | ⟨bs, -, h⟩
      · obtain ⟨c, hc, hfail⟩ := ih h
        exact ⟨c, List.mem_cons_of_mem _ hc, hfail⟩
      · cases h

theorem exists_of_forM_eq_error {f : α → Except ε Unit} {l : List α} {e : ε}
    (h : l.forM f = .error e) : ∃ a ∈ l, f a = .error e := by
  induction l with
  | nil => cases h
  | cons a l ih =>
    rcases bind_eq_error_iff.1 h with h | ⟨_, -, h⟩
    · exact ⟨a, List.mem_cons_self, h⟩
    · obtain ⟨b, hb, hfail⟩ := ih h
      exact ⟨b, List.mem_cons_of_mem _ hb, hfail⟩

end Library
