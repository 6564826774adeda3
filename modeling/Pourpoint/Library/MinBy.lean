import Mathlib.Order.Basic
import Mathlib.Tactic

/-!
# First minimum of a list

`minBy` folds a list with a comparison and keeps the earlier element unless it is strictly greater.
If the comparison is that of a key in a linear order, the result has the least key
(`minBy_eq_some`).
-/

namespace Library

variable {α β : Type*}

/-- The first of the least elements under a comparison. -/
def minBy (cmp : α → α → Ordering) : List α → Option α
  | [] => none
  | a :: l => some (l.foldl (fun best x => if cmp best x = .gt then x else best) a)

@[simp] theorem minBy_eq_none_iff {cmp : α → α → Ordering} {l : List α} :
    minBy cmp l = none ↔ l = [] := by
  cases l <;> simp [minBy]

variable [LinearOrder β] {cmp : α → α → Ordering} {key : α → β}

theorem foldl_minBy (hcmp : ∀ a b, cmp a b = .gt ↔ key b < key a) (l : List α) (a : α) :
    let m := l.foldl (fun best x => if cmp best x = .gt then x else best) a
    m ∈ a :: l ∧ ∀ b ∈ a :: l, key m ≤ key b := by
  induction l generalizing a with
  | nil => simp
  | cons x l ih =>
    obtain ⟨hmem, hle⟩ := ih (if cmp a x = .gt then x else a)
    have hbest : (if cmp a x = .gt then x else a) = a ∨ (if cmp a x = .gt then x else a) = x := by
      split_ifs <;> simp
    have hboth : key (if cmp a x = .gt then x else a) ≤ key a ∧
        key (if cmp a x = .gt then x else a) ≤ key x := by
      split_ifs with h
      · exact ⟨((hcmp a x).1 h).le, le_rfl⟩
      · exact ⟨le_rfl, not_lt.1 fun hlt => h ((hcmp a x).2 hlt)⟩
    refine ⟨?_, ?_⟩
    · simp only [List.foldl_cons]
      rcases List.mem_cons.1 hmem with h | h
      · rw [h]
        rcases hbest with h | h <;> rw [h] <;> simp
      · exact List.mem_cons_of_mem _ (List.mem_cons_of_mem _ h)
    · intro b hb
      simp only [List.foldl_cons]
      have hfirst := hle _ (List.mem_cons_self ..)
      rcases List.mem_cons.1 hb with rfl | hb
      · exact hfirst.trans hboth.1
      · rcases List.mem_cons.1 hb with rfl | hb
        · exact hfirst.trans hboth.2
        · exact hle b (List.mem_cons_of_mem _ hb)

/-- **The selected element has the least key.** -/
theorem minBy_eq_some (hcmp : ∀ a b, cmp a b = .gt ↔ key b < key a) {l : List α} {m : α}
    (h : minBy cmp l = some m) : m ∈ l ∧ ∀ b ∈ l, key m ≤ key b := by
  cases l with
  | nil => cases h
  | cons a l =>
    obtain rfl := Option.some.inj h
    exact foldl_minBy hcmp l a

end Library
