import Mathlib.Data.List.Sort
import Mathlib.Data.List.Destutter
import Mathlib.Tactic

/-!
# Sorting and removing repeats

The elements of a list in increasing order, each once. Of a list of indices it is the range of indices
with the others left out.
-/

namespace Library

section

variable {α : Type} [LinearOrder α]

/-- `sort` followed by `dedup`, which drops repeats that stand next to each other. -/
def sortDedup (l : List α) : List α := (l.insertionSort (· ≤ ·)).destutter (· ≠ ·)

theorem mem_destutter'_ne {a b : α} {l : List α} :
    a ∈ l.destutter' (· ≠ ·) b ↔ a ∈ b :: l := by
  induction l generalizing b with
  | nil => simp
  | cons c l ih =>
    by_cases hbc : b = c
    · subst hbc
      rw [List.destutter'_cons_neg l (by simp), ih]
      simp
    · rw [List.destutter'_cons_pos l hbc, List.mem_cons, ih, ← List.mem_cons]

@[simp]
theorem mem_sortDedup {a : α} {l : List α} : a ∈ sortDedup l ↔ a ∈ l := by
  have hsorted : a ∈ l.insertionSort (· ≤ ·) ↔ a ∈ l := List.mem_insertionSort (· ≤ ·)
  rw [← hsorted, sortDedup]
  cases l.insertionSort (· ≤ ·) with
  | nil => simp
  | cons b rest => rw [List.destutter_cons', mem_destutter'_ne]

theorem pairwise_sortDedup (l : List α) : (sortDedup l).Pairwise (· < ·) := by
  have hle : (sortDedup l).Pairwise (· ≤ ·) :=
    (List.pairwise_insertionSort (· ≤ ·) l).sublist (List.destutter_sublist _ _)
  have hne : (sortDedup l).IsChain (· ≠ ·) := List.isChain_destutter _ _
  have hlt : (sortDedup l).IsChain (· < ·) := by
    refine List.isChain_iff_getElem.2 ?_
    intro i hi
    exact lt_of_le_of_ne (List.isChain_iff_getElem.1 hle.isChain i hi)
      (List.isChain_iff_getElem.1 hne i hi)
  exact hlt.pairwise

theorem sortDedup_congr {l l' : List α} (h : ∀ a, a ∈ l ↔ a ∈ l') : sortDedup l = sortDedup l' :=
  (pairwise_sortDedup l).eq_of_mem_iff (pairwise_sortDedup l') fun {a} => by
    rw [mem_sortDedup, mem_sortDedup, h]

end

theorem sortDedup_eq_filter_range {l : List ℕ} {n : ℕ} (h : ∀ i ∈ l, i < n) :
    sortDedup l = (List.range n).filter (· ∈ l) := by
  refine (pairwise_sortDedup l).eq_of_mem_iff (List.pairwise_lt_range.filter _) ?_
  intro i
  rw [mem_sortDedup, List.mem_filter, List.mem_range, decide_eq_true_iff]
  exact ⟨fun hi => ⟨h i hi, hi⟩, fun hi => hi.2⟩

end Library
