import Mathlib.Data.List.Sort
import Mathlib.Tactic

/-!
# Comparisons

Code that sorts by a function to `Ordering`: the first difference of two lists is their lexicographic order
(`firstDifference_zipWith`), a sort forgets the order of its input where the comparison tells elements apart
(`sortBy_eq_of_perm`), and a loop that keeps the smaller of two finds a smallest one (`foldl_smallest`).
-/

namespace Library

open Std

variable {α ι : Type} {cmp : α → α → Ordering}

/-- The first result that tells two elements apart. -/
def firstDifference (orderings : List Ordering) : Option Ordering := orderings.find? (· ≠ .eq)

/-- **Lexicographic order.** -/
theorem firstDifference_zipWith (l l' : List α) :
    (firstDifference (List.zipWith cmp l l')).getD (compare l.length l'.length) =
      List.compareLex cmp l l' := by
  induction l generalizing l' with
  | nil =>
    cases l' with
    | nil => simp [firstDifference, List.compareLex_nil_nil]
    | cons b l' => simp [firstDifference, List.compareLex_nil_cons, Nat.compare_eq_lt]
  | cons a l ih =>
    cases l' with
    | nil => simp [firstDifference, List.compareLex_cons_nil, Nat.compare_eq_gt]
    | cons b l' =>
      rw [List.compareLex_cons_cons, ← ih l', List.zipWith_cons_cons, firstDifference, List.find?_cons]
      cases hcmp : cmp a b with
      | eq => simp [firstDifference, Nat.compare_eq_ite_lt]
      | lt => simp
      | gt => simp

/-! ## Sorts -/

/-- A stable sort by a comparison. -/
def sortBy (cmp : α → α → Ordering) (l : List α) : List α :=
  l.insertionSort fun a b => (cmp a b).isLE

theorem perm_sortBy {l : List α} : (sortBy cmp l).Perm l := List.perm_insertionSort _ l

theorem pairwise_sortBy [TransCmp cmp] {l : List α} :
    (sortBy cmp l).Pairwise fun a b => (cmp a b).isLE := by
  have htotal : Std.Total fun a b : α => ((cmp a b).isLE : Prop) := by
    refine ⟨fun a b => ?_⟩
    have hswap : cmp b a = (cmp a b).swap := OrientedCmp.eq_swap
    rw [hswap]
    cases cmp a b <;> simp
  have htrans : IsTrans α fun a b => ((cmp a b).isLE : Prop) := ⟨fun _ _ _ => TransCmp.isLE_trans⟩
  exact List.pairwise_insertionSort _ l

/-- Where ties are equal, the order of the input is forgotten. -/
theorem sortBy_eq_of_perm [TransCmp cmp] {l l' : List α}
    (hties : ∀ a ∈ l, ∀ b ∈ l, cmp a b = .eq → a = b) (h : l.Perm l') : sortBy cmp l' = sortBy cmp l := by
  refine List.Perm.eq_of_pairwise ?_ pairwise_sortBy pairwise_sortBy
    ((perm_sortBy.trans h.symm).trans perm_sortBy.symm)
  intro a b ha hb hab hba
  refine hties a (h.mem_iff.2 (perm_sortBy.mem_iff.1 ha)) b (perm_sortBy.mem_iff.1 hb) ?_
  exact OrientedCmp.isLE_antisymm hab hba

/-- A loop that keeps the smaller of two elements. -/
theorem foldl_smallest (cmp : α → α → Ordering) [TransCmp cmp] (f : ι → α) (start : ι) (l : List ι) :
    l.foldl (fun best candidate => if cmp (f candidate) (f best) = .lt then candidate else best) start ∈
        start :: l ∧
      ∀ i ∈ start :: l, (cmp (f (l.foldl
        (fun best candidate => if cmp (f candidate) (f best) = .lt then candidate else best) start))
          (f i)).isLE := by
  have hself : ∀ a, (cmp a a).isLE := fun a => by rw [show cmp a a = .eq from ReflCmp.compare_self]; rfl
  induction l generalizing start with
  | nil => simp [hself]
  | cons candidate l ih =>
    rw [List.foldl_cons]
    obtain ⟨hmem, hle⟩ := ih (if cmp (f candidate) (f start) = .lt then candidate else start)
    obtain ⟨hbest, hrest⟩ := List.forall_mem_cons.1 hle
    refine ⟨?_, List.forall_mem_cons.2 ⟨?_, List.forall_mem_cons.2 ⟨?_, hrest⟩⟩⟩
    · rcases List.mem_cons.1 hmem with heq | hmem
      · rw [heq]
        split_ifs <;> simp
      · exact List.mem_cons_of_mem _ (List.mem_cons_of_mem _ hmem)
    · refine TransCmp.isLE_trans hbest ?_
      split_ifs with hlt
      · rw [hlt]
        rfl
      · exact hself _
    · refine TransCmp.isLE_trans hbest ?_
      split_ifs with hlt
      · exact hself _
      · have hswap : cmp (f start) (f candidate) = (cmp (f candidate) (f start)).swap := OrientedCmp.eq_swap
        rw [hswap]
        revert hlt
        cases cmp (f candidate) (f start) <;> simp

end Library
