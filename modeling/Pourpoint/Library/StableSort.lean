import Mathlib.Data.List.Sort
import Mathlib.Tactic

/-!
# Stable sorts by a key

A stable sort keeps elements with one key in their order (`filter_sortByKey`). So it forgets the order
of its input exactly when elements with one key are equal (`sortByKey_perm_iff`).
-/

namespace Library

variable {α κ : Type*} [LinearOrder κ]

/-- A stable sort by a key. -/
def sortByKey (key : α → κ) (l : List α) : List α := l.insertionSort fun a b => key a ≤ key b

variable {key : α → κ} {l l' : List α}

theorem perm_sortByKey : (sortByKey key l).Perm l := List.perm_insertionSort _ l

@[simp]
theorem mem_sortByKey {a : α} : a ∈ sortByKey key l ↔ a ∈ l := perm_sortByKey.mem_iff

theorem pairwise_sortByKey : (sortByKey key l).Pairwise fun a b => key a ≤ key b := by
  have htotal : Std.Total fun a b : α => key a ≤ key b := ⟨fun a b => le_total (key a) (key b)⟩
  have htrans : IsTrans α fun a b => key a ≤ key b := ⟨fun _ _ _ => le_trans⟩
  exact List.pairwise_insertionSort _ l

/-- Inserting keeps the elements of one key in their order. -/
theorem filter_orderedInsert (k : κ) (a : α) (l : List α) :
    (l.orderedInsert (fun a b => key a ≤ key b) a).filter (fun b => key b = k) =
      (a :: l).filter fun b => key b = k := by
  induction l with
  | nil => rfl
  | cons b l ih =>
    rw [List.orderedInsert]
    split_ifs with hle
    · rfl
    · rw [List.filter_cons, ih, List.filter_cons, List.filter_cons, List.filter_cons]
      -- The element moves behind one with a smaller key, so at most one of them has the key `k`.
      by_cases ha : key a = k
      · have hb : key b ≠ k := fun hb => hle (ha.trans hb.symm).le
        simp [ha, hb]
      · simp [ha]

/-- **Stability.** -/
theorem filter_sortByKey (k : κ) (l : List α) :
    (sortByKey key l).filter (fun b => key b = k) = l.filter fun b => key b = k := by
  induction l with
  | nil => rfl
  | cons a l ih =>
    rw [sortByKey, List.insertionSort_cons, filter_orderedInsert, List.filter_cons, List.filter_cons]
    rw [sortByKey] at ih
    rw [ih]

/-- Where the key tells elements apart, the order of the input is forgotten. -/
theorem sortByKey_eq_of_perm (hkey : ∀ a ∈ l, ∀ b ∈ l, key a = key b → a = b) (h : l.Perm l') :
    sortByKey key l' = sortByKey key l := by
  refine List.Perm.eq_of_pairwise ?_ pairwise_sortByKey pairwise_sortByKey
    ((perm_sortByKey.trans h.symm).trans perm_sortByKey.symm)
  intro a b ha hb hab hba
  exact hkey a (h.mem_iff.2 (mem_sortByKey.1 ha)) b (mem_sortByKey.1 hb) (le_antisymm hab hba)

theorem pairwise_lt_sortByKey (hnodup : (l.map key).Nodup) :
    (sortByKey key l).Pairwise fun a b => key a < key b := by
  have hdistinct : (sortByKey key l).Pairwise fun a b => key a ≠ key b :=
    List.pairwise_map.1 ((perm_sortByKey.map key).nodup_iff.2 hnodup)
  exact (pairwise_sortByKey.and hdistinct).imp fun h => lt_of_le_of_ne h.1 h.2

theorem sortByKey_eq_of_nodup (hnodup : (l.map key).Nodup) (h : l.Perm l') :
    sortByKey key l' = sortByKey key l :=
  sortByKey_eq_of_perm (fun _ ha _ hb heq => List.inj_on_of_nodup_map hnodup ha hb heq) h

theorem exists_perm_cons_cons {a b : α} (ha : a ∈ l) (hb : b ∈ l) (hne : a ≠ b) :
    ∃ rest, l.Perm (a :: b :: rest) := by
  classical
  have hb' : b ∈ l.erase a := (List.mem_erase_of_ne hne.symm).2 hb
  exact ⟨(l.erase a).erase b,
    (List.perm_cons_erase ha).trans ((List.perm_cons_erase hb').cons a)⟩

/-- **Independence of the order.** A stable sort gives the same for every order of its input exactly when
elements with one key are equal. -/
theorem sortByKey_perm_iff :
    (∀ l', l.Perm l' → sortByKey key l' = sortByKey key l) ↔
      ∀ a ∈ l, ∀ b ∈ l, key a = key b → a = b := by
  refine ⟨?_, fun hkey l' h => sortByKey_eq_of_perm hkey h⟩
  intro h a ha b hb heq
  by_contra hne
  obtain ⟨rest, hperm⟩ := exists_perm_cons_cons ha hb hne
  have hswap := (h _ (hperm.trans (List.Perm.swap b a rest))).trans (h _ hperm).symm
  have hfilter := congrArg (List.filter fun c => key c = key b) hswap
  rw [filter_sortByKey, filter_sortByKey] at hfilter
  simp only [List.filter_cons, heq, decide_true, if_true] at hfilter
  exact hne (List.cons.inj hfilter).1.symm

end Library
