import Mathlib.Data.List.Basic
import Mathlib.Tactic

/-!
# Slots that are filled by index

A list of results is allocated with one empty slot for each argument; the slots are then filled at their
indexes, in any order. `Slots f list slots todo` says that what is filled is the value of `f` and that
only the indexes `todo` may still be empty. When nothing is left to do, the slots are `list.map f`.
-/

namespace Library

/-- The slots hold the values of a function on the list, apart from those at the indexes to do. -/
structure Slots {α β : Type} (f : α → Option β) (list : List α) (slots : List (Option β))
    (todo : List ℕ) : Prop where
  length : slots.length = list.length
  filled : ∀ (i : ℕ) (value : β), slots[i]? = some (some value) → ∃ a, list[i]? = some a ∧ f a = some value
  empty : ∀ i : ℕ, slots[i]? = some none → i ∈ todo

namespace Slots

variable {α β : Type} {f : α → Option β} {list : List α} {slots : List (Option β)} {todo : List ℕ}

theorem replicate (f : α → Option β) (list : List α) :
    Slots f list (List.replicate list.length none) (list.zipIdx.map Prod.snd) where
  length := List.length_replicate
  filled := by
    intro i value h
    have hmem := List.mem_of_getElem? h
    cases List.eq_of_mem_replicate hmem
  empty := by
    intro i h
    have hlt : i < list.length := by
      simpa using (List.getElem?_eq_some_iff.1 h).1
    simpa [List.range'_eq_map_range] using hlt

theorem mono (h : Slots f list slots todo) {todo' : List ℕ} (hsub : ∀ i ∈ todo, i ∈ todo') :
    Slots f list slots todo' :=
  ⟨h.length, h.filled, fun i hi => hsub i (h.empty i hi)⟩

theorem set (h : Slots f list slots todo) {todo' : List ℕ} {i : ℕ} {a : α} {value : β}
    (ha : list[i]? = some a) (hvalue : f a = some value) (hsub : ∀ j ∈ todo, j = i ∨ j ∈ todo') :
    Slots f list (slots.set i (some value)) todo' where
  length := by rw [List.length_set, h.length]
  filled := by
    intro j other hj
    rw [List.getElem?_set] at hj
    split_ifs at hj with hij hlt
    · subst hij
      cases hj
      exact ⟨a, ha, hvalue⟩
    · exact h.filled j other hj
  empty := by
    intro j hj
    rw [List.getElem?_set] at hj
    split_ifs at hj with hij hlt
    · cases hj
    · rcases hsub j (h.empty j hj) with rfl | hmem
      · exact absurd rfl hij
      · exact hmem

/-- When nothing is left to do, the slots are the values in order. -/
theorem eq_map (h : Slots f list slots []) : slots = list.map f := by
  apply List.ext_getElem?
  intro i
  rw [List.getElem?_map]
  cases hslot : slots[i]? with
  | none =>
    have hle : list.length ≤ i := by
      rw [← h.length]
      exact List.getElem?_eq_none_iff.1 hslot
    rw [List.getElem?_eq_none_iff.2 hle]
    rfl
  | some slot =>
    cases slot with
    | none => cases h.empty i hslot
    | some value =>
      obtain ⟨a, ha, hvalue⟩ := h.filled i value hslot
      rw [ha, Option.map_some, hvalue]

end Slots

end Library
