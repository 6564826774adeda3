import Mathlib.Data.List.Rotate
import Pourpoint.Library.Comparison

/-!
# Least rotations

The least of the rotations of a list, by the lexicographic order. Lists that are rotations of each other
have one least rotation (`IsLeastRotation.unique`), and a loop over the starts finds it
(`isLeastRotation_foldl`), also where several starts give it.
-/

namespace Library

open Std

variable {α : Type} {cmp : α → α → Ordering} {l l' r r' : List α}

/-- A rotation that no rotation is below. -/
def IsLeastRotation (cmp : α → α → Ordering) (l r : List α) : Prop :=
  l.IsRotated r ∧ ∀ r', l.IsRotated r' → (List.compareLex cmp r r').isLE

/-- **One least rotation.** -/
theorem IsLeastRotation.unique [TransCmp cmp] [LawfulEqCmp cmp] (h : IsLeastRotation cmp l r)
    (h' : IsLeastRotation cmp l' r') (hl : l.IsRotated l') : r = r' := by
  have hle := h.2 r' (hl.trans h'.1)
  have hge := h'.2 r (hl.symm.trans h.1)
  have hcompare : List.compareLex cmp r r' = .eq := OrientedCmp.isLE_antisymm hle hge
  exact LawfulEqCmp.eq_of_compare hcompare

/-- The loop over the starts finds the least rotation. -/
theorem isLeastRotation_foldl [TransCmp cmp] (hl : l ≠ []) :
    IsLeastRotation cmp l (l.rotate ((List.range' 1 (l.length - 1)).foldl (fun best candidate =>
      if List.compareLex cmp (l.rotate candidate) (l.rotate best) = .lt then candidate else best) 0)) := by
  have hpos := List.length_pos_iff.2 hl
  obtain ⟨-, hleast⟩ := foldl_smallest (List.compareLex cmp) l.rotate 0 (List.range' 1 (l.length - 1))
  refine ⟨⟨_, rfl⟩, ?_⟩
  rintro r' ⟨n, rfl⟩
  rw [← List.rotate_mod l n]
  refine hleast _ ?_
  have hn := Nat.mod_lt n hpos
  rw [List.mem_cons, List.mem_range'_1]
  omega

end Library
