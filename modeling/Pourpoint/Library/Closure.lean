import Mathlib.Logic.Relation
import Mathlib.Tactic

/-!
# Stack search

A search from a seed keeps a set of visited elements and a stack. One turn takes an element off the
stack and visits and pushes those of its predecessors that were not visited. The invariant
(`SearchInv`) says that everything visited reaches the seed, and that the predecessors of a visited
element are visited unless it is still on the stack. With an empty stack the visited elements are
exactly those that reach the seed (`SearchInv.visited_iff`), whether or not the relation has
cycles.
-/

namespace Library

variable {α : Type*} {R : α → α → Prop} {seed : α}

/-- The state of a search for everything that reaches `seed`. -/
structure SearchInv (R : α → α → Prop) (seed : α) (visited : α → Prop) (stack : List α) : Prop where
  seed_visited : visited seed
  sound : ∀ a, visited a → Relation.ReflTransGen R a seed
  stack_visited : ∀ a ∈ stack, visited a
  closed : ∀ b, visited b → b ∉ stack → ∀ a, R a b → visited a

theorem SearchInv.init (R : α → α → Prop) (seed : α) : SearchInv R seed (· = seed) [seed] where
  seed_visited := rfl
  sound := by
    rintro a rfl
    exact .refl
  stack_visited := by simp
  closed := by
    rintro b rfl hb
    simp at hb

/-- **One turn.** The popped element's predecessors are visited, and the new ones pushed. -/
theorem SearchInv.step {visited visited' : α → Prop} {b : α} {stack stack' : List α}
    (h : SearchInv R seed visited (b :: stack)) (hmono : ∀ a, visited a → visited' a)
    (hnew : ∀ a, visited' a → visited a ∨ R a b ∧ a ∈ stack') (hpred : ∀ a, R a b → visited' a)
    (hstack : ∀ a ∈ stack, a ∈ stack') (hstack' : ∀ a ∈ stack', visited' a) :
    SearchInv R seed visited' stack' where
  seed_visited := hmono _ h.seed_visited
  sound := by
    intro a ha
    rcases hnew a ha with hold | ⟨hR, -⟩
    · exact h.sound a hold
    · exact Relation.ReflTransGen.head hR (h.sound b (h.stack_visited b (by simp)))
  stack_visited := hstack'
  closed := by
    intro c hc hnot a hR
    rcases hnew c hc with hold | ⟨-, hpushed⟩
    · by_cases hcb : c = b
      · exact hpred a (hcb ▸ hR)
      · refine hmono a (h.closed c hold ?_ a hR)
        intro hmem
        rcases List.mem_cons.1 hmem with heq | hmem
        · exact hcb heq
        · exact hnot (hstack c hmem)
    · exact absurd hpushed hnot

/-- **A finished search** has visited exactly what reaches the seed. -/
theorem SearchInv.visited_iff {visited : α → Prop} (h : SearchInv R seed visited []) (a : α) :
    visited a ↔ Relation.ReflTransGen R a seed := by
  constructor
  · exact h.sound a
  · intro hreach
    induction hreach using Relation.ReflTransGen.head_induction_on with
    | refl => exact h.seed_visited
    | head hstep _ ih => exact h.closed _ ih (by simp) _ hstep

/-- Dropping steps that do not lead to the seed does not change what reaches it. -/
theorem reflTransGen_iff_of_restrict {S : α → α → Prop} (hle : ∀ a b, S a b → R a b)
    (hback : ∀ a b, R a b → Relation.ReflTransGen R b seed → S a b) (a : α) :
    Relation.ReflTransGen S a seed ↔ Relation.ReflTransGen R a seed := by
  constructor
  · exact Relation.ReflTransGen.mono hle a seed
  · intro hreach
    induction hreach using Relation.ReflTransGen.head_induction_on with
    | refl => exact .refl
    | head hstep hrest ih => exact .head (hback _ _ hstep hrest) ih

end Library
