import Mathlib.Combinatorics.SimpleGraph.Acyclic

/-!
# Incidence graphs

The bipartite graph of a set of incidences, and what one more incidence does to it: it closes a cycle iff
its ends were connected without it (`incidenceGraph_insert_isAcyclic_iff`), and what is connected
afterwards is stated by what was connected before (`reachable_sup_edge_iff`).
-/

namespace Library

open SimpleGraph

variable {V α β : Type}

/-- The paths of a graph with one more edge. -/
theorem reachable_sup_edge_iff {G : SimpleGraph V} {u v x y : V} (huv : u ≠ v) :
    (G ⊔ edge u v).Reachable x y ↔ G.Reachable x y ∨ (G.Reachable x u ∧ G.Reachable v y) ∨
      (G.Reachable x v ∧ G.Reachable u y) := by
  have hmono : ∀ {x y}, G.Reachable x y → (G ⊔ edge u v).Reachable x y := fun h => h.mono le_sup_left
  have hedge : (G ⊔ edge u v).Reachable u v :=
    Adj.reachable (Or.inr ((edge_adj u v u v).2 ⟨Or.inl ⟨rfl, rfl⟩, huv⟩))
  constructor
  · rintro ⟨walk⟩
    induction walk with
    | nil => exact Or.inl .rfl
    | @cons x x' y hadj _ ih =>
      rcases hadj with hadj | hadj
      · have hstep : G.Reachable x x' := hadj.reachable
        exact ih.imp hstep.trans (.imp (.imp_left hstep.trans) (.imp_left hstep.trans))
      · rcases ((edge_adj u v x x').1 hadj).1 with ⟨rfl, rfl⟩ | ⟨rfl, rfl⟩
        · rcases ih with h | ⟨-, h⟩ | ⟨-, h⟩
          · exact Or.inr (Or.inl ⟨.rfl, h⟩)
          · exact Or.inr (Or.inl ⟨.rfl, h⟩)
          · exact Or.inl h
        · rcases ih with h | ⟨-, h⟩ | ⟨-, h⟩
          · exact Or.inr (Or.inr ⟨.rfl, h⟩)
          · exact Or.inl h
          · exact Or.inr (Or.inr ⟨.rfl, h⟩)
  · rintro (h | ⟨h, h'⟩ | ⟨h, h'⟩)
    · exact hmono h
    · exact (hmono h).trans (hedge.trans (hmono h'))
    · exact (hmono h).trans (hedge.symm.trans (hmono h'))

/-- The graph between two kinds of vertices with these incidences. -/
def incidenceGraph (E : Set (α × β)) : SimpleGraph (α ⊕ β) where
  Adj
    | .inl a, .inr b => (a, b) ∈ E
    | .inr b, .inl a => (a, b) ∈ E
    | _, _ => False
  symm := ⟨by
    rintro (a | b) (a' | b') h
    exacts [h, h, h, h]⟩
  loopless := ⟨by
    rintro (a | b) h
    exacts [h, h]⟩

section

variable {E : Set (α × β)} {a : α} {b : β}

@[simp] theorem incidenceGraph_adj : (incidenceGraph E).Adj (.inl a) (.inr b) ↔ (a, b) ∈ E := Iff.rfl

theorem incidenceGraph_mono {E' : Set (α × β)} (h : E ⊆ E') : incidenceGraph E ≤ incidenceGraph E' := by
  rintro (a | b) (a' | b') hadj
  exacts [hadj, h hadj, h hadj, hadj]

@[simp] theorem incidenceGraph_empty : incidenceGraph (∅ : Set (α × β)) = ⊥ := by
  ext (a | b) (a' | b') <;> exact Iff.rfl

theorem incidenceGraph_insert :
    incidenceGraph (insert (a, b) E) = incidenceGraph E ⊔ edge (.inl a) (.inr b) := by
  ext (a' | b') (a'' | b'')
  · simp [incidenceGraph, edge_adj]
  · simp [incidenceGraph, edge_adj, eq_comm, or_comm]
  · simp [incidenceGraph, edge_adj, eq_comm, or_comm, and_comm]
  · simp [incidenceGraph, edge_adj]

/-- **One more incidence** closes a cycle iff its ends were connected. -/
theorem incidenceGraph_insert_isAcyclic_iff (h : (a, b) ∉ E) :
    (incidenceGraph (insert (a, b) E)).IsAcyclic ↔
      (incidenceGraph E).IsAcyclic ∧ ¬(incidenceGraph E).Reachable (.inl a) (.inr b) := by
  rw [incidenceGraph_insert, isAcyclic_sup_fromEdgeSet_iff]
  refine and_congr_right fun _ => imp_congr_right fun _ => ?_
  simp [h]

theorem eq_of_reachable_isolated (h : ∀ a, (a, b) ∉ E) {v : α ⊕ β}
    (hv : (incidenceGraph E).Reachable v (.inr b)) : v = .inr b := by
  obtain ⟨walk⟩ := hv.symm
  cases walk with
  | nil => rfl
  | @cons _ w _ hadj _ =>
    cases w with
    | inl a => exact absurd hadj (h a)
    | inr b' => exact absurd hadj not_false

/-- Any number of incidences with one vertex make a star, which has no cycle. -/
theorem incidenceGraph_star_isAcyclic (h : ∀ e ∈ E, e.2 = b) : (incidenceGraph E).IsAcyclic := by
  have hneighbour : ∀ {a : α} {v : α ⊕ β}, (incidenceGraph E).Adj (.inl a) v → v = .inr b := by
    intro a v hadj
    cases v with
    | inl a' => exact absurd hadj not_false
    | inr b' => exact congrArg Sum.inr (h _ hadj)
  classical
  -- A cycle through a vertex of the first kind leaves it and comes back to it by different neighbours.
  have hleft : ∀ {a : α} (cycle : (incidenceGraph E).Walk (.inl a) (.inl a)), ¬cycle.IsCycle := by
    intro a cycle hcycle
    refine hcycle.snd_ne_penultimate ?_
    rw [hneighbour (cycle.adj_snd hcycle.not_nil), hneighbour (cycle.adj_penultimate hcycle.not_nil).symm]
  rintro (a | b') cycle hcycle
  · exact hleft cycle hcycle
  · obtain ⟨a, ha⟩ : ∃ a, cycle.snd = .inl a := by
      have hadj := cycle.adj_snd hcycle.not_nil
      cases hsnd : cycle.snd with
      | inl a => exact ⟨a, rfl⟩
      | inr b'' =>
        rw [hsnd] at hadj
        exact absurd hadj not_false
    have hmem : .inl a ∈ cycle.support := ha ▸ cycle.getVert_mem_support 1
    exact hleft _ (hcycle.rotate hmem)

end

end Library
