import Pourpoint.Library.Closure

/-!
# Breadth-first order

A search that takes elements from the front of a queue and appends what it finds lists them by their
distance to the seed. The invariant (`LevelInv`) says that the elements listed and queued so far stand in
the order of their distance, that the distances in the queue differ by at most one, and that everything
as near as the head of the queue has been visited.
-/

namespace Library

variable {α : Type*} {R : α → α → Prop} {seed : α}

/-- The element reaches the seed in this many steps. -/
def Steps (R : α → α → Prop) (seed : α) : ℕ → α → Prop
  | 0, a => a = seed
  | n + 1, a => ∃ b, R a b ∧ Steps R seed n b

/-- The least number of steps in which an element reaches the seed. -/
noncomputable def distance (R : α → α → Prop) (seed a : α) : ℕ := sInf {n | Steps R seed n a}

theorem distance_le {n : ℕ} {a : α} (h : Steps R seed n a) : distance R seed a ≤ n := Nat.sInf_le h

theorem steps_distance {n : ℕ} {a : α} (h : Steps R seed n a) :
    Steps R seed (distance R seed a) a :=
  Nat.sInf_mem (s := {n | Steps R seed n a}) ⟨n, h⟩

theorem distance_seed (R : α → α → Prop) (seed : α) : distance R seed seed = 0 :=
  Nat.le_zero.1 (distance_le (n := 0) rfl)

theorem exists_steps_iff {a : α} :
    (∃ n, Steps R seed n a) ↔ Relation.ReflTransGen R a seed := by
  constructor
  · rintro ⟨n, h⟩
    induction n generalizing a with
    | zero =>
      obtain rfl : a = seed := h
      exact .refl
    | succ n ih =>
      obtain ⟨b, hR, hb⟩ := h
      exact .head hR (ih hb)
  · intro h
    induction h using Relation.ReflTransGen.head_induction_on with
    | refl => exact ⟨0, rfl⟩
    | head hR _ ih =>
      obtain ⟨n, hn⟩ := ih
      exact ⟨n + 1, _, hR, hn⟩

theorem distance_le_succ {a b : α} (hR : R a b) (hb : Relation.ReflTransGen R b seed) :
    distance R seed a ≤ distance R seed b + 1 := by
  obtain ⟨n, hn⟩ := exists_steps_iff.2 hb
  exact distance_le ⟨b, hR, steps_distance hn⟩

/-- The order of a breadth-first search: what it has listed and what is still in the queue. -/
structure LevelInv (R : α → α → Prop) (seed : α) (visited : α → Prop) (listed queue : List α) :
    Prop where
  search : SearchInv R seed visited queue
  sorted : (listed ++ queue).Pairwise fun a b => distance R seed a ≤ distance R seed b
  close : ∀ head ∈ queue.head?, ∀ a ∈ queue, distance R seed a ≤ distance R seed head + 1
  full : ∀ head ∈ queue.head?, ∀ n a, Steps R seed n a → n ≤ distance R seed head → visited a

theorem LevelInv.init (R : α → α → Prop) (seed : α) : LevelInv R seed (· = seed) [] [seed] where
  search := SearchInv.init R seed
  sorted := List.pairwise_singleton _ _
  close := by
    intro head hhead a ha
    obtain rfl : seed = head := Option.some.inj hhead
    obtain rfl := List.mem_singleton.1 ha
    exact Nat.le_succ _
  full := by
    intro head hhead n a hsteps hn
    obtain rfl : seed = head := Option.some.inj hhead
    rw [distance_seed, Nat.le_zero] at hn
    subst hn
    exact hsteps

section Step

variable {visited visited' : α → Prop} {b : α} {listed queue fresh : List α}

/-- What is found at the head of the queue is one step further away. -/
theorem LevelInv.distance_fresh (h : LevelInv R seed visited listed (b :: queue)) {a : α}
    (hR : R a b) (hnot : ¬visited a) : distance R seed a = distance R seed b + 1 := by
  have hb := h.search.sound b (h.search.stack_visited b List.mem_cons_self)
  apply le_antisymm (distance_le_succ hR hb)
  by_contra hlt
  -- a nearer element has a neighbour that is nearer than the head, which is closed
  obtain ⟨n, hn⟩ := exists_steps_iff.2 (hb.head hR)
  have hsteps := steps_distance hn
  cases hdistance : distance R seed a with
  | zero =>
    rw [hdistance] at hsteps
    obtain rfl : a = seed := hsteps
    exact hnot h.search.seed_visited
  | succ m =>
    rw [hdistance] at hsteps
    obtain ⟨c, hac, hc⟩ := hsteps
    have hm : m < distance R seed b := by omega
    have hvisited : visited c := h.full b rfl m c hc hm.le
    have hqueue : c ∉ b :: queue := by
      intro hmem
      have hle : distance R seed b ≤ distance R seed c := by
        rcases List.mem_cons.1 hmem with rfl | hmem
        · exact le_rfl
        · exact (List.pairwise_cons.1 (List.pairwise_append.1 h.sorted).2.1).1 c hmem
      have := distance_le hc
      omega
    exact hnot (h.search.closed c hvisited hqueue a hac)

/-- **One turn.** The head of the queue is listed, and what is found from it is appended. -/
theorem LevelInv.step (h : LevelInv R seed visited listed (b :: queue))
    (hvisited : ∀ a, visited' a ↔ visited a ∨ R a b)
    (hfresh : ∀ a, a ∈ fresh ↔ R a b ∧ ¬visited a) :
    LevelInv R seed visited' (listed ++ [b]) (queue ++ fresh) := by
  have hsearch : SearchInv R seed visited' (queue ++ fresh) := by
    apply h.search.step
    · exact fun a ha => (hvisited a).2 (.inl ha)
    · intro a ha
      by_cases hold : visited a
      · exact .inl hold
      · have hR := ((hvisited a).1 ha).resolve_left hold
        exact .inr ⟨hR, List.mem_append_right _ ((hfresh a).2 ⟨hR, hold⟩)⟩
    · exact fun a hR => (hvisited a).2 (.inr hR)
    · exact fun a ha => List.mem_append_left _ ha
    · intro a ha
      rcases List.mem_append.1 ha with ha | ha
      · exact (hvisited a).2 (.inl (h.search.stack_visited a (List.mem_cons_of_mem _ ha)))
      · exact (hvisited a).2 (.inr ((hfresh a).1 ha).1)
  have hnew : ∀ a ∈ fresh, distance R seed a = distance R seed b + 1 := fun a ha =>
    h.distance_fresh ((hfresh a).1 ha).1 ((hfresh a).1 ha).2
  have hordered := List.pairwise_append.1 h.sorted
  have hqueue := List.pairwise_cons.1 hordered.2.1
  have hall : ∀ a ∈ queue ++ fresh,
      distance R seed b ≤ distance R seed a ∧ distance R seed a ≤ distance R seed b + 1 := by
    intro a ha
    rcases List.mem_append.1 ha with ha | ha
    · exact ⟨hqueue.1 a ha, h.close b rfl a (List.mem_cons_of_mem _ ha)⟩
    · rw [hnew a ha]
      exact ⟨Nat.le_succ _, le_rfl⟩
  have hsorted : ((listed ++ [b]) ++ (queue ++ fresh)).Pairwise
      fun a b => distance R seed a ≤ distance R seed b := by
    have hlist : (listed ++ [b]) ++ (queue ++ fresh) = (listed ++ b :: queue) ++ fresh := by simp
    rw [hlist, List.pairwise_append]
    refine ⟨h.sorted, List.pairwise_of_forall_mem_list fun a ha c hc => ?_, ?_⟩
    · rw [hnew a ha, hnew c hc]
    · intro a ha c hc
      rw [hnew c hc]
      rcases List.mem_append.1 ha with ha | ha
      · exact (hordered.2.2 a ha b List.mem_cons_self).trans (Nat.le_succ _)
      · exact h.close b rfl a ha
  refine ⟨hsearch, hsorted, ?_, ?_⟩
  · intro head hhead a ha
    have hlow := (hall head (List.mem_of_mem_head? hhead)).1
    have hhigh := (hall a ha).2
    omega
  · intro head hhead n a hsteps hn
    have hmem := List.mem_of_mem_head? hhead
    have hhigh := (hall head hmem).2
    by_cases hnear : n ≤ distance R seed b
    · exact (hvisited a).2 (.inl (h.full b rfl n a hsteps hnear))
    · -- the head is one step further than `b`, and so is `a`, from an element that is closed now
      obtain rfl : n = distance R seed b + 1 := by omega
      obtain ⟨c, hac, hc⟩ := hsteps
      have hcvisited : visited' c := (hvisited c).2 (.inl (h.full b rfl _ c hc le_rfl))
      apply hsearch.closed c hcvisited _ a hac
      intro hcqueue
      have hle : distance R seed head ≤ distance R seed c := by
        rcases List.head?_eq_some_iff.1 hhead with ⟨rest, hrest⟩
        rw [hrest] at hcqueue hsorted
        rcases List.mem_cons.1 hcqueue with rfl | hcqueue
        · exact le_rfl
        · exact (List.pairwise_cons.1 (List.pairwise_append.1 hsorted).2.1).1 c hcqueue
      have := distance_le hc
      omega

end Step

/-- A finished search has listed its elements by their distance. -/
theorem LevelInv.sorted_listed {visited : α → Prop} {listed : List α}
    (h : LevelInv R seed visited listed []) :
    listed.Pairwise fun a b => distance R seed a ≤ distance R seed b := by
  have hsorted := h.sorted
  rwa [List.append_nil] at hsorted

end Library
