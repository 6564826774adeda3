import Mathlib.Tactic

/-!
# Polylines

A polyline is a list of points; its *segments* are the pairs of consecutive points. Everything
here is about lists over an arbitrary type.

* `sum_segments_sub`: a difference summed over the segments telescopes, so over a closed polyline
  it is zero.
* `even_countP_segments`: a closed polyline changes sides of any set an even number of times.
-/

namespace Lattice

variable {α β : Type*}

/-! ## Segments -/

/-- The consecutive pairs of a polyline, in order. -/
def segments (l : List α) : List (α × α) := l.zip l.tail

@[simp] theorem segments_nil : segments ([] : List α) = [] := rfl

@[simp] theorem segments_singleton (a : α) : segments [a] = [] := rfl

@[simp] theorem segments_cons_cons (a b : α) (l : List α) :
    segments (a :: b :: l) = (a, b) :: segments (b :: l) := rfl

theorem segments_map (f : α → β) (l : List α) :
    segments (l.map f) = (segments l).map (Prod.map f f) := by
  simp only [segments, ← List.map_tail, List.zip_map]

theorem segments_append_cons (l : List α) (a : α) (m : List α) :
    segments (l ++ a :: m) = segments (l ++ [a]) ++ segments (a :: m) := by
  induction l with
  | nil => simp
  | cons b l ih =>
    cases l with
    | nil => simp
    | cons c l => simpa using ih

theorem segments_append_pair (l : List α) (a b : α) :
    segments (l ++ [a] ++ [b]) = segments (l ++ [a]) ++ [(a, b)] := by
  rw [List.append_assoc, List.singleton_append, segments_append_cons]
  simp

theorem segments_reverse (l : List α) :
    segments l.reverse = (segments l).reverse.map Prod.swap := by
  induction l with
  | nil => rfl
  | cons a l ih =>
    cases l with
    | nil => rfl
    | cons b l =>
      simp only [List.reverse_cons] at ih ⊢
      rw [segments_append_pair, ih]
      simp

theorem left_mem_of_mem_segments {l : List α} {e : α × α} (h : e ∈ segments l) : e.1 ∈ l :=
  (List.of_mem_zip (a := e.1) (b := e.2) h).1

theorem right_mem_of_mem_segments {l : List α} {e : α × α} (h : e ∈ segments l) : e.2 ∈ l :=
  List.mem_of_mem_tail (List.of_mem_zip (a := e.1) (b := e.2) h).2

theorem isChain_segments (l : List α) : (segments l).IsChain fun e e' => e.2 = e'.1 := by
  induction l with
  | nil => simp
  | cons a l ih =>
    cases l with
    | nil => simp
    | cons b l =>
      cases l with
      | nil => simp
      | cons c l => exact List.isChain_cons_cons.2 ⟨rfl, ih⟩

/-! ## Closed polylines -/

/-- A polyline that ends where it starts. -/
def Closed (l : List α) : Prop := l.head? = l.getLast?

instance [DecidableEq α] (l : List α) : Decidable (Closed l) :=
  inferInstanceAs (Decidable (_ = _))

theorem Closed.map {l : List α} (h : Closed l) (f : α → β) : Closed (l.map f) := by
  unfold Closed at *
  rw [List.head?_map, List.getLast?_map, h]

theorem Closed.reverse {l : List α} (h : Closed l) : Closed l.reverse := by
  unfold Closed at *
  rw [List.head?_reverse, List.getLast?_reverse, h]

theorem Closed.getLast_cons {a : α} {l : List α} (h : Closed (a :: l)) :
    (a :: l).getLast (by simp) = a := by
  unfold Closed at h
  rw [List.getLast?_eq_getLast_of_ne_nil (by simp)] at h
  simpa using h.symm

theorem Closed.eq_of_segments_eq_pair {l : List α} (hc : Closed l) {e e' : α × α}
    (h : segments l = [e, e']) : ∃ a b, e = (a, b) ∧ e' = (b, a) := by
  rcases l with _ | ⟨a, _ | ⟨b, _ | ⟨d, _ | ⟨x, l⟩⟩⟩⟩
  case cons.cons.cons.nil =>
    obtain rfl : a = d := by simpa [Closed] using hc
    simp only [segments_cons_cons, segments_singleton, List.cons.injEq] at h
    exact ⟨a, b, h.1.symm, h.2.1.symm⟩
  all_goals simp at h

/-- Every vertex of a closed polyline with a segment starts one of its segments. -/
theorem Closed.exists_segment_from {l : List α} (hc : Closed l) (hne : segments l ≠ []) {v : α}
    (hv : v ∈ l) : ∃ w, (v, w) ∈ segments l := by
  -- Every vertex but the last starts a segment, and the last vertex is the first one.
  have key : ∀ (m : List α) (v : α), v ∈ m → (∃ w, (v, w) ∈ segments m) ∨ m.getLast? = some v := by
    intro m
    induction m with
    | nil => simp
    | cons a m ih =>
      intro v hv
      cases m with
      | nil => simp_all
      | cons b m =>
        rcases List.mem_cons.1 hv with rfl | hv
        · exact Or.inl ⟨b, by simp⟩
        · rcases ih v hv with ⟨w, hw⟩ | h
          · exact Or.inl ⟨w, by simp [hw]⟩
          · exact Or.inr (by simpa using h)
  rcases key l v hv with h | h
  · exact h
  · match l, hc, hne, h with
    | a :: b :: m, hc, _, h =>
      have : a = v := by
        unfold Closed at hc
        rw [h] at hc
        simpa using hc
      exact ⟨b, by simp [this]⟩

theorem exists_segment_to {l : List α} (hc : Closed l) (hne : segments l ≠ []) {v : α}
    (hv : v ∈ l) : ∃ w, (w, v) ∈ segments l := by
  have hne' : segments l.reverse ≠ [] := by
    rw [segments_reverse]
    simpa using hne
  obtain ⟨w, hw⟩ := hc.reverse.exists_segment_from hne' (List.mem_reverse.2 hv)
  rw [segments_reverse] at hw
  obtain ⟨e, he, heq⟩ := List.mem_map.1 hw
  obtain ⟨rfl, rfl⟩ := Prod.mk.inj heq
  exact ⟨e.1, List.mem_reverse.1 he⟩

theorem sum_segments_sub_eq (f : α → ℤ) (a : α) (l : List α) :
    ((segments (a :: l)).map fun e => f e.2 - f e.1).sum =
      f ((a :: l).getLast (by simp)) - f a := by
  induction l generalizing a with
  | nil => simp
  | cons b l ih =>
    rw [segments_cons_cons, List.map_cons, List.sum_cons, ih b]
    simp

/-- **Telescoping.** Over a closed polyline a summed difference vanishes. -/
theorem Closed.sum_segments_sub {l : List α} (h : Closed l) (f : α → ℤ) :
    ((segments l).map fun e => f e.2 - f e.1).sum = 0 := by
  cases l with
  | nil => simp
  | cons a l => rw [sum_segments_sub_eq, h.getLast_cons, sub_self]

/-! ## Side changes -/

theorem even_countP_segments_add (P : α → Bool) (a : α) (l : List α) :
    Even ((segments (a :: l)).countP (fun e => P e.1 != P e.2) +
      if P a != P ((a :: l).getLast (by simp)) then 1 else 0) := by
  induction l generalizing a with
  | nil => simp
  | cons b l ih =>
    have hb := ih b
    rw [segments_cons_cons, List.countP_cons]
    rw [List.getLast_cons (by simp)]
    generalize P ((b :: l).getLast _) = z at hb ⊢
    generalize (segments (b :: l)).countP _ = n at hb ⊢
    cases hPa : P a <;> cases hPb : P b <;> cases z <;>
      simp_all [Nat.even_add_one, parity_simps]

/-- **Side changes are even.** A closed polyline crosses between a set and its complement an even
number of times. -/
theorem Closed.even_countP_segments {l : List α} (h : Closed l) (P : α → Bool) :
    Even ((segments l).countP fun e => P e.1 != P e.2) := by
  cases l with
  | nil => simp
  | cons a l => simpa [h.getLast_cons] using even_countP_segments_add P a l

end Lattice
