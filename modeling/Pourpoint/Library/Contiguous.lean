import Mathlib.Data.List.Basic
import Mathlib.Tactic

/-!
# Contiguous ranges

Nonempty ranges, each of which starts where the one before it ends, cut a list into pieces. The pieces
put together are the list from the first start to the last end (`flatMap_slice`). Rising cut points give
such ranges (`contiguous_cuts`), and so does a list of positive sizes (`contiguous_spans`).
-/

namespace Library

variable {α : Type*}

/-- The elements with an index in the range. -/
def slice (l : List α) (range : ℕ × ℕ) : List α := (l.drop range.1).take (range.2 - range.1)

/-- Nonempty ranges from `start` to `stop`, in order and without a gap. -/
def Contiguous (start : ℕ) : List (ℕ × ℕ) → ℕ → Prop
  | [], stop => start = stop
  | range :: ranges, stop => range.1 = start ∧ start < range.2 ∧ Contiguous range.2 ranges stop

namespace Contiguous

variable {start stop : ℕ} {ranges : List (ℕ × ℕ)}

theorem le (h : Contiguous start ranges stop) : start ≤ stop := by
  induction ranges generalizing start with
  | nil => exact h.le
  | cons range ranges ih =>
    obtain ⟨-, hlt, hrest⟩ := h
    exact hlt.le.trans (ih hrest)

theorem bounds (h : Contiguous start ranges stop) {range : ℕ × ℕ} (hrange : range ∈ ranges) :
    start ≤ range.1 ∧ range.1 < range.2 ∧ range.2 ≤ stop := by
  induction ranges generalizing start with
  | nil => exact absurd hrange List.not_mem_nil
  | cons first ranges ih =>
    obtain ⟨hstart, hlt, hrest⟩ := h
    rcases List.mem_cons.1 hrange with rfl | hmem
    · exact ⟨hstart.ge, hstart ▸ hlt, hrest.le⟩
    · obtain ⟨hle, hpos, hstop⟩ := ih hrest hmem
      exact ⟨by omega, hpos, hstop⟩

/-- The pieces put together. -/
theorem flatMap_slice (h : Contiguous start ranges stop) (l : List α) (hstop : stop ≤ l.length) :
    ranges.flatMap (slice l) = slice l (start, stop) := by
  induction ranges generalizing start with
  | nil =>
    obtain rfl : start = stop := h
    simp [slice]
  | cons range ranges ih =>
    obtain ⟨hstart, hlt, hrest⟩ := h
    have hle := hrest.le
    rw [List.flatMap_cons, ih hrest]
    unfold slice
    have hsplit : stop - start = (range.2 - start) + (stop - range.2) := by omega
    have hdrop : start + (range.2 - start) = range.2 := by omega
    rw [hstart, hsplit, List.take_add, List.drop_drop, hdrop]

end Contiguous

theorem slice_all (l : List α) : slice l (0, l.length) = l := by simp [slice]

theorem length_slice {l : List α} {range : ℕ × ℕ} (h : range.2 ≤ l.length) :
    (slice l range).length = range.2 - range.1 := by
  simp only [slice, List.length_take, List.length_drop]
  omega

theorem contiguous_cuts (cut : ℕ → ℕ) (n : ℕ) (h : ∀ i < n, cut i < cut (i + 1)) :
    Contiguous (cut 0) ((List.range n).map fun i => (cut i, cut (i + 1))) (cut n) := by
  induction n generalizing cut with
  | zero => rfl
  | succ n ih =>
    rw [List.range_succ_eq_map, List.map_cons, List.map_map]
    exact ⟨rfl, h 0 n.succ_pos, ih (fun i => cut (i + 1)) fun i hi => h (i + 1) (by omega)⟩

/-- The ranges of these sizes, one after the other. -/
def spans (start : ℕ) : List ℕ → List (ℕ × ℕ)
  | [] => []
  | size :: sizes => (start, start + size) :: spans (start + size) sizes

theorem contiguous_spans {sizes : List ℕ} (h : ∀ size ∈ sizes, 0 < size) (start : ℕ) :
    Contiguous start (spans start sizes) (start + sizes.sum) := by
  induction sizes generalizing start with
  | nil => rfl
  | cons size sizes ih =>
    have hpos := h size List.mem_cons_self
    have hrest := ih (fun s hs => h s (List.mem_cons_of_mem _ hs)) (start + size)
    refine ⟨rfl, by dsimp only; omega, ?_⟩
    rw [List.sum_cons, ← Nat.add_assoc]
    exact hrest

theorem spans_map_length (start : ℕ) (sizes : List ℕ) :
    (spans start sizes).map (fun range => range.2 - range.1) = sizes := by
  induction sizes generalizing start with
  | nil => rfl
  | cons size sizes ih =>
    rw [spans, List.map_cons, ih, Nat.add_sub_cancel_left]

end Library
