import Pourpoint.Export.Identity
import Pourpoint.Library.Contiguous
import Pourpoint.Machine

/-!
# Row groups of an export

`plan_row_groups` splits the rows into groups whose sizes differ by at most one. From 4096 rows on every
size is between 4096 and 8192, so the check after the split never fails (`planRowGroups_spec`).
-/

namespace Pourpoint

open Library

/-- The fewest rows of a balanced group. -/
def minBalancedRowGroupSize : ℕ := 4096

/-- The rows of a group. -/
def targetRowGroupSize : ℕ := 8192

/-- The sizes of `groupCount` balanced groups. -/
def balancedSizes (rowCount groupCount : ℕ) : List ℕ :=
  (List.range groupCount).map fun index =>
    rowCount / groupCount + if index < rowCount % groupCount then 1 else 0

/-- `plan_row_groups`. -/
def planRowGroups (rowCount : ℕ) : Except ExportError (List ℕ) :=
  if rowCount = 0 then
    .error (.rowGroupPlanningFailure rowCount "empty exports are not row-group plannable")
  else
    let sizes := if rowCount < minBalancedRowGroupSize then [rowCount]
      else balancedSizes rowCount (divCeil rowCount targetRowGroupSize)
    if rowCount < minBalancedRowGroupSize ∨
        ∀ size ∈ sizes, minBalancedRowGroupSize ≤ size ∧ size ≤ targetRowGroupSize then
      .ok sizes
    else .error (.rowGroupPlanningFailure rowCount
      "balanced row groups fall outside the legal size range")

/-- The slices of the loop of both writers: `&rows[start..end]` for each size of the plan. -/
def rowGroupSlices {α : Type} (rows : List α) : List ℕ → ℕ → Exec (List (List α))
  | [], _ => .ok []
  | size :: sizes, start => do
    let stop ← addU64 start size
    let batch ← readSlice rows start size
    let batches ← rowGroupSlices rows sizes stop
    .ok (batch :: batches)

/-! ## The sizes -/

theorem sum_balanced (base remainder groupCount : ℕ) :
    ((List.range groupCount).map fun index => base + if index < remainder then 1 else 0).sum =
      groupCount * base + min groupCount remainder := by
  induction groupCount with
  | zero => simp
  | succ groupCount ih =>
    rw [List.range_succ, List.map_append, List.sum_append, ih, Nat.add_one_mul]
    simp only [List.map_cons, List.map_nil, List.sum_cons, List.sum_nil]
    split_ifs <;> omega

theorem sum_balancedSizes {rowCount groupCount : ℕ} (hpos : 0 < groupCount) :
    (balancedSizes rowCount groupCount).sum = rowCount := by
  have hmod := Nat.mod_lt rowCount hpos
  rw [balancedSizes, sum_balanced, min_eq_right hmod.le]
  exact Nat.div_add_mod rowCount groupCount

theorem balancedSizes_bounds {rowCount groupCount size : ℕ}
    (hsize : size ∈ balancedSizes rowCount groupCount) :
    rowCount / groupCount ≤ size ∧
      (size = rowCount / groupCount + 1 ∧ 0 < rowCount % groupCount ∨ size = rowCount / groupCount) := by
  obtain ⟨index, -, rfl⟩ := List.mem_map.1 hsize
  split_ifs with h
  · exact ⟨by omega, Or.inl ⟨rfl, by omega⟩⟩
  · exact ⟨by omega, Or.inr rfl⟩

/-- The number of groups for the target size keeps every size within the policy. -/
theorem balancedSizes_legal {rowCount size : ℕ} (hmin : minBalancedRowGroupSize ≤ rowCount)
    (hsize : size ∈ balancedSizes rowCount (divCeil rowCount targetRowGroupSize)) :
    minBalancedRowGroupSize ≤ size ∧ size ≤ targetRowGroupSize := by
  have htarget : 0 < targetRowGroupSize := by decide
  have hpos : 0 < divCeil rowCount targetRowGroupSize := by
    rw [lt_divCeil htarget, Nat.zero_mul]
    exact lt_of_lt_of_le (by decide) hmin
  obtain ⟨hlow, hhigh⟩ := balancedSizes_bounds hsize
  have hdivision := Nat.div_add_mod rowCount (divCeil rowCount targetRowGroupSize)
  -- The groups are enough for the target, and one group fewer is not.
  have henough : rowCount ≤ divCeil rowCount targetRowGroupSize * targetRowGroupSize := by
    by_contra h
    exact absurd ((lt_divCeil htarget).2 (not_le.1 h)) (lt_irrefl _)
  have hfewer : (divCeil rowCount targetRowGroupSize - 1) * targetRowGroupSize < rowCount :=
    (lt_divCeil htarget).1 (by omega)
  generalize divCeil rowCount targetRowGroupSize = groupCount at *
  unfold minBalancedRowGroupSize targetRowGroupSize at *
  constructor
  · refine le_trans ?_ hlow
    rw [Nat.le_div_iff_mul_le hpos]
    omega
  · have hquotient : rowCount / groupCount ≤ 8192 := Nat.div_le_of_le_mul henough
    rcases hhigh with ⟨rfl, hrest⟩ | rfl
    · have hstrict : rowCount / groupCount ≠ 8192 := by
        intro heq
        rw [heq] at hdivision
        omega
      omega
    · exact hquotient

/-! ## The slices -/

theorem rowGroupSlices_eq_ok {α : Type} {rows : List α} {sizes : List ℕ} {start : ℕ}
    (hstart : start + sizes.sum ≤ rows.length) (hmachine : rows.length < 2 ^ 64) :
    rowGroupSlices rows sizes start = .ok ((spans start sizes).map (slice rows)) := by
  induction sizes generalizing start with
  | nil => rfl
  | cons size sizes ih =>
    rw [List.sum_cons] at hstart
    rw [rowGroupSlices, addU64_eq_ok (by omega), ok_bind, readSlice_eq_ok (by omega), ok_bind,
      ih (by omega), ok_bind, spans, List.map_cons, slice, Nat.add_sub_cancel_left]

/-- The slices of a plan have its sizes, and put together they are the rows. -/
theorem rowGroupSlices_covers {α : Type} {rows : List α} {sizes : List ℕ}
    (hpos : ∀ size ∈ sizes, 0 < size) (hsum : sizes.sum = rows.length)
    (hmachine : rows.length < 2 ^ 64) :
    ∃ batches, rowGroupSlices rows sizes 0 = .ok batches ∧ batches.map List.length = sizes ∧
      batches.flatten = rows := by
  have hcontiguous := contiguous_spans hpos 0
  rw [Nat.zero_add, hsum] at hcontiguous
  refine ⟨_, rowGroupSlices_eq_ok (by omega) hmachine, ?_, ?_⟩
  · calc ((spans 0 sizes).map (slice rows)).map List.length
        = (spans 0 sizes).map (fun range => range.2 - range.1) := by
          rw [List.map_map]
          refine List.map_congr_left ?_
          intro range hrange
          exact length_slice (hcontiguous.bounds hrange).2.2
      _ = sizes := spans_map_length 0 sizes
  · rw [← List.flatMap_def, hcontiguous.flatMap_slice rows le_rfl, slice_all]

/-- **Row-group planning.** Every positive number of rows has a plan within the policy, and the writers'
slices of it are the rows, each once. -/
theorem planRowGroups_spec {rowCount : ℕ} (hrows : 0 < rowCount) :
    ∃ sizes, planRowGroups rowCount = .ok sizes ∧ (∀ size ∈ sizes, 0 < size) ∧
      sizes.sum = rowCount ∧ (∀ a ∈ sizes, ∀ b ∈ sizes, a ≤ b + 1) ∧
      (4096 ≤ rowCount → ∀ size ∈ sizes, 4096 ≤ size ∧ size ≤ 8192) ∧
      ∀ (α : Type) (rows : List α), rows.length = rowCount → rowCount < 2 ^ 64 →
        ∃ batches, rowGroupSlices rows sizes 0 = .ok batches ∧ batches.map List.length = sizes ∧
          batches.flatten = rows := by
  unfold planRowGroups
  rw [if_neg hrows.ne']
  rcases Nat.lt_or_ge rowCount minBalancedRowGroupSize with hsmall | hmin
  · dsimp only
    rw [if_pos hsmall, if_pos (Or.inl hsmall)]
    have hpos : ∀ size ∈ [rowCount], 0 < size := by simpa using hrows
    refine ⟨_, rfl, hpos, List.sum_singleton, by simp, ?_, ?_⟩
    · intro hlarge
      exact absurd hsmall (not_lt.2 hlarge)
    · intro α rows hlength hmachine
      exact rowGroupSlices_covers hpos (by rw [List.sum_singleton, hlength]) (hlength ▸ hmachine)
  · have hlegal := fun size => @balancedSizes_legal rowCount size hmin
    have hgroups : 0 < divCeil rowCount targetRowGroupSize := by
      rw [lt_divCeil (by decide), Nat.zero_mul]
      exact hrows
    have hpos : ∀ size ∈ balancedSizes rowCount (divCeil rowCount targetRowGroupSize), 0 < size :=
      fun size hsize => lt_of_lt_of_le (by decide) (hlegal size hsize).1
    dsimp only
    rw [if_neg (not_lt.2 hmin), if_pos (Or.inr hlegal)]
    refine ⟨_, rfl, hpos, sum_balancedSizes hgroups, ?_, fun _ => hlegal, ?_⟩
    · intro a ha b hb
      have hhigh := (balancedSizes_bounds ha).2
      have hlow := (balancedSizes_bounds hb).1
      omega
    · intro α rows hlength hmachine
      exact rowGroupSlices_covers hpos (by rw [sum_balancedSizes hgroups, hlength])
        (hlength ▸ hmachine)

/-- One row more than the target. -/
theorem planRowGroups_spec_8193 : ∃ sizes, planRowGroups 8193 = .ok sizes ∧ sizes.sum = 8193 ∧
    (∀ size ∈ sizes, 4096 ≤ size ∧ size ≤ 8192) ∧
    ∃ batches, rowGroupSlices (List.range 8193) sizes 0 = .ok batches ∧
      batches.flatten = List.range 8193 := by
  obtain ⟨sizes, hplan, -, hsum, -, hlegal, hslices⟩ := planRowGroups_spec (by decide : 0 < 8193)
  obtain ⟨batches, hbatches, -, hflatten⟩ :=
    hslices ℕ (List.range 8193) List.length_range (by decide)
  exact ⟨sizes, hplan, hsum, hlegal (by decide), batches, hbatches, hflatten⟩

example : planRowGroups 9000 = .ok [4500, 4500] := by decide +kernel

end Pourpoint
