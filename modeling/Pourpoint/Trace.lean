import Pourpoint.FlowDirection
import Pourpoint.Library.Closure

/-!
# The upstream trace

`trace_upstream` walks the flow directions backwards from a pour point with a visited grid and a
stack. It returns the cells whose directions lead to the pour point (`traceUpstream_spec`). Each
turn of its loop takes one cell off the stack, and a cell is pushed when it is first visited, so the
unvisited cells and the stack together shrink at every turn, also where the directions run in
circles.
-/

namespace Pourpoint

open Library

/-- The direction of cell `a` leads to cell `b`. -/
def FlowsTo {state : TileState} (tile : FlowDirectionTile state) (a b : GridCoord) : Prop :=
  ∃ dir, tile.getChecked a.row a.col = some dir ∧ (b.row : ℤ) = a.row + dir.dy ∧
    (b.col : ℤ) = a.col + dir.dx

section model

variable {state : TileState} (flowDir : FlowDirectionTile state)

/-- The body of the loop over directions: visit and push the neighbour if it flows into the cell. -/
def traceNeighbor (cell : GridCoord) (st : List Bool × List GridCoord) (dir : FlowDir) :
    Exec (List Bool × List GridCoord) :=
  let nr : ℤ := cell.row + dir.dy
  let nc : ℤ := cell.col + dir.dx
  match flowDir.getChecked nr nc with
  | some neighborDir =>
    if neighborDir = dir.opposite then
      let neighbor : GridCoord := ⟨nr.toNat, nc.toNat⟩
      match st.1[neighbor.index flowDir.dims.cols]? with
      | none => .error .outOfBounds
      | some true => .ok st
      | some false =>
        .ok (st.1.set (neighbor.index flowDir.dims.cols) true, neighbor :: st.2)
    else .ok st
  | none => .ok st

/-- The loop over the stack. Its head is the top. -/
def traceLoop : ℕ → List Bool → List GridCoord → Exec (List Bool)
  | 0, _, _ => .error .outOfFuel
  | _ + 1, visited, [] => .ok visited
  | fuel + 1, visited, cell :: stack => do
    let (visited, stack) ← FlowDir.all.foldlM (traceNeighbor flowDir cell) (visited, stack)
    traceLoop fuel visited stack

/-- `trace_upstream`. -/
def traceUpstream (pourPoint : GridCoord) : Exec CatchmentMask := do
  let dims := flowDir.dims
  let visited := List.replicate (dims.rows * dims.cols) false
  if visited.length ≤ pourPoint.index dims.cols then
    throw .outOfBounds
  let visited ← traceLoop flowDir (dims.rows * dims.cols + 1)
    (visited.set (pourPoint.index dims.cols) true) [pourPoint]
  CatchmentMask.new visited dims

end model

/-! ## One turn -/

section spec

variable {state : TileState} {flowDir : FlowDirectionTile state}

/-- The cell is marked in the visited grid. -/
def VisitedAt (dims : GridDims) (visited : List Bool) (cell : GridCoord) : Prop :=
  dims.Mem cell ∧ visited.getD (cell.index dims.cols) false = true

theorem visitedAt_set {dims : GridDims} {visited : List Bool}
    (hlen : visited.length = dims.rows * dims.cols) {n : GridCoord} (hn : dims.Mem n)
    (cell : GridCoord) : VisitedAt dims (visited.set (n.index dims.cols) true) cell ↔
      VisitedAt dims visited cell ∨ cell = n := by
  have hidx : n.index dims.cols < visited.length := by
    rw [hlen]
    exact GridCoord.index_lt hn
  unfold VisitedAt
  constructor
  · rintro ⟨hmem, hget⟩
    by_cases heq : cell = n
    · exact Or.inr heq
    · have hne : n.index dims.cols ≠ cell.index dims.cols := fun h =>
        heq (GridCoord.index_injective hmem hn h.symm)
      rw [List.getD_eq_getElem?_getD, List.getElem?_set_ne hne, ← List.getD_eq_getElem?_getD] at hget
      exact Or.inl ⟨hmem, hget⟩
  · rintro (⟨hmem, hget⟩ | rfl)
    · refine ⟨hmem, ?_⟩
      by_cases heq : n.index dims.cols = cell.index dims.cols
      · rw [heq] at hidx ⊢
        rw [List.getD_eq_getElem?_getD, List.getElem?_set_self hidx]
        rfl
      · rw [List.getD_eq_getElem?_getD, List.getElem?_set_ne heq, ← List.getD_eq_getElem?_getD]
        exact hget
    · refine ⟨hn, ?_⟩
      rw [List.getD_eq_getElem?_getD, List.getElem?_set_self hidx]
      rfl

/-- A neighbour that flows into the cell is found in the opposite of its direction. -/
theorem flowsTo_iff {a b : GridCoord} : FlowsTo flowDir a b ↔
    ∃ dir : FlowDir, (a.row : ℤ) = b.row + dir.dy ∧ (a.col : ℤ) = b.col + dir.dx ∧
      flowDir.getChecked (b.row + dir.dy) (b.col + dir.dx) = some dir.opposite := by
  constructor
  · rintro ⟨dir, hget, hrow, hcol⟩
    refine ⟨dir.opposite, by rw [FlowDir.dy_opposite]; omega, by rw [FlowDir.dx_opposite]; omega, ?_⟩
    rw [FlowDir.dy_opposite, FlowDir.dx_opposite, FlowDir.opposite_opposite, hrow, hcol]
    simpa using hget
  · rintro ⟨dir, hrow, hcol, hget⟩
    rw [← hrow, ← hcol] at hget
    exact ⟨dir.opposite, hget, by rw [FlowDir.dy_opposite]; omega, by rw [FlowDir.dx_opposite]; omega⟩

/-- What the loop over a list of directions does to the visited grid and the stack. -/
structure NeighborsDone (flowDir : FlowDirectionTile state) (cell : GridCoord) (dirs : List FlowDir)
    (st st' : List Bool × List GridCoord) : Prop where
  length_eq : st'.1.length = st.1.length
  mono : ∀ a, VisitedAt flowDir.dims st.1 a → VisitedAt flowDir.dims st'.1 a
  new : ∀ a, VisitedAt flowDir.dims st'.1 a →
    VisitedAt flowDir.dims st.1 a ∨ FlowsTo flowDir a cell ∧ a ∈ st'.2
  done : ∀ dir ∈ dirs, ∀ a : GridCoord, (a.row : ℤ) = cell.row + dir.dy →
    (a.col : ℤ) = cell.col + dir.dx →
    flowDir.getChecked (cell.row + dir.dy) (cell.col + dir.dx) = some dir.opposite →
    VisitedAt flowDir.dims st'.1 a
  stack : ∀ a ∈ st.2, a ∈ st'.2
  pushed : ∀ a ∈ st'.2, a ∈ st.2 ∨ VisitedAt flowDir.dims st'.1 a
  measure : st'.1.count false + st'.2.length = st.1.count false + st.2.length

theorem traceNeighbor_spec (cell : GridCoord) (dir : FlowDir) {st : List Bool × List GridCoord}
    (hlen : st.1.length = flowDir.dims.rows * flowDir.dims.cols) :
    ∃ st', traceNeighbor flowDir cell st dir = .ok st' ∧ NeighborsDone flowDir cell [dir] st st' := by
  have hsame : (∀ a : GridCoord, (a.row : ℤ) = cell.row + dir.dy → (a.col : ℤ) = cell.col + dir.dx →
      flowDir.getChecked (cell.row + dir.dy) (cell.col + dir.dx) = some dir.opposite →
        VisitedAt flowDir.dims st.1 a) → NeighborsDone flowDir cell [dir] st st := fun hdone =>
    ⟨rfl, fun _ h => h, fun _ h => Or.inl h, by simpa using hdone, fun _ h => h, fun _ h => Or.inl h,
      rfl⟩
  cases hget : flowDir.getChecked (cell.row + dir.dy) (cell.col + dir.dx) with
  | none => exact ⟨st, by simp only [traceNeighbor, hget], hsame (by simp [hget])⟩
  | some neighborDir =>
    by_cases hdir : neighborDir = dir.opposite
    · subst hdir
      obtain ⟨n, hn, hrow, hcol⟩ := FlowDirectionTile.exists_cell_of_getChecked hget
      have hneighbor : (⟨(cell.row + dir.dy).toNat, (cell.col + dir.dx).toNat⟩ : GridCoord) = n := by
        rw [hrow, hcol]
        rfl
      have hidx : n.index flowDir.dims.cols < st.1.length := by
        rw [hlen]
        exact GridCoord.index_lt hn
      have hflows : FlowsTo flowDir n cell := flowsTo_iff.2 ⟨dir, hrow.symm, hcol.symm, hget⟩
      have honly : ∀ a : GridCoord, (a.row : ℤ) = cell.row + dir.dy →
          (a.col : ℤ) = cell.col + dir.dx → a = n := by
        intro a har hac
        have h1 : a.row = n.row := by omega
        have h2 : a.col = n.col := by omega
        cases a
        cases n
        simp_all
      cases hv : st.1[n.index flowDir.dims.cols] with
      | true =>
        refine ⟨st, ?_, hsame fun a har hac _ => ?_⟩
        · simp only [traceNeighbor, hget, if_true, hneighbor, List.getElem?_eq_getElem hidx, hv]
        · rw [honly a har hac]
          exact ⟨hn, by rw [List.getD_eq_getElem _ _ hidx, hv]⟩
      | false =>
        refine ⟨(st.1.set (n.index flowDir.dims.cols) true, n :: st.2), ?_, ?_⟩
        · simp only [traceNeighbor, hget, if_true, hneighbor, List.getElem?_eq_getElem hidx, hv]
        · have hset := visitedAt_set hlen hn
          refine ⟨by simp, fun a ha => (hset a).2 (Or.inl ha), fun a ha => ?_, ?_, by simp +contextual,
            fun a ha => ?_, ?_⟩
          · rcases (hset a).1 ha with h | rfl
            · exact Or.inl h
            · exact Or.inr ⟨hflows, by simp⟩
          · intro d hd a har hac _
            obtain rfl : d = dir := by simpa using hd
            exact (hset a).2 (Or.inr (honly a har hac))
          · rcases List.mem_cons.1 ha with rfl | ha
            · exact Or.inr ((hset a).2 (Or.inr rfl))
            · exact Or.inl ha
          · have hcount := List.count_set (a := true) (b := false) hidx
            have hpos : 0 < st.1.count false := List.count_pos_iff.2 (hv ▸ List.getElem_mem hidx)
            simp [hv] at hcount
            simp only [hcount, List.length_cons]
            omega
    · refine ⟨st, by simp only [traceNeighbor, hget, if_neg hdir], hsame fun a _ _ h => ?_⟩
      rw [hget] at h
      exact absurd (Option.some.inj h) hdir

theorem NeighborsDone.trans {cell : GridCoord} {dirs : List FlowDir} {dir : FlowDir}
    {st st' st'' : List Bool × List GridCoord} (h : NeighborsDone flowDir cell [dir] st st')
    (h' : NeighborsDone flowDir cell dirs st' st'') : NeighborsDone flowDir cell (dir :: dirs) st st'' where
  length_eq := h'.length_eq.trans h.length_eq
  mono := fun a ha => h'.mono a (h.mono a ha)
  new := by
    intro a ha
    rcases h'.new a ha with ha' | hnew
    · rcases h.new a ha' with hold | ⟨hflows, hmem⟩
      · exact Or.inl hold
      · exact Or.inr ⟨hflows, h'.stack a hmem⟩
    · exact Or.inr hnew
  done := by
    intro d hd a har hac hget
    rcases List.mem_cons.1 hd with rfl | hd
    · exact h'.mono a (h.done d (by simp) a har hac hget)
    · exact h'.done d hd a har hac hget
  stack := fun a ha => h'.stack a (h.stack a ha)
  pushed := by
    intro a ha
    rcases h'.pushed a ha with ha' | hv
    · rcases h.pushed a ha' with hold | hv
      · exact Or.inl hold
      · exact Or.inr (h'.mono a hv)
    · exact Or.inr hv
  measure := h'.measure.trans h.measure

theorem foldlM_traceNeighbor_spec (cell : GridCoord) (dirs : List FlowDir)
    {st : List Bool × List GridCoord} (hlen : st.1.length = flowDir.dims.rows * flowDir.dims.cols) :
    ∃ st', dirs.foldlM (traceNeighbor flowDir cell) st = .ok st' ∧
      NeighborsDone flowDir cell dirs st st' := by
  induction dirs generalizing st with
  | nil => exact ⟨st, rfl, rfl, fun _ h => h, fun _ h => Or.inl h, by simp, fun _ h => h,
      fun _ h => Or.inl h, rfl⟩
  | cons dir dirs ih =>
    obtain ⟨st', hrun, hdone⟩ := traceNeighbor_spec cell dir hlen
    obtain ⟨st'', hrun', hdone'⟩ := ih (hdone.length_eq.trans hlen)
    exact ⟨st'', by rw [List.foldlM_cons, hrun, ok_bind, hrun'], hdone.trans hdone'⟩

/-! ## The whole trace -/

theorem traceLoop_spec {seed : GridCoord} (fuel : ℕ) {visited : List Bool} {stack : List GridCoord}
    (hlen : visited.length = flowDir.dims.rows * flowDir.dims.cols)
    (hinv : SearchInv (FlowsTo flowDir) seed (VisitedAt flowDir.dims visited) stack)
    (hfuel : visited.count false + stack.length < fuel) :
    ∃ visited', traceLoop flowDir fuel visited stack = .ok visited' ∧
      visited'.length = flowDir.dims.rows * flowDir.dims.cols ∧
      ∀ a, VisitedAt flowDir.dims visited' a ↔ Relation.ReflTransGen (FlowsTo flowDir) a seed := by
  induction fuel generalizing visited stack with
  | zero => omega
  | succ fuel ih =>
    cases stack with
    | nil => exact ⟨visited, rfl, hlen, hinv.visited_iff⟩
    | cons cell stack =>
      have hst : (visited, stack).1.length = flowDir.dims.rows * flowDir.dims.cols := hlen
      obtain ⟨st', hrun, hdone⟩ := foldlM_traceNeighbor_spec cell FlowDir.all hst
      have hinv' : SearchInv (FlowsTo flowDir) seed (VisitedAt flowDir.dims st'.1) st'.2 := by
        refine hinv.step hdone.mono hdone.new (fun a ha => ?_) hdone.stack fun a ha => ?_
        · obtain ⟨dir, hrow, hcol, hget⟩ := flowsTo_iff.1 ha
          exact hdone.done dir dir.mem_all a hrow hcol hget
        · rcases hdone.pushed a ha with hold | hv
          · exact hdone.mono a (hinv.stack_visited a (List.mem_cons_of_mem _ hold))
          · exact hv
      have hmeasure := hdone.measure
      obtain ⟨visited', hloop, hspec⟩ :=
        ih (hdone.length_eq.trans hlen) hinv' (by simp only [List.length_cons] at *; omega)
      exact ⟨visited', by simp only [traceLoop, hrun, ok_bind, hloop], hspec⟩

/-- **The trace ends and is exact.** It marks the pour point and the cells whose directions lead to
it. -/
theorem traceUpstream_spec {pourPoint : GridCoord} (hmem : flowDir.dims.Mem pourPoint) :
    ∃ mask, traceUpstream flowDir pourPoint = .ok mask ∧ mask.dims = flowDir.dims ∧
      ∀ cell, flowDir.dims.Mem cell →
        (mask.contains cell = true ↔ Relation.ReflTransGen (FlowsTo flowDir) cell pourPoint) := by
  have hidx := GridCoord.index_lt hmem
  have hlen : (List.replicate (flowDir.dims.rows * flowDir.dims.cols) false).length =
      flowDir.dims.rows * flowDir.dims.cols := List.length_replicate
  have hvisited : ∀ a, VisitedAt flowDir.dims
      ((List.replicate (flowDir.dims.rows * flowDir.dims.cols) false).set
        (pourPoint.index flowDir.dims.cols) true) a ↔ a = pourPoint := by
    intro a
    rw [visitedAt_set hlen hmem]
    simp [VisitedAt]
  have hinv : SearchInv (FlowsTo flowDir) pourPoint (VisitedAt flowDir.dims
      ((List.replicate (flowDir.dims.rows * flowDir.dims.cols) false).set
        (pourPoint.index flowDir.dims.cols) true)) [pourPoint] := by
    rw [funext fun a => propext (hvisited a)]
    exact SearchInv.init _ _
  have hfuel : ((List.replicate (flowDir.dims.rows * flowDir.dims.cols) false).set
      (pourPoint.index flowDir.dims.cols) true).count false + [pourPoint].length <
        flowDir.dims.rows * flowDir.dims.cols + 1 := by
    have hcount := List.count_set (a := true) (b := false) (hlen ▸ hidx)
    simp at hcount ⊢
    omega
  obtain ⟨visited, hrun, hlen', hspec⟩ := traceLoop_spec _ (by simp) hinv hfuel
  refine ⟨⟨visited, flowDir.dims.rows, flowDir.dims.cols, hlen'⟩, ?_, rfl, fun cell hcell => ?_⟩
  · simp only [traceUpstream, hlen, if_neg (not_le.2 hidx), hrun, ok_bind,
      CatchmentMask.new_eq_ok hlen']
  · rw [← hspec cell]
    exact ⟨fun h => ⟨hcell, h⟩, fun h => h.2⟩

end spec

end Pourpoint
