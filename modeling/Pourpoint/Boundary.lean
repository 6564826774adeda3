import Pourpoint.Lattice.Nesting
import Pourpoint.RingAssembly

/-!
# The boundary of a mask

The mask is read as a region of the integer lattice, empty outside the grid. The edges that
`extract_edges` collects are exactly the boundary edges of that region, once each
(`mem_extractEdges`, `nodup_extractEdges`), and every vertex is left as often as it is entered
(`divergence_extractEdges`). So `assemble_rings` succeeds on them and its rings decompose the
boundary (`exists_rings`, `MaskRings.isDecomposition`).

A ring that starts towards the south does so below and right of a cell of the region
(`MaskRings.inner_corner`). This needs the order of the pushes: the edge to the north out of such
a vertex, if there were one, would be still unused and lead back before the start.
-/

namespace Pourpoint

open Lattice

/-! ## The region of a mask -/

/-- The mask as a region of the lattice. -/
def CatchmentMask.region (mask : CatchmentMask) (x : Point) : Bool :=
  decide (0 ≤ x.1 ∧ x.1 < mask.rows ∧ 0 ≤ x.2 ∧ x.2 < mask.cols) &&
    mask.contains ⟨x.1.toNat, x.2.toNat⟩

namespace CatchmentMask

variable (mask : CatchmentMask)

theorem region_natCast {r c : ℕ} (hr : r < mask.rows) (hc : c < mask.cols) :
    mask.region (r, c) = mask.contains ⟨r, c⟩ := by
  simp [region, hr, hc]

theorem region_eq_false {x : Point}
    (h : ¬(0 ≤ x.1 ∧ x.1 < mask.rows ∧ 0 ≤ x.2 ∧ x.2 < mask.cols)) : mask.region x = false := by
  simp only [region, h, decide_false, Bool.false_and]

theorem exists_cell_of_region {x : Point} (h : mask.region x = true) :
    ∃ r c : ℕ, r < mask.rows ∧ c < mask.cols ∧ x = ((r : ℤ), (c : ℤ)) := by
  obtain ⟨a, b⟩ := x
  simp only [region, Bool.and_eq_true, decide_eq_true_eq] at h
  obtain ⟨⟨h0, hr, h0', hc⟩, -⟩ := h
  lift a to ℕ using h0
  lift b to ℕ using h0'
  exact ⟨a, b, by omega, by omega, rfl⟩

theorem inQuadrant_region : InQuadrant mask.region := by
  intro x hx
  obtain ⟨r, c, -, -, rfl⟩ := mask.exists_cell_of_region hx
  exact ⟨Int.natCast_nonneg r, Int.natCast_nonneg c⟩

end CatchmentMask

/-- A pixel corner as a point of the lattice. -/
def toPoint (v : Vertex) : Point := (v.1, v.2)

/-- A directed edge of the source as an edge of the lattice. -/
def toEdge (e : DirectedEdge) : Edge := (toPoint e.1, toPoint e.2)

theorem toPoint_injective : Function.Injective toPoint := by
  rintro ⟨a, b⟩ ⟨c, d⟩ h
  simpa [toPoint] using h

theorem toEdge_injective : Function.Injective toEdge := by
  intro e e' h
  obtain ⟨h1, h2⟩ := Prod.mk.inj h
  exact Prod.ext (toPoint_injective h1) (toPoint_injective h2)

theorem segments_map_toPoint (ring : Ring) :
    segments (ring.map toPoint) = (segments ring).map toEdge :=
  segments_map toPoint ring

theorem precedes_toPoint {p q : Vertex} : Precedes (toPoint p) (toPoint q) ↔ VertexLe p q := by
  simp [Precedes, VertexLe, toPoint]

/-! ## The edges of a cell -/

/-- The tests of `extract_edges` at the border of the grid read the region outside it. -/
theorem cellEdges_eq (mask : CatchmentMask) {r c : ℕ} (hr : r < mask.rows) (hc : c < mask.cols) :
    cellEdges mask r c =
      if mask.region (r, c) then
        (if mask.region (r - 1, c) then [] else [((r, c), (r, c + 1))]) ++
        (if mask.region (r + 1, c) then [] else [((r + 1, c + 1), (r + 1, c))]) ++
        (if mask.region (r, c - 1) then [] else [((r + 1, c), (r, c))]) ++
        (if mask.region (r, c + 1) then [] else [((r, c + 1), (r + 1, c + 1))])
      else [] := by
  have hnorth : mask.region (r - 1, c) = !(r = 0 || !mask.contains ⟨r - 1, c⟩) := by
    cases r with
    | zero => exact mask.region_eq_false (by simp)
    | succ r => simpa using mask.region_natCast (by omega) hc
  have hsouth : mask.region (r + 1, c) = !(r + 1 = mask.rows || !mask.contains ⟨r + 1, c⟩) := by
    by_cases h : r + 1 = mask.rows
    · rw [mask.region_eq_false (by simp; omega)]
      simp [h]
    · simpa [h] using mask.region_natCast (r := r + 1) (by omega) hc
  have hwest : mask.region (r, c - 1) = !(c = 0 || !mask.contains ⟨r, c - 1⟩) := by
    cases c with
    | zero => exact mask.region_eq_false (by simp)
    | succ c => simpa using mask.region_natCast hr (by omega)
  have heast : mask.region (r, c + 1) = !(c + 1 = mask.cols || !mask.contains ⟨r, c + 1⟩) := by
    by_cases h : c + 1 = mask.cols
    · rw [mask.region_eq_false (by simp; omega)]
      simp [h]
    · simpa [h] using mask.region_natCast (c := c + 1) hr (by omega)
  have hflip : ∀ (b : Bool) (l : List DirectedEdge),
      (if (!b) = true then [] else l) = if b = true then l else [] := by
    intro b l
    cases b <;> rfl
  rw [cellEdges, mask.region_natCast hr hc, hnorth, hsouth, hwest, heast]
  simp only [hflip]

/-- The edges of a cell are the boundary edges with the cell on their right. -/
theorem mem_cellEdges (mask : CatchmentMask) {r c : ℕ} (hr : r < mask.rows) (hc : c < mask.cols)
    (e : Edge) : e ∈ (cellEdges mask r c).map toEdge ↔
      IsBoundary mask.region e ∧ rightCell e = ((r : ℤ), (c : ℤ)) := by
  have hmem : e ∈ (cellEdges mask r c).map toEdge ↔ mask.region (r, c) = true ∧
      (mask.region (r - 1, c) = false ∧ e = toEdge ((r, c), (r, c + 1)) ∨
        mask.region (r + 1, c) = false ∧ e = toEdge ((r + 1, c + 1), (r + 1, c)) ∨
        mask.region (r, c - 1) = false ∧ e = toEdge ((r + 1, c), (r, c)) ∨
        mask.region (r, c + 1) = false ∧ e = toEdge ((r, c + 1), (r + 1, c + 1))) := by
    rw [cellEdges_eq mask hr hc]
    split_ifs <;> simp_all [@eq_comm _ e]
  rw [hmem]
  constructor
  · rintro ⟨h0, ⟨h, rfl⟩ | ⟨h, rfl⟩ | ⟨h, rfl⟩ | ⟨h, rfl⟩⟩
    all_goals
      simp only [toEdge, toPoint, Nat.cast_add, Nat.cast_one]
      exact ⟨⟨by simp [Lattice.IsUnit], by simpa using h0, by simpa using h⟩, by simp⟩
  · rintro ⟨⟨hu, hR, hL⟩, hcell⟩
    rw [hcell] at hR
    refine ⟨hR, ?_⟩
    obtain ⟨⟨a, b⟩, v⟩ := e
    rcases isUnit_from hu with rfl | rfl | rfl | rfl
    · obtain ⟨rfl, rfl⟩ : a = r ∧ b = c := by simpa using hcell
      exact Or.inl ⟨by simpa using hL, by simp [toEdge, toPoint]⟩
    · obtain ⟨rfl, rfl⟩ : a = r + 1 ∧ b = c + 1 := by simp at hcell; omega
      exact Or.inr (Or.inl ⟨by simpa using hL, by simp [toEdge, toPoint]⟩)
    · obtain ⟨rfl, rfl⟩ : a = r ∧ b = c + 1 := by simp at hcell; omega
      exact Or.inr (Or.inr (Or.inr ⟨by simpa using hL, by simp [toEdge, toPoint]⟩))
    · obtain ⟨rfl, rfl⟩ : a = r + 1 ∧ b = c := by simp at hcell; omega
      exact Or.inr (Or.inr (Or.inl ⟨by simpa using hL, by simp [toEdge, toPoint]⟩))

theorem nodup_cellEdges (mask : CatchmentMask) (r c : ℕ) : (cellEdges mask r c).Nodup := by
  unfold cellEdges
  split_ifs <;> simp

/-! ## All edges -/

theorem mem_rowEdges (mask : CatchmentMask) {r : ℕ} (hr : r < mask.rows) (e : Edge) :
    e ∈ (rowEdges mask r).map toEdge ↔ IsBoundary mask.region e ∧ (rightCell e).1 = r := by
  simp only [rowEdges, List.map_flatMap, List.mem_flatMap, List.mem_range]
  constructor
  · rintro ⟨c, hc, he⟩
    obtain ⟨hb, hcell⟩ := (mem_cellEdges mask hr hc e).1 he
    exact ⟨hb, by rw [hcell]⟩
  · rintro ⟨hb, hrow⟩
    obtain ⟨r', c, -, hc, hcell⟩ := mask.exists_cell_of_region hb.right
    refine ⟨c, hc, (mem_cellEdges mask hr hc e).2 ⟨hb, ?_⟩⟩
    rw [hcell] at hrow ⊢
    simpa using hrow

/-- **The collected edges are the boundary.** -/
theorem mem_extractEdges (mask : CatchmentMask) (e : Edge) :
    e ∈ (extractEdges mask).map toEdge ↔ IsBoundary mask.region e := by
  simp only [extractEdges, List.map_flatMap, List.mem_flatMap, List.mem_range]
  constructor
  · rintro ⟨r, hr, he⟩
    exact ((mem_rowEdges mask hr e).1 he).1
  · intro hb
    obtain ⟨r, c, hr, -, hcell⟩ := mask.exists_cell_of_region hb.right
    exact ⟨r, hr, (mem_rowEdges mask hr e).2 ⟨hb, by rw [hcell]⟩⟩

theorem nodup_rowEdges (mask : CatchmentMask) {r : ℕ} (hr : r < mask.rows) :
    (rowEdges mask r).Nodup := by
  refine List.nodup_flatMap.2 ⟨fun c _ => nodup_cellEdges mask r c, ?_⟩
  refine List.nodup_range.imp_of_mem fun {c c'} hc hc' hne e he he' => hne ?_
  have h := (mem_cellEdges mask hr (List.mem_range.1 hc) _).1 (List.mem_map_of_mem he)
  have h' := (mem_cellEdges mask hr (List.mem_range.1 hc') _).1 (List.mem_map_of_mem he')
  simpa using h.2.symm.trans h'.2

/-- **No edge is collected twice.** -/
theorem nodup_extractEdges (mask : CatchmentMask) : (extractEdges mask).Nodup := by
  refine List.nodup_flatMap.2 ⟨fun r hr => nodup_rowEdges mask (List.mem_range.1 hr), ?_⟩
  refine List.nodup_range.imp_of_mem fun {r r'} hr hr' hne e he he' => hne ?_
  have h := (mem_rowEdges mask (List.mem_range.1 hr) _).1 (List.mem_map_of_mem he)
  have h' := (mem_rowEdges mask (List.mem_range.1 hr') _).1 (List.mem_map_of_mem he')
  simpa using h.2.symm.trans h'.2

/-! ## Balance -/

/-- The region as a number. -/
def CatchmentMask.weight (mask : CatchmentMask) (x : Point) : ℤ := if mask.region x then 1 else 0

/-- A cell sends out a closed square, less the sides it shares with cells of the region. The shared
sides of a cell and of its neighbour cancel. -/
theorem divergence_cellEdges (mask : CatchmentMask) (f : Vertex → ℤ) {r c : ℕ} (hr : r < mask.rows)
    (hc : c < mask.cols) :
    divergence f (cellEdges mask r c) =
      (mask.weight (r + 1, c) * mask.weight (r, c) * (f (r + 1, c + 1) - f (r + 1, c)) -
        mask.weight (r, c) * mask.weight (r - 1, c) * (f (r, c + 1) - f (r, c))) +
      (mask.weight (r, c + 1) * mask.weight (r, c) * (f (r, c + 1) - f (r + 1, c + 1)) -
        mask.weight (r, c) * mask.weight (r, c - 1) * (f (r, c) - f (r + 1, c))) := by
  rw [cellEdges_eq mask hr hc]
  simp only [CatchmentMask.weight]
  split_ifs <;> simp [divergence] <;> ring

theorem sum_map_range (f : ℕ → ℤ) (n : ℕ) :
    ((List.range n).map f).sum = ∑ i ∈ Finset.range n, f i := rfl

theorem divergence_flatMap {α : Type} (f : Vertex → ℤ) (l : List α) (g : α → List DirectedEdge) :
    divergence f (l.flatMap g) = (l.map fun a => divergence f (g a)).sum := by
  induction l with
  | nil => rfl
  | cons a l ih => simp_all [divergence]

/-- **Every vertex is left as often as it is entered.** -/
theorem divergence_extractEdges (mask : CatchmentMask) (f : Vertex → ℤ) :
    divergence f (extractEdges mask) = 0 := by
  have hout : ∀ x : Point, ¬(0 ≤ x.1 ∧ x.1 < mask.rows ∧ 0 ≤ x.2 ∧ x.2 < mask.cols) →
      mask.weight x = 0 := fun x hx => by
    rw [CatchmentMask.weight, mask.region_eq_false hx]
    rfl
  simp only [extractEdges, rowEdges, divergence_flatMap, sum_map_range]
  rw [Finset.sum_congr rfl fun r hr => Finset.sum_congr rfl fun c hc =>
    divergence_cellEdges mask f (Finset.mem_range.1 hr) (Finset.mem_range.1 hc)]
  simp only [Finset.sum_add_distrib]
  -- The shared sides telescope along each column and along each row.
  have hcolumns : ∀ c : ℕ, ∑ r ∈ Finset.range mask.rows,
      (mask.weight (r + 1, c) * mask.weight (r, c) * (f (r + 1, c + 1) - f (r + 1, c)) -
        mask.weight (r, c) * mask.weight (r - 1, c) * (f (r, c + 1) - f (r, c))) = 0 := by
    intro c
    have htele := Finset.sum_range_sub (fun r : ℕ => mask.weight (r, c) * mask.weight (r - 1, c) *
      (f (r, c + 1) - f (r, c))) mask.rows
    simp only [Nat.cast_add, Nat.cast_one, add_sub_cancel_right, Nat.cast_zero] at htele
    rw [htele, hout (mask.rows, c) (by simp), hout (0 - 1, c) (by simp)]
    ring
  have hrows : ∀ r : ℕ, ∑ c ∈ Finset.range mask.cols,
      (mask.weight (r, c + 1) * mask.weight (r, c) * (f (r, c + 1) - f (r + 1, c + 1)) -
        mask.weight (r, c) * mask.weight (r, c - 1) * (f (r, c) - f (r + 1, c))) = 0 := by
    intro r
    have htele := Finset.sum_range_sub (fun c : ℕ => mask.weight (r, c) * mask.weight (r, c - 1) *
      (f (r, c) - f (r + 1, c))) mask.cols
    simp only [Nat.cast_add, Nat.cast_one, add_sub_cancel_right, Nat.cast_zero] at htele
    rw [htele, hout (r, mask.cols) (by simp), hout (r, 0 - 1) (by simp)]
    ring
  rw [Finset.sum_comm, Finset.sum_eq_zero fun c _ => hcolumns c,
    Finset.sum_eq_zero fun r _ => hrows r, add_zero]

/-! ## The rings of a mask -/

/-- The rings that `assemble_rings` makes of the edges of a mask. -/
def MaskRings (mask : CatchmentMask) (rings : List Ring) : Prop := RingsOf (extractEdges mask) rings

/-- A ring as a polyline of the lattice. -/
def loop (ring : Ring) : List Point := ring.map toPoint

/-- **Ring assembly succeeds on every mask.** -/
theorem exists_rings (mask : CatchmentMask) :
    ∃ rings, assembleRings (extractEdges mask) = .ok rings ∧ MaskRings mask rings :=
  assembleRings_spec (divergence_extractEdges mask)

section rings

variable {mask : CatchmentMask} {rings : List Ring} (h : MaskRings mask rings)

include h

/-- The rings of a mask decompose the boundary of its region. -/
theorem MaskRings.isDecomposition : IsDecomposition mask.region (rings.map loop) := by
  have hflat : (rings.map loop).flatMap segments = (rings.flatMap segments).map toEdge := by
    rw [List.map_flatMap, List.flatMap_map]
    simp only [loop, segments_map_toPoint]
  refine ⟨?_, ?_, ?_, ?_⟩
  · rintro w hw
    obtain ⟨ring, hring, rfl⟩ := List.mem_map.1 hw
    exact (h.closed ring hring).map toPoint
  · rintro w hw
    obtain ⟨ring, hring, rfl⟩ := List.mem_map.1 hw
    rw [loop, segments_map_toPoint]
    simpa using h.nonempty ring hring
  · rw [hflat]
    exact (h.perm.nodup_iff.2 (nodup_extractEdges mask)).map toEdge_injective
  · intro e
    rw [hflat, (h.perm.map toEdge).mem_iff, mem_extractEdges]

theorem MaskRings.isLoop {w : Ring} (hw : w ∈ rings) : IsLoop mask.region (loop w) :=
  h.isDecomposition.isLoop (List.mem_map_of_mem hw)

theorem MaskRings.precedes {w : Ring} (hw : w ∈ rings) {p : Point} (hp : p ∈ (loop w).head?)
    {v : Point} (hv : v ∈ loop w) : Precedes p v := by
  rw [loop, List.head?_map] at hp
  obtain ⟨p', hp', rfl⟩ := Option.mem_map.1 hp
  obtain ⟨v', hv', rfl⟩ := List.mem_map.1 hv
  exact precedes_toPoint.2 (h.first w hw p' hp' v' hv')

theorem MaskRings.outer_or_inner {w : Ring} (hw : w ∈ rings) : Outer (loop w) ∨ Inner (loop w) :=
  (h.isLoop hw).outer_or_inner fun _ hp _ hv => h.precedes hw hp hv

theorem MaskRings.disjoint {w t : Ring} (hw : w ∈ rings) (ht : t ∈ rings) (hne : w ≠ t) :
    (segments (loop w)).Disjoint (segments (loop t)) :=
  h.isDecomposition.disjoint (List.mem_map_of_mem hw) (List.mem_map_of_mem ht)
    fun heq => hne (List.map_injective_iff.2 toPoint_injective heq)

end rings

/-- **Ring assembly is total and exact.** On the edges of any mask it returns, and the rings it
returns are closed, have at least four edges each and use every boundary edge exactly once. -/
theorem assembleRings_extractEdges (mask : CatchmentMask) :
    ∃ rings, assembleRings (extractEdges mask) = .ok rings ∧
      (rings.flatMap segments).Perm (extractEdges mask) ∧ (rings.flatMap segments).Nodup ∧
      (∀ e, e ∈ (rings.flatMap segments).map toEdge ↔ IsBoundary mask.region e) ∧
      ∀ ring ∈ rings, Closed ring ∧ 4 ≤ (segments ring).length := by
  obtain ⟨rings, hrun, h⟩ := exists_rings mask
  refine ⟨rings, hrun, h.perm, h.perm.nodup_iff.2 (nodup_extractEdges mask), fun e => ?_,
    fun ring hring => ⟨h.closed ring hring, ?_⟩⟩
  · rw [(h.perm.map toEdge).mem_iff, mem_extractEdges]
  · have hfour := (h.isLoop hring).four_le_length
    rwa [loop, segments_map_toPoint, List.length_map] at hfour

theorem prefix_of_concat_le {α : Type} {x a b : List α} {q : α} (h : x ++ [q] <+: a ++ b)
    (hq : q ∉ a) : a <+: x := by
  rcases List.prefix_or_prefix_of_prefix h (List.prefix_append a b) with hle | hle
  · exact absurd (hle.subset (by simp)) hq
  · rcases List.prefix_concat_iff.1 hle with rfl | hle
    · simp at hq
    · exact hle

/-- Where a vertex has edges to the north and to the south, the one to the north is pushed first:
its cell is in the row above. -/
theorem north_pushed_before_south (mask : CatchmentMask) {r c : ℕ} {x : List Vertex}
    (hnorth : ((r + 1, c), (r, c)) ∈ extractEdges mask)
    (hx : x ++ [(r + 1 + 1, c)] <+: outs (extractEdges mask) (r + 1, c)) : (r, c) ∈ x := by
  have hsplit : ∀ (e : DirectedEdge) (n : ℕ), n ≤ mask.rows →
      (e ∈ (List.range n).flatMap (rowEdges mask) ↔
        IsBoundary mask.region (toEdge e) ∧ (rightCell (toEdge e)).1 < n) := by
    intro e n hn
    simp only [List.mem_flatMap, List.mem_range]
    constructor
    · rintro ⟨i, hi, he⟩
      obtain ⟨hb, hrow⟩ := (mem_rowEdges mask (by omega) _).1 (List.mem_map_of_mem he)
      exact ⟨hb, by rw [hrow]; exact_mod_cast hi⟩
    · rintro ⟨hb, hrow⟩
      obtain ⟨i, j, hi, -, hcell⟩ := mask.exists_cell_of_region hb.right
      have hmem := (mem_rowEdges mask hi _).2 ⟨hb, by rw [hcell]⟩
      rw [hcell] at hrow
      exact ⟨i, by simpa using hrow, (List.mem_map_of_injective toEdge_injective).1 hmem⟩
  have hN := (mem_extractEdges mask _).1 (List.mem_map_of_mem hnorth)
  obtain ⟨i, j, hi, -, hcell⟩ := mask.exists_cell_of_region hN.right
  have hright : rightCell (toEdge ((r + 1, c), (r, c))) = ((r : ℤ), (c : ℤ)) := by
    simp [toEdge, toPoint]
  have hrows : r + 1 ≤ mask.rows := by
    rw [hright] at hcell
    simp only [Prod.mk.injEq, Nat.cast_inj] at hcell
    omega
  -- The edges of the rows up to `r` come first, and the edge to the south is not among them.
  have hedges : extractEdges mask = (List.range (r + 1)).flatMap (rowEdges mask) ++
      ((List.range (mask.rows - (r + 1))).map (r + 1 + ·)).flatMap (rowEdges mask) := by
    rw [extractEdges, ← List.flatMap_append, ← List.range_add, Nat.add_sub_cancel' hrows]
  rw [hedges, outs_append] at hx
  have hsouth : (r + 1 + 1, c) ∉ outs ((List.range (r + 1)).flatMap (rowEdges mask)) (r + 1, c) := by
    rw [mem_outs, hsplit _ _ hrows]
    rintro ⟨-, hrow⟩
    simp only [toEdge, toPoint, Nat.cast_add, Nat.cast_one, rightCell_south] at hrow
    omega
  refine (prefix_of_concat_le hx hsouth).subset (mem_outs.2 ((hsplit _ _ hrows).2 ⟨hN, ?_⟩))
  rw [hright]
  simp

/-- **The first vertex of an inner ring** has the region on its other three sides. -/
theorem MaskRings.inner_corner {mask : CatchmentMask} {rings : List Ring} (h : MaskRings mask rings)
    {w : Ring} (hw : w ∈ rings) {r c : ℤ} {l : List Point} (hl : loop w = (r, c) :: (r + 1, c) :: l) :
    mask.region (r, c) = false ∧ mask.region (r, c - 1) = true ∧ mask.region (r - 1, c) = true ∧
      mask.region (r - 1, c - 1) = true := by
  have hloop := h.isLoop hw
  have hmin : ∀ v ∈ loop w, Precedes (r, c) v := fun v hv => h.precedes hw (by simp [hl]) hv
  have hsouth := hloop.boundary ((r, c), (r + 1, c)) (by simp [hl])
  have hfalse : mask.region (r, c) = false := by simpa using hsouth.left
  -- The ring returns from the east: from the south it would have `(r, c)` on its right.
  have heast : mask.region (r - 1, c) = true := by
    obtain ⟨u, hu⟩ := exists_segment_to hloop.closed hloop.nonempty (v := (r, c)) (by simp [hl])
    have hb := hloop.boundary _ hu
    have hle := hmin u (left_mem_of_mem_segments hu)
    rcases isUnit_to hb.isUnit with rfl | rfl | rfl | rfl
    · simp [Precedes] at hle
    · simpa using hb.right
    · simp [Precedes] at hle
      omega
    · have := hb.right
      simp [hfalse] at this
  refine ⟨hfalse, by simpa using hsouth.right, heast, ?_⟩
  by_contra hcorner
  have hnorth : IsBoundary mask.region ((r, c), (r - 1, c)) :=
    ⟨by simp [Lattice.IsUnit], by simpa using heast, by simpa using hcorner⟩
  obtain ⟨⟨⟨a, b⟩, ⟨a', b'⟩⟩, hmem, heq⟩ := List.mem_map.1 ((mem_extractEdges mask _).2 hnorth)
  obtain ⟨⟨rfl, rfl⟩, ha, hb⟩ : ((a : ℤ) = r ∧ (b : ℤ) = c) ∧ (a' : ℤ) = r - 1 ∧ (b' : ℤ) = c := by
    simpa [toEdge, toPoint] using heq
  obtain ⟨rfl, rfl⟩ : a = a' + 1 ∧ b = b' := by omega
  obtain ⟨p, q, l', rfl, hp, hq⟩ : ∃ p q l', w = p :: q :: l' ∧
      toPoint p = (((a' + 1 : ℕ) : ℤ), (b : ℤ)) ∧
      toPoint q = (((a' + 1 : ℕ) : ℤ) + 1, (b : ℤ)) := by
    obtain ⟨p, w', rfl, hp, hw'⟩ := List.map_eq_cons_iff.1 hl
    obtain ⟨q, l', rfl, hq, -⟩ := List.map_eq_cons_iff.1 hw'
    exact ⟨p, q, l', rfl, hp, hq⟩
  obtain rfl : p = (a' + 1, b) := toPoint_injective hp
  obtain rfl : q = (a' + 1 + 1, b) := toPoint_injective (by rw [hq]; simp [toPoint])
  obtain ⟨x, hx, hle⟩ := h.pushOrder _ _ _ hw
  have := hle _ (north_pushed_before_south mask hmem hx)
  simp [VertexLe] at this

/-- A mask without boundary has no cell. -/
theorem extractEdges_eq_nil_iff (mask : CatchmentMask) :
    extractEdges mask = [] ↔ ∀ cell, mask.dims.Mem cell → mask.contains cell = false := by
  constructor
  · intro hnil cell hcell
    have hdec : IsDecomposition mask.region [] :=
      ⟨by simp, by simp, by simp, fun e => by rw [← mem_extractEdges, hnil]; simp⟩
    have hsum := hdec.sum_winding mask.inQuadrant_region (cell.row, cell.col)
    rw [mask.region_natCast hcell.1 hcell.2] at hsum
    by_contra hne
    simp [hne] at hsum
  · intro hfalse
    rw [List.eq_nil_iff_forall_not_mem]
    intro e he
    have hb := (mem_extractEdges mask _).1 (List.mem_map_of_mem he)
    obtain ⟨r, c, hr, hc, hcell⟩ := mask.exists_cell_of_region hb.right
    have hright := hb.right
    rw [hcell, mask.region_natCast hr hc, hfalse _ ⟨hr, hc⟩] at hright
    cases hright

end Pourpoint
