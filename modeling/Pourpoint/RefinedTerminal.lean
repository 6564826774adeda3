import Pourpoint.Refine

/-!
# Refining a refined terminal

**Theorem (`refineTerminal_stable`).** A successful refinement returns a polygon that covers exactly
the traced cells, and running it again changes nothing: not with that polygon as the terminal, not
with any terminal whose cells lie between the traced ones and the original ones, and not with the
snapped point as the outlet.

* `IsRefinement` says what a refinement of a terminal mask is, seed and trace together. There is at
  most one (`IsRefinement.unique`), and `refine_terminal` returns it
  (`refineTerminal_eq_ok_iff`).
* A smaller terminal that keeps the trace has the same refinement (`IsRefinement.restrict`). Its seeds
  are fewer but the winner is among them, and a cell that leads to the winner leads there through
  traced cells only.
* The snapped point is the centre of the winner, so no other cell is as near to it
  (`seedKey_pixelToCoord_le`).
-/

namespace Pourpoint

open Library

/-! ## The refinement of a terminal mask -/

theorem CatchmentMask.ext_of_contains {a b : CatchmentMask} (hdims : a.dims = b.dims)
    (h : ∀ cell, a.dims.Mem cell → (a.contains cell = true ↔ b.contains cell = true)) : a = b := by
  obtain ⟨data, rows, cols, hlen⟩ := a
  obtain ⟨data', rows', cols', hlen'⟩ := b
  obtain ⟨rfl, rfl⟩ : rows = rows' ∧ cols = cols' :=
    ⟨congrArg GridDims.rows hdims, congrArg GridDims.cols hdims⟩
  obtain rfl : data = data' :=
    (⟨data', rows, cols, hlen'⟩ : CatchmentMask).eq_data hlen fun cell hcell =>
      Bool.eq_iff_iff.2 (h cell hcell)
  rfl

section refinement

variable {contains : Polygon → Coord → Bool} {flowDir : FlowDirectionTile .raw}
  {accumulation : AccumulationTile .raw} {threshold : SnapThreshold} {units : FlowAccumulationUnits}
  {frac : ℚ × ℚ} {terminal trace trace' : CatchmentMask} {result result' : RefinementResult}

theorem GridCoord.eq_of_row_of_col {a b : GridCoord} (hrow : a.row = b.row) (hcol : a.col = b.col) :
    a = b := by
  cases a
  cases b
  simp_all

theorem cell_eq_of_seedKey_eq {a b : F32} {c d : GridCoord} (h : seedKey frac a c = seedKey frac b d) :
    c = d := by
  have hpair := congrArg (fun key => (ofLex (ofLex (ofLex key).2).2)) h
  obtain ⟨hrow, hcol⟩ := Prod.ext_iff.1 hpair
  exact GridCoord.eq_of_row_of_col hrow hcol

theorem IsRefinement.unique
    (h : IsRefinement contains flowDir accumulation threshold units frac terminal trace result)
    (h' : IsRefinement contains flowDir accumulation threshold units frac terminal trace' result') :
    result = result' := by
  have hcell : result.snappedPoint.cell = result'.snappedPoint.cell :=
    cell_eq_of_seedKey_eq (le_antisymm (h.least _ h'.eligible) (h'.least _ h.eligible))
  have htrace : trace = trace' := by
    refine CatchmentMask.ext_of_contains (h.trace_dims.trans h'.trace_dims.symm) fun cell hmem => ?_
    rw [h.trace_dims] at hmem
    rw [h.trace_iff cell hmem, h'.trace_iff cell hmem, hcell]
  have hpoly : result.polygon = result'.polygon := by
    have := h.polygonize_eq
    rw [htrace, h'.polygonize_eq] at this
    exact (Option.some.inj (Except.ok.inj this)).symm
  have hcoord : result.snappedPoint.coord = result'.snappedPoint.coord := by
    rw [h.coord_eq, h'.coord_eq, hcell]
  have hacc : result.snappedPoint.accumulation = result'.snappedPoint.accumulation := by
    rw [h.accumulation_eq, h'.accumulation_eq, hcell]
  obtain ⟨⟨cell, coord, acc⟩, kind, polygon⟩ := result
  obtain ⟨⟨cell', coord', acc'⟩, kind', polygon'⟩ := result'
  cases kind
  cases kind'
  simp_all

/-- **A smaller terminal that keeps the trace has the same refinement.** -/
theorem IsRefinement.restrict
    (h : IsRefinement contains flowDir accumulation threshold units frac terminal trace result)
    {mask : CatchmentMask}
    (hlower : ∀ cell, flowDir.dims.Mem cell → trace.contains cell = true → mask.contains cell = true)
    (hupper : ∀ cell, flowDir.dims.Mem cell → mask.contains cell = true →
      terminal.contains cell = true) :
    IsRefinement contains flowDir accumulation threshold units frac mask trace result where
  eligible := by
    obtain ⟨hmem, -, hrest⟩ := h.eligible
    exact ⟨hmem, hlower _ hmem ((h.trace_iff _ hmem).2 .refl), hrest⟩
  least := by
    rintro cell ⟨hmem, hin, hrest⟩
    exact h.least cell ⟨hmem, hupper cell hmem hin, hrest⟩
  coord_eq := h.coord_eq
  accumulation_eq := h.accumulation_eq
  trace_dims := h.trace_dims
  trace_iff := by
    intro cell hmem
    rw [h.trace_iff cell hmem]
    refine (reflTransGen_iff_of_restrict (fun a b hab => ?_) (fun a b hab hb => ?_) cell).symm
    · exact ⟨hab.1, hupper a hab.1 hab.2.1, hab.2.2⟩
    · exact ⟨hab.1, hlower a hab.1 ((h.trace_iff a hab.1).2 (.head hab hb)), hab.2.2⟩
  polygonize_eq := h.polygonize_eq

/-! ## The snapped point as the outlet -/

theorem coordToPixelF64_pixelToCoord {geo : GeoTransform} (hgeo : geo.NorthUp) (cell : GridCoord) :
    geo.coordToPixelF64 (geo.pixelToCoord cell) =
      some ((cell.row : ℚ) + 1 / 2, (cell.col : ℚ) + 1 / 2) := by
  have hw : geo.pixelWidth ≠ 0 := ne_of_gt hgeo.1
  have hh : geo.pixelHeight ≠ 0 := ne_of_lt hgeo.2
  simp [GeoTransform.coordToPixelF64, GeoTransform.pixelToCoord, hw, hh]

/-- From the centre of a cell every other cell is farther than the cell itself. -/
theorem centreDistanceSquared_pos {cell other : GridCoord} (hne : other ≠ cell) :
    centreDistanceSquared (cell.row + 1 / 2, cell.col + 1 / 2) cell <
      centreDistanceSquared (cell.row + 1 / 2, cell.col + 1 / 2) other := by
  have hself : centreDistanceSquared (cell.row + 1 / 2, cell.col + 1 / 2) cell = 0 := by
    simp [centreDistanceSquared]
  have hother : centreDistanceSquared (cell.row + 1 / 2, cell.col + 1 / 2) other =
      (other.row - cell.row : ℚ) ^ 2 + (other.col - cell.col : ℚ) ^ 2 := by
    simp only [centreDistanceSquared]
    ring
  rw [hself, hother]
  by_cases hrow : other.row = cell.row
  · have hcol : other.col ≠ cell.col := fun hcol => hne (GridCoord.eq_of_row_of_col hrow hcol)
    have : (other.col - cell.col : ℚ) ≠ 0 := sub_ne_zero.2 (Nat.cast_injective.ne hcol)
    positivity
  · have : (other.row - cell.row : ℚ) ≠ 0 := sub_ne_zero.2 (Nat.cast_injective.ne hrow)
    positivity

/-- The seed is also the winner when the proximity is measured from its own centre. -/
theorem IsRefinement.recentre
    (h : IsRefinement contains flowDir accumulation threshold units frac terminal trace result) :
    IsRefinement contains flowDir accumulation threshold units
      (result.snappedPoint.cell.row + 1 / 2, result.snappedPoint.cell.col + 1 / 2) terminal trace
      result where
  eligible := h.eligible
  least := by
    intro cell _
    by_cases hcell : cell = result.snappedPoint.cell
    · rw [hcell]
    · exact le_of_lt (Prod.Lex.toLex_lt_toLex.2 (Or.inl (centreDistanceSquared_pos hcell)))
  coord_eq := h.coord_eq
  accumulation_eq := h.accumulation_eq
  trace_dims := h.trace_dims
  trace_iff := h.trace_iff
  polygonize_eq := h.polygonize_eq

end refinement

/-! ## Runs -/

section runs

variable {contains : Polygon → Coord → Bool} {terminalPolygon : MultiPolygon} {outlet : NativeCoord}
  {flowDir : FlowDirectionTile .raw} {accumulation : AccumulationTile .raw}
  {threshold : SnapThreshold} {units : FlowAccumulationUnits} {epsg : ℕ} {result : RefinementResult}

/-- A successful run has passed the checks, and the terminal has a cell. -/
theorem checks_of_refineTerminal_eq_ok (h : refineTerminal contains terminalPolygon outlet flowDir
    accumulation threshold units epsg = .ok (.ok result)) :
    d8PairIsCompatible ("EPSG:" ++ toString epsg) units.toDeclaration = true ∧
      flowDir.dims = accumulation.dims ∧ flowDir.geo = accumulation.geo ∧
      ∃ terminal : CatchmentMask, terminal.dims = flowDir.dims ∧
        rasterizeMultiPolygon terminalPolygon flowDir.geo flowDir.dims = .ok terminal.data ∧
        true ∈ terminal.data := by
  simp only [refineTerminal] at h
  split_ifs at h with hcompat hdims hgeo
  · cases h
  · cases h
  · cases h
  · obtain ⟨data, hmask, h⟩ := bind_eq_ok h
    by_cases hany : data.any id
    · simp only [hany, Bool.not_true, Bool.false_eq_true, if_false] at h
      obtain ⟨candidateMask, -, h⟩ := bind_eq_ok h
      obtain ⟨catchmentMask, hnew, -⟩ := bind_eq_ok h
      simp only [CatchmentMask.new] at hnew
      split_ifs at hnew with hlen
      obtain ⟨b, hb, rfl⟩ := List.any_eq_true.1 hany
      exact ⟨by simpa using hcompat, not_not.1 hdims, not_not.1 hgeo,
        ⟨data, flowDir.dims.rows, flowDir.dims.cols, hlen⟩, rfl, hmask, hb⟩
    · simp [hany] at h
      cases h

/-- Past its checks a run returns the refinement of the terminal mask and nothing else. -/
theorem refineTerminal_eq_ok_iff (hcompat : d8PairIsCompatible ("EPSG:" ++ toString epsg)
      units.toDeclaration = true) (hdims : flowDir.dims = accumulation.dims)
    (hgeo : flowDir.geo = accumulation.geo) {terminal : CatchmentMask}
    (htdims : terminal.dims = flowDir.dims)
    (hmask : rasterizeMultiPolygon terminalPolygon flowDir.geo flowDir.dims = .ok terminal.data)
    (htrue : true ∈ terminal.data) {frac : ℚ × ℚ}
    (hfrac : flowDir.geo.coordToPixelF64 outlet = some frac) :
    refineTerminal contains terminalPolygon outlet flowDir accumulation threshold units epsg =
        .ok (.ok result) ↔
      ∃ trace, IsRefinement contains flowDir accumulation threshold units frac terminal trace
        result := by
  rcases refineTerminal_run hcompat hdims hgeo htdims hmask htrue hfrac with ⟨e, hrun, hno⟩ |
    ⟨result', -, trace', hrun, -, -, href⟩
  · rw [hrun]
    constructor
    · intro h
      cases h
    · rintro ⟨trace, h⟩
      exact absurd ⟨_, h.eligible⟩ hno
  · rw [hrun]
    constructor
    · intro h
      obtain rfl := Except.ok.inj (Except.ok.inj h)
      exact ⟨trace', href⟩
    · rintro ⟨trace, h⟩
      rw [href.unique h]

/-- **Refining a refined terminal changes nothing.** The polygon of a successful refinement covers
exactly the cells that lead to the snapped one inside the terminal, all of them in the terminal. Every
terminal whose cells lie between the two has the same refinement, from the same outlet or from the
snapped point. -/
theorem refineTerminal_stable (hc : ContainsIsStrictInterior contains) (hnorth : flowDir.geo.NorthUp)
    (h : refineTerminal contains terminalPolygon outlet flowDir accumulation threshold units epsg =
      .ok (.ok result)) :
    ∃ terminal trace : CatchmentMask, terminal.dims = flowDir.dims ∧ trace.dims = flowDir.dims ∧
      rasterizeMultiPolygon terminalPolygon flowDir.geo flowDir.dims = .ok terminal.data ∧
      rasterizeMultiPolygon result.polygon flowDir.geo flowDir.dims = .ok trace.data ∧
      (∀ cell, flowDir.dims.Mem cell → (trace.contains cell = true ↔
        Relation.ReflTransGen (FlowsInside flowDir terminal) cell result.snappedPoint.cell)) ∧
      (∀ cell, flowDir.dims.Mem cell → trace.contains cell = true → terminal.contains cell = true) ∧
      ∀ (polygon : MultiPolygon) (mask : CatchmentMask) (point : NativeCoord),
        (point = outlet ∨ point = result.snappedPoint.coord) → mask.dims = flowDir.dims →
        rasterizeMultiPolygon polygon flowDir.geo flowDir.dims = .ok mask.data →
        (∀ cell, flowDir.dims.Mem cell → trace.contains cell = true → mask.contains cell = true) →
        (∀ cell, flowDir.dims.Mem cell → mask.contains cell = true →
          terminal.contains cell = true) →
        refineTerminal contains polygon point flowDir accumulation threshold units epsg =
          .ok (.ok result) := by
  obtain ⟨hcompat, hdims, hgeo, terminal, htdims, hmask, htrue⟩ := checks_of_refineTerminal_eq_ok h
  obtain ⟨frac, hfrac⟩ := exists_coordToPixelF64 hmask htrue outlet
  obtain ⟨trace, href⟩ := (refineTerminal_eq_ok_iff hcompat hdims hgeo htdims hmask htrue hfrac).1 h
  refine ⟨terminal, trace, htdims, href.trace_dims, hmask, ?_, href.trace_iff, fun cell => href.trace_le,
    ?_⟩
  · rw [← href.trace_dims]
    exact rasterize_of_polygonize hc hnorth href.polygonize_eq
  · intro polygon mask point hpoint hmdims hpolygon hlower hupper
    have href' := href.restrict hlower hupper
    have hmtrue : true ∈ mask.data :=
      CatchmentMask.true_mem_data (hmdims ▸ href'.eligible.1) href'.eligible.2.1
    rcases hpoint with rfl | rfl
    · exact (refineTerminal_eq_ok_iff hcompat hdims hgeo hmdims hpolygon hmtrue hfrac).2 ⟨_, href'⟩
    · have hcentre := coordToPixelF64_pixelToCoord hnorth result.snappedPoint.cell
      rw [← href.coord_eq] at hcentre
      exact (refineTerminal_eq_ok_iff hcompat hdims hgeo hmdims hpolygon hmtrue hcentre).2
        ⟨_, href'.recentre⟩

/-- The two cells of the example are refined, and refined again from the snapped point. -/
theorem refineTerminal_stable_example :
    ∃ result, refineTerminal strictInterior exampleTerminal ⟨0, 0⟩ exampleFlowDir exampleAccumulation
        ⟨2, by decide⟩ .cells 4326 = .ok (.ok result) ∧
      refineTerminal strictInterior result.polygon result.snappedPoint.coord exampleFlowDir
        exampleAccumulation ⟨2, by decide⟩ .cells 4326 = .ok (.ok result) := by
  have hnorth : exampleFlowDir.geo.NorthUp := by decide
  rcases @refineTerminal_run strictInterior exampleFlowDir exampleAccumulation ⟨2, by decide⟩ .cells
    exampleTerminal ⟨0, 0⟩ 4326 (by decide +kernel) rfl rfl exampleMask rfl (by decide +kernel)
    (by decide) _ rfl with ⟨e, -, hno⟩ | ⟨result, -, -, hrun, -⟩
  · refine absurd ⟨⟨0, 1⟩, ?_⟩ hno
    refine ⟨by decide, by decide, by decide +kernel, ?_⟩
    decide +kernel
  · obtain ⟨terminal, trace, -, htdims, -, htrace, -, hle, hstable⟩ :=
      refineTerminal_stable containsIsStrictInterior_strictInterior hnorth hrun
    exact ⟨result, hrun, hstable _ trace _ (Or.inr rfl) htdims htrace (fun _ _ h => h) hle⟩

end runs

end Pourpoint
