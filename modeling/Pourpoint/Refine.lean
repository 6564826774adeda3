import Pourpoint.RoundTrip
import Pourpoint.Snap
import Pourpoint.Trace

/-!
# Terminal refinement

`refine_terminal` rasterizes the terminal polygon, ranks its usable cells against a reference point,
traces upstream of the winner inside the terminal and polygonizes the trace. Two masks are in play:
seeds must lie in the terminal and have usable flow semantics, while the trace only asks for terminal
membership. `refineTerminal_spec` describes the result in terms of the two tiles and the terminal
mask alone.
-/

namespace Pourpoint

/-! ## Supported declarations -/

/-- The CRS of a D8 raster. -/
inductive D8Crs where
  | epsg4326 | epsg8857
  deriving DecidableEq, Repr

/-- The coordinate reference system that a declaration claims. -/
def claimedD8Crs (declaration : String) : Option D8Crs :=
  if declaration = "EPSG:4326" then some .epsg4326
  else if declaration = "EPSG:8857" then some .epsg8857
  else none

/-- The units that a declaration claims. -/
def claimedD8FlowAccumulationUnits (declaration : String) : Option FlowAccumulationUnits :=
  if declaration = "cells" then some .cells
  else if declaration = "km2" then some .km2
  else none

/-- `Display` of the units: the exact declaration. -/
def FlowAccumulationUnits.toDeclaration : FlowAccumulationUnits → String
  | .cells => "cells"
  | .km2 => "km2"

/-- `d8_pair_is_compatible`. -/
def d8PairIsCompatible (crsDeclaration unitsDeclaration : String) : Bool :=
  match claimedD8Crs crsDeclaration, claimedD8FlowAccumulationUnits unitsDeclaration with
  | some .epsg4326, some .cells => true
  | some .epsg8857, some .cells => true
  | some .epsg8857, some .km2 => true
  | _, _ => false

/-! ## The refinement -/

/-- Errors of a raster source. -/
inductive RasterSourceError where
  | fileNotFound (path : String)
  | openFailed (path : String) (reason : String)
  | readFailed (path : String) (reason : String)
  | emptyWindow (path : String)
  | tileConstruction (reason : String)
  | invalidFlowDirectionNodata (nodata : UInt8) (encoding : FlowDirEncoding)
  deriving DecidableEq, Repr

/-- The last three come from the loader around `refine_terminal`. -/
inductive RefinementError where
  | dimensionMismatch (fdRows fdCols accRows accCols : ℕ)
  | geoTransformMismatch (rows cols : ℕ)
  | emptyRasterMask (rows cols : ℕ)
  | maskFailed (source : RasterTileError)
  | snapFailed (source : SnapError)
  | emptyPolygonization
  | geographicKm2Unsupported (epsg : ℕ) (units : FlowAccumulationUnits)
  | degenerateTerminalPolygon
  | rasterLoad (source : RasterSourceError)
  | inverseProjection (epsg : ℕ) (reason : String)
  deriving DecidableEq, Repr

/-- The rule that produced the raster seed. -/
inductive RasterSeedKind where
  | rasterRanked
  deriving DecidableEq, Repr

structure RefinementResult where
  snappedPoint : SnappedPoint
  seedKind : RasterSeedKind
  polygon : MultiPolygon

/-- The cells of the mask with usable flow semantics. -/
def candidateMaskData (flowDir : FlowDirectionTile .raw) (maskData : List Bool) : List Bool :=
  maskData.mapIdx fun index inside =>
    inside && (flowDir.decodedCell (flowDir.dims.cellAt index)).isSome

/-- `refine_terminal`. -/
def refineTerminal (contains : Polygon → Coord → Bool) (terminalPolygon : MultiPolygon)
    (outlet : NativeCoord) (flowDir : FlowDirectionTile .raw) (accumulation : AccumulationTile .raw)
    (threshold : SnapThreshold) (units : FlowAccumulationUnits) (epsg : ℕ) :
    Exec (Except RefinementError RefinementResult) :=
  if !d8PairIsCompatible ("EPSG:" ++ toString epsg) units.toDeclaration then
    .ok (.error (.geographicKm2Unsupported epsg units))
  else if flowDir.dims ≠ accumulation.dims then
    .ok (.error (.dimensionMismatch flowDir.dims.rows flowDir.dims.cols accumulation.dims.rows
      accumulation.dims.cols))
  else if flowDir.geo ≠ accumulation.geo then
    .ok (.error (.geoTransformMismatch flowDir.dims.rows flowDir.dims.cols))
  else do
    let maskData ← rasterizeMultiPolygon terminalPolygon flowDir.geo flowDir.dims
    if !maskData.any id then
      return .error (.emptyRasterMask flowDir.dims.rows flowDir.dims.cols)
    let candidateMask ← CatchmentMask.new (candidateMaskData flowDir maskData) flowDir.dims
    let catchmentMask ← CatchmentMask.new maskData flowDir.dims
    match flowDir.applyMask catchmentMask with
    | .error source => return .error (.maskFailed source)
    | .ok maskedFlowDir =>
      match accumulation.applyMask candidateMask with
      | .error source => return .error (.maskFailed source)
      | .ok maskedAcc =>
        match snapPourPoint outlet maskedAcc threshold units epsg with
        | .error source => return .error (.snapFailed source)
        | .ok snapped =>
          let traceMask ← traceUpstream maskedFlowDir snapped.cell
          match ← polygonize contains traceMask flowDir.geo with
          | none => return .error .emptyPolygonization
          | some polygon => return .ok ⟨snapped, .rasterRanked, polygon⟩

/-! ## What the refinement computes -/

/-- A cell that may be selected: in the terminal, with usable flow semantics and a finite
accumulation at or above the effective threshold. -/
def SeedEligible (flowDir : FlowDirectionTile .raw) (accumulation : AccumulationTile .raw)
    (terminal : CatchmentMask) (threshold : SnapThreshold) (units : FlowAccumulationUnits)
    (cell : GridCoord) : Prop :=
  flowDir.dims.Mem cell ∧ terminal.contains cell = true ∧ (flowDir.decodedCell cell).isSome = true ∧
    ReachesThreshold (accumulation.getRaw cell) (effectiveThreshold threshold units flowDir.geo)

/-- The decoded direction of a terminal cell leads to the next cell. -/
def FlowsInside (flowDir : FlowDirectionTile .raw) (terminal : CatchmentMask) (a b : GridCoord) :
    Prop :=
  flowDir.dims.Mem a ∧ terminal.contains a = true ∧
    ∃ dir, flowDir.decodedCell a = some (.direction dir) ∧
      (b.row : ℤ) = a.row + dir.dy ∧ (b.col : ℤ) = a.col + dir.dx

theorem contains_candidateMask {flowDir : FlowDirectionTile .raw} {data : List Bool}
    (hlen : data.length = flowDir.dims.rows * flowDir.dims.cols)
    (hlen' : (candidateMaskData flowDir data).length = flowDir.dims.rows * flowDir.dims.cols)
    {cell : GridCoord} (hcell : flowDir.dims.Mem cell) :
    CatchmentMask.contains ⟨candidateMaskData flowDir data, _, _, hlen'⟩ cell =
      (CatchmentMask.contains ⟨data, _, _, hlen⟩ cell && (flowDir.decodedCell cell).isSome) := by
  have hidx : cell.index flowDir.dims.cols < data.length := by
    rw [hlen]
    exact GridCoord.index_lt hcell
  have hidx' : cell.index flowDir.dims.cols < (candidateMaskData flowDir data).length := by
    rw [hlen']
    exact GridCoord.index_lt hcell
  rw [CatchmentMask.contains, CatchmentMask.contains, List.getD_eq_getElem _ _ hidx',
    List.getD_eq_getElem _ _ hidx]
  simp only [candidateMaskData, List.getElem_mapIdx, GridDims.cellAt_index hcell]

/-- A masked accumulation reaches a threshold only inside the mask. -/
theorem reachesThreshold_applyMask {accumulation : AccumulationTile .raw} {mask : CatchmentMask}
    (hdims : mask.dims = accumulation.dims) :
    ∃ masked, accumulation.applyMask mask = .ok masked ∧ masked.dims = accumulation.dims ∧
      masked.geo = accumulation.geo ∧
      ∀ cell, accumulation.dims.Mem cell → ∀ threshold,
        (ReachesThreshold (masked.getRaw cell) threshold ↔
          mask.contains cell = true ∧ ReachesThreshold (accumulation.getRaw cell) threshold) ∧
        (mask.contains cell = true → masked.getRaw cell = accumulation.getRaw cell) := by
  rw [AccumulationTile.applyMask, dif_pos hdims]
  refine ⟨_, rfl, rfl, rfl, fun cell hcell threshold => ?_⟩
  have hget : (accumulation.inner.overwrite .nan mask hdims).get cell =
      if mask.contains cell then accumulation.inner.get cell else .nan :=
    RasterTile.get_overwrite hdims hcell
  simp only [AccumulationTile.getRaw]
  rw [hget]
  cases mask.contains cell with
  | true => simp
  | false =>
    have hnan : ¬ReachesThreshold .nan threshold := fun h => absurd h.1 (by decide)
    simp [hnan]

theorem flowsTo_applyMask {flowDir : FlowDirectionTile .raw} {terminal : CatchmentMask}
    (hdims : terminal.dims = flowDir.dims) :
    ∃ masked, flowDir.applyMask terminal = .ok masked ∧ masked.dims = flowDir.dims ∧
      FlowsTo masked = FlowsInside flowDir terminal := by
  obtain ⟨masked, happly, hmdims, hget⟩ := FlowDirectionTile.getChecked_applyMask hdims
  refine ⟨masked, happly, hmdims, ?_⟩
  funext a b
  refine propext ⟨?_, ?_⟩
  · rintro ⟨dir, hdir, hrow, hcol⟩
    obtain ⟨hmem, hin, hdec⟩ := (hget a dir).1 hdir
    exact ⟨hmem, hin, dir, hdec, hrow, hcol⟩
  · rintro ⟨hmem, hin, dir, hdec, hrow, hcol⟩
    exact ⟨dir, (hget a dir).2 ⟨hmem, hin, hdec⟩, hrow, hcol⟩

/-- After its checks the refinement snaps in the masked accumulation and traces the masked
directions. -/
theorem refineTerminal_eq {contains : Polygon → Coord → Bool} {terminalPolygon : MultiPolygon}
    {outlet : NativeCoord} {flowDir : FlowDirectionTile .raw} {accumulation : AccumulationTile .raw}
    {threshold : SnapThreshold} {units : FlowAccumulationUnits} {epsg : ℕ} {data : List Bool}
    {masked : FlowDirectionTile .masked} {maskedAcc : AccumulationTile .masked}
    (hcompat : d8PairIsCompatible ("EPSG:" ++ toString epsg) units.toDeclaration = true)
    (hdims : flowDir.dims = accumulation.dims) (hgeo : flowDir.geo = accumulation.geo)
    (hmask : rasterizeMultiPolygon terminalPolygon flowDir.geo flowDir.dims = .ok data)
    (htrue : true ∈ data) (hlen : data.length = flowDir.dims.rows * flowDir.dims.cols)
    (hclen : (candidateMaskData flowDir data).length = flowDir.dims.rows * flowDir.dims.cols)
    (hflow : flowDir.applyMask ⟨data, _, _, hlen⟩ = .ok masked)
    (hacc : accumulation.applyMask ⟨candidateMaskData flowDir data, _, _, hclen⟩ = .ok maskedAcc) :
    refineTerminal contains terminalPolygon outlet flowDir accumulation threshold units epsg =
      match snapPourPoint outlet maskedAcc threshold units epsg with
      | .error source => return .error (.snapFailed source)
      | .ok snapped => do
        let traceMask ← traceUpstream masked snapped.cell
        match ← polygonize contains traceMask flowDir.geo with
        | none => return .error .emptyPolygonization
        | some polygon => return .ok ⟨snapped, .rasterRanked, polygon⟩ := by
  have hany : data.any id = true := List.any_eq_true.2 ⟨true, htrue, rfl⟩
  simp only [refineTerminal, hcompat, hmask, ok_bind, hany, CatchmentMask.new_eq_ok hlen,
    CatchmentMask.new_eq_ok hclen, hflow, hacc]
  simp [hdims, hgeo]

/-! ## Runs past the checks -/

section runs

variable {contains : Polygon → Coord → Bool} {flowDir : FlowDirectionTile .raw}
  {accumulation : AccumulationTile .raw} {threshold : SnapThreshold} {units : FlowAccumulationUnits}

/-- The candidates of the snap are the eligible cells, with their accumulation unchanged. -/
theorem exists_maskedAccumulation {data : List Bool} (hdims : flowDir.dims = accumulation.dims)
    (hgeo : flowDir.geo = accumulation.geo)
    (hlen : data.length = flowDir.dims.rows * flowDir.dims.cols)
    (hclen : (candidateMaskData flowDir data).length = flowDir.dims.rows * flowDir.dims.cols) :
    ∃ masked, accumulation.applyMask ⟨candidateMaskData flowDir data, _, _, hclen⟩ = .ok masked ∧
      masked.geo = flowDir.geo ∧
      ∀ cell, (SeedEligible flowDir accumulation ⟨data, _, _, hlen⟩ threshold units cell ↔
          masked.dims.Mem cell ∧ ReachesThreshold (masked.getRaw cell)
            (effectiveThreshold threshold units masked.geo)) ∧
        (SeedEligible flowDir accumulation ⟨data, _, _, hlen⟩ threshold units cell →
          masked.getRaw cell = accumulation.getRaw cell) := by
  have hcdims : (⟨candidateMaskData flowDir data, _, _, hclen⟩ : CatchmentMask).dims =
      accumulation.dims := hdims
  obtain ⟨masked, hacc, hadims, hageo, hreach⟩ := reachesThreshold_applyMask hcdims
  refine ⟨masked, hacc, hageo.trans hgeo.symm, fun cell => ⟨?_, fun hcell => ?_⟩⟩
  · rw [SeedEligible, hadims, hageo, ← hgeo, ← hdims]
    refine and_congr_right fun hcell => ?_
    rw [(hreach cell (hdims ▸ hcell) _).1, contains_candidateMask hlen hclen hcell,
      Bool.and_eq_true, and_assoc]
  · refine (hreach cell (hdims ▸ hcell.1) (effectiveThreshold threshold units flowDir.geo)).2 ?_
    rw [contains_candidateMask hlen hclen hcell.1, hcell.2.1, hcell.2.2.1]
    rfl

/-- The result of refining a terminal mask: the eligible cell with the least key, and the polygons of
the cells that lead to it inside the terminal. -/
structure IsRefinement (contains : Polygon → Coord → Bool) (flowDir : FlowDirectionTile .raw)
    (accumulation : AccumulationTile .raw) (threshold : SnapThreshold) (units : FlowAccumulationUnits)
    (frac : ℚ × ℚ) (terminal trace : CatchmentMask) (result : RefinementResult) : Prop where
  eligible : SeedEligible flowDir accumulation terminal threshold units result.snappedPoint.cell
  least : ∀ cell, SeedEligible flowDir accumulation terminal threshold units cell →
    seedKey frac (accumulation.getRaw result.snappedPoint.cell) result.snappedPoint.cell ≤
      seedKey frac (accumulation.getRaw cell) cell
  coord_eq : result.snappedPoint.coord = flowDir.geo.pixelToCoord result.snappedPoint.cell
  accumulation_eq :
    result.snappedPoint.accumulation = accumulation.getRaw result.snappedPoint.cell
  trace_dims : trace.dims = flowDir.dims
  trace_iff : ∀ cell, flowDir.dims.Mem cell → (trace.contains cell = true ↔
    Relation.ReflTransGen (FlowsInside flowDir terminal) cell result.snappedPoint.cell)
  polygonize_eq : polygonize contains trace flowDir.geo = .ok (some result.polygon)

theorem IsRefinement.trace_le {frac : ℚ × ℚ} {terminal trace : CatchmentMask} {result : RefinementResult}
    (h : IsRefinement contains flowDir accumulation threshold units frac terminal trace result)
    {cell : GridCoord} (hmem : flowDir.dims.Mem cell) (hin : trace.contains cell = true) :
    terminal.contains cell = true := by
  rcases Relation.ReflTransGen.cases_head ((h.trace_iff cell hmem).1 hin) with heq | ⟨b, hstep, -⟩
  · rw [heq]
    exact h.eligible.2.1
  · exact hstep.2.1

/-- **The refinement of a terminal mask.** Past its checks a run selects and traces when a cell is
eligible, and otherwise fails to snap. -/
theorem refineTerminal_run {terminalPolygon : MultiPolygon} {outlet : NativeCoord} {epsg : ℕ}
    (hcompat : d8PairIsCompatible ("EPSG:" ++ toString epsg) units.toDeclaration = true)
    (hdims : flowDir.dims = accumulation.dims) (hgeo : flowDir.geo = accumulation.geo)
    {terminal : CatchmentMask} (htdims : terminal.dims = flowDir.dims)
    (hmask : rasterizeMultiPolygon terminalPolygon flowDir.geo flowDir.dims = .ok terminal.data)
    (htrue : true ∈ terminal.data) {frac : ℚ × ℚ}
    (hfrac : flowDir.geo.coordToPixelF64 outlet = some frac) :
    (∃ e, refineTerminal contains terminalPolygon outlet flowDir accumulation threshold units epsg =
      .ok (.error (.snapFailed e)) ∧
        ¬∃ cell, SeedEligible flowDir accumulation terminal threshold units cell) ∨
    ∃ result masked trace,
      refineTerminal contains terminalPolygon outlet flowDir accumulation threshold units epsg =
        .ok (.ok result) ∧
      flowDir.applyMask terminal = .ok masked ∧
      traceUpstream masked result.snappedPoint.cell = .ok trace ∧
      IsRefinement contains flowDir accumulation threshold units frac terminal trace result := by
  obtain ⟨data, rows, cols, hlen⟩ := terminal
  obtain ⟨rfl, rfl⟩ : rows = flowDir.dims.rows ∧ cols = flowDir.dims.cols :=
    ⟨congrArg GridDims.rows htdims, congrArg GridDims.cols htdims⟩
  have hclen : (candidateMaskData flowDir data).length = flowDir.dims.rows * flowDir.dims.cols := by
    rw [candidateMaskData, List.length_mapIdx, hlen]
  obtain ⟨masked, hflow, hmdims, hflows⟩ := flowsTo_applyMask htdims
  obtain ⟨maskedAcc, hacc, hageo, helig⟩ := exists_maskedAccumulation hdims hgeo hlen hclen
  have hrun : refineTerminal contains terminalPolygon outlet flowDir accumulation threshold units
      epsg = _ := refineTerminal_eq hcompat hdims hgeo hmask htrue hlen hclen hflow hacc
  rcases snapPourPoint_spec (hageo ▸ hfrac) threshold units epsg with ⟨hnone, e, hsnap⟩ |
    ⟨snapped, hsnap, hreaches, hcoord, haccEq, hleast⟩
  · refine Or.inl ⟨e, by rw [hrun, hsnap]; rfl, ?_⟩
    rintro ⟨cell, hcell⟩
    exact hnone ⟨cell, (helig cell).1.1 hcell⟩
  · have hseed := (helig snapped.cell).1.2 hreaches
    obtain ⟨trace, htrace, htracedims, hcells⟩ := traceUpstream_spec (hmdims ▸ hseed.1)
    rw [hmdims] at htracedims hcells
    rw [hflows] at hcells
    -- The seed is in the trace, so the trace has a boundary.
    have hedges : extractEdges trace ≠ [] := by
      intro hnil
      have hfalse := (extractEdges_eq_nil_iff trace).1 hnil snapped.cell (htracedims ▸ hseed.1)
      rw [(hcells snapped.cell hseed.1).2 .refl] at hfalse
      cases hfalse
    obtain ⟨polygon, hpoly⟩ := exists_polygonize contains flowDir.geo hedges
    refine Or.inr ⟨⟨snapped, .rasterRanked, polygon⟩, masked, trace, ?_, hflow, htrace,
      ⟨hseed, fun cell hcell => ?_, ?_, ?_, htracedims, hcells, hpoly⟩⟩
    · rw [hrun, hsnap]
      simp only [htrace, ok_bind, hpoly]
      rfl
    · have := hleast cell ((helig cell).1.1 hcell)
      rwa [(helig cell).2 hcell, (helig snapped.cell).2 hseed] at this
    · rw [hcoord, hageo]
    · rw [haccEq, (helig snapped.cell).2 hseed]

/-- A mask of the grid with a cell has a transform that can be inverted. -/
theorem exists_coordToPixelF64 {terminalPolygon : MultiPolygon} {data : List Bool}
    (hmask : rasterizeMultiPolygon terminalPolygon flowDir.geo flowDir.dims = .ok data)
    (htrue : true ∈ data) (outlet : NativeCoord) :
    ∃ frac, flowDir.geo.coordToPixelF64 outlet = some frac := by
  by_cases hzero : flowDir.geo.pixelWidth = 0 ∨ flowDir.geo.pixelHeight = 0
  · exact absurd htrue (rasterizeMultiPolygon_degenerate hzero hmask)
  · exact ⟨_, if_neg hzero⟩

theorem CatchmentMask.true_mem_data {mask : CatchmentMask} {cell : GridCoord} (hmem : mask.dims.Mem cell)
    (hin : mask.contains cell = true) : true ∈ mask.data := by
  have hidx : cell.index mask.cols < mask.data.length := by
    rw [mask.length_eq]
    exact GridCoord.index_lt hmem
  rw [CatchmentMask.contains, List.getD_eq_getElem _ _ hidx] at hin
  exact hin ▸ List.getElem_mem hidx

end runs

/-- **Terminal refinement.** It fails to snap exactly when no terminal cell is eligible. Otherwise
the seed is the eligible cell with the least key, and the polygonized mask is the seed with the
cells whose directions lead to it inside the terminal. -/
theorem refineTerminal_spec (contains : Polygon → Coord → Bool) (terminalPolygon : MultiPolygon)
    (outlet : NativeCoord) (flowDir : FlowDirectionTile .raw) (accumulation : AccumulationTile .raw)
    (threshold : SnapThreshold) (units : FlowAccumulationUnits) (epsg : ℕ)
    (hcompat : d8PairIsCompatible ("EPSG:" ++ toString epsg) units.toDeclaration = true)
    (hdims : flowDir.dims = accumulation.dims) (hgeo : flowDir.geo = accumulation.geo)
    (terminal : CatchmentMask) (htdims : terminal.dims = flowDir.dims)
    (hmask : rasterizeMultiPolygon terminalPolygon flowDir.geo flowDir.dims = .ok terminal.data)
    (hne : ∃ cell, flowDir.dims.Mem cell ∧ terminal.contains cell = true) :
    ∃ frac out, flowDir.geo.coordToPixelF64 outlet = some frac ∧
      refineTerminal contains terminalPolygon outlet flowDir accumulation threshold units epsg =
        .ok out ∧
      ((∃ e, out = .error (.snapFailed e)) ↔
        ¬∃ cell, SeedEligible flowDir accumulation terminal threshold units cell) ∧
      ((∃ cell, SeedEligible flowDir accumulation terminal threshold units cell) →
        ∃ result masked traceMask, out = .ok result ∧
          SeedEligible flowDir accumulation terminal threshold units result.snappedPoint.cell ∧
          (∀ cell, SeedEligible flowDir accumulation terminal threshold units cell →
            seedKey frac (accumulation.getRaw result.snappedPoint.cell) result.snappedPoint.cell ≤
              seedKey frac (accumulation.getRaw cell) cell) ∧
          flowDir.applyMask terminal = .ok masked ∧
          traceUpstream masked result.snappedPoint.cell = .ok traceMask ∧
          polygonize contains traceMask flowDir.geo = .ok (some result.polygon) ∧
          traceMask.dims = flowDir.dims ∧
          (∀ cell, flowDir.dims.Mem cell → (traceMask.contains cell = true ↔
            Relation.ReflTransGen (FlowsInside flowDir terminal) cell result.snappedPoint.cell)) ∧
          ∀ cell, flowDir.dims.Mem cell → traceMask.contains cell = true →
            terminal.contains cell = true) := by
  obtain ⟨cell₀, hmem₀, htrue₀⟩ := hne
  have htrue : true ∈ terminal.data := CatchmentMask.true_mem_data (htdims ▸ hmem₀) htrue₀
  obtain ⟨frac, hfrac⟩ := exists_coordToPixelF64 hmask htrue outlet
  rcases refineTerminal_run hcompat hdims hgeo htdims hmask htrue hfrac with ⟨e, hrun, hno⟩ |
    ⟨result, masked, trace, hrun, hflow, htrace, href⟩
  · exact ⟨frac, .error (.snapFailed e), hfrac, hrun, ⟨fun _ => hno, fun _ => ⟨e, rfl⟩⟩,
      fun h => absurd h hno⟩
  · refine ⟨frac, .ok result, hfrac, hrun, ⟨?_, fun hno => absurd ⟨_, href.eligible⟩ hno⟩, fun _ => ?_⟩
    · rintro ⟨e, he⟩
      cases he
    · exact ⟨result, masked, trace, rfl, href.eligible, href.least, hflow, htrace, href.polygonize_eq,
        href.trace_dims, href.trace_iff, fun cell => href.trace_le⟩

/-! Two cells in a row, the first draining into the second. -/

def exampleGeo : GeoTransform := ⟨0, 0, 1, -1⟩

def exampleTerminal : MultiPolygon := [⟨[⟨0, 0⟩, ⟨2, 0⟩, ⟨2, -1⟩, ⟨0, -1⟩, ⟨0, 0⟩], []⟩]

def exampleFlowDir : FlowDirectionTile .raw where
  inner := ⟨[1, 4], 1, 2, 255, exampleGeo, rfl, by decide, by decide⟩
  encoding := .esri
  nodata_ne := by
    intro dir h
    cases h

def exampleAccumulation : AccumulationTile .raw where
  inner := ⟨[.ofNonneg 1, .ofNonneg 2], 1, 2, .nan, exampleGeo, rfl, by decide, by decide⟩

def exampleMask : CatchmentMask := ⟨[true, true], 1, 2, rfl⟩

theorem refineTerminal_example :
    ∃ out, refineTerminal strictInterior exampleTerminal ⟨0, 0⟩ exampleFlowDir exampleAccumulation
      ⟨2, by decide⟩ .cells 4326 = .ok out ∧ ¬∃ e, out = .error (.snapFailed e) := by
  obtain ⟨frac, out, -, hrun, hfail, -⟩ := refineTerminal_spec strictInterior exampleTerminal ⟨0, 0⟩
    exampleFlowDir exampleAccumulation ⟨2, by decide⟩ .cells 4326 (by decide +kernel) rfl rfl
    exampleMask rfl (by decide +kernel) ⟨⟨0, 0⟩, by decide, by decide⟩
  refine ⟨out, hrun, fun hsnap => hfail.1 hsnap ⟨⟨0, 1⟩, ?_⟩⟩
  refine ⟨by decide, by decide, by decide +kernel, ?_⟩
  decide +kernel

end Pourpoint
