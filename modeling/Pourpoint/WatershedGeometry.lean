import Pourpoint.Dissolve
import Pourpoint.GeometryValidity.Pairs
import Pourpoint.Rounding

/-!
# The final geometry of a watershed

`assemble_from_geometries` dissolves the polygons of all units, closes gaps or repairs the topology, fills
holes, winds the rings, and checks and measures the result. What it calls of `geo` and of a repair backend
is a parameter (`AssemblyGeo`).
-/

namespace Pourpoint

open Fallible GeometryValidity

/-! ## Polygons of doubles -/

namespace DoubleCoord

/-- The coordinate by its values. -/
def toF64 (c : DoubleCoord) : F64Coord := ⟨c.x.toF64, c.y.toF64⟩

end DoubleCoord

namespace DoublePolygon

/-- Every coordinate by its value. -/
def toF64 (polygon : DoublePolygon) : F64Polygon :=
  ⟨polygon.exterior.map DoubleCoord.toF64, polygon.interiors.map (·.map DoubleCoord.toF64)⟩

/-- `LineString::close`. -/
def closeRing (ring : List DoubleCoord) : List DoubleCoord :=
  match ring.head?, ring.getLast? with
  | some first, some last => if coordEq first.toF64 last.toF64 then ring else ring ++ [first]
  | _, _ => ring

/-- `Polygon::new` closes the rings it is given. -/
def new (exterior : List DoubleCoord) (interiors : List (List DoubleCoord)) : DoublePolygon :=
  ⟨closeRing exterior, interiors.map closeRing⟩

end DoublePolygon

/-- `-x`. -/
def Double.neg (x : Double) : Double := ⟨!x.negative, x.magnitude⟩

/-! ## Options and errors -/

inductive WindingOrder where
  | clockwise | counterClockwise
  deriving DecidableEq, Repr

inductive HoleFillMode where
  | removeAll
  | belowThreshold (thresholdPixels : ℕ) (pixelArea : F64)
  deriving DecidableEq

inductive GeometryRepairError where
  | backendError (reason : String)
  | unexpectedGeometryType (geometryType : String)
  | stillInvalid
  deriving DecidableEq, Repr

inductive WatershedAreaError where
  | emptyGeometry
  | holeAreaExceedsShell (shellM2 holesM2 : F64)
  | nonFiniteArea (rawM2 : F64)
  deriving DecidableEq

/-- `GeometryRepair`. -/
abbrev GeometryRepair := List DoublePolygon → Double → Except GeometryRepairError (List DoublePolygon)

/-- What the assembly calls of `geo`. -/
structure AssemblyGeo where
  reads : DissolveReads
  union : Union
  /-- `buffer_with_style`, by the distance. -/
  bufferWithStyle : List DoublePolygon → Double → List DoublePolygon
  windingOrder : List DoubleCoord → Option WindingOrder
  geodesicAreaSigned : DoublePolygon → F64
  predicates : GeoCrates

/-- `AssemblyOptions`. -/
structure AssemblyOptions where
  holeFillMode : HoleFillMode
  cleanEpsilon : Double
  geometryRepair : Option GeometryRepair

/-- `AssemblyResult`. -/
structure AssemblyResult where
  geometry : List DoublePolygon
  areaKm2 : F64
  deriving DecidableEq

/-- Errors of the assembly once the geometries are collected. -/
inductive FinalAssemblyError where
  | dissolve (source : DissolveError)
  | topologyRepair (source : GeometryRepairError)
  | emptyAssembledGeometry
  | invalidAssembledGeometry (source : GeometryValidityError)
  | area (source : WatershedAreaError)
  deriving DecidableEq

section

variable (geo : AssemblyGeo)

/-! ## Topology -/

/-- `buffer_multi_polygon`: an offset whose rings the union reconstructs. -/
def bufferMultiPolygon (geometry : List DoublePolygon) (distance : Double) : List DoublePolygon :=
  geo.union (geo.bufferWithStyle geometry distance) []

/-- `clean_topology`. -/
def cleanTopology (geometry : List DoublePolygon) (epsilon : Double) : List DoublePolygon :=
  bufferMultiPolygon geo (bufferMultiPolygon geo geometry epsilon) epsilon.neg

/-! ## Holes -/

/-- The holes that stay. -/
def keptHoles (mode : HoleFillMode) (interiors : List (List DoubleCoord)) : List (List DoubleCoord) :=
  match mode with
  | .removeAll => []
  | .belowThreshold thresholdPixels pixelArea =>
    let thresholdArea := (F64.finite thresholdPixels).mul pixelArea
    interiors.filter fun ring => thresholdArea.le (geo.reads.unsignedArea (.new ring [])).toF64

/-- A polygon with the holes that stay. -/
def fillPolygon (mode : HoleFillMode) (polygon : DoublePolygon) : DoublePolygon :=
  .new polygon.exterior (keptHoles geo mode polygon.interiors)

/-- The number of holes of all polygons. -/
def countHoles (geometry : List DoublePolygon) : ℕ := (geometry.map fun p => p.interiors.length).sum

/-- `fill_holes`. Shells whose holes are filled may cover each other, so several of them are united. -/
def fillHoles (geometry : List DoublePolygon) (mode : HoleFillMode) : List DoublePolygon :=
  let polygons := geometry.map (fillPolygon geo mode)
  if 0 < countHoles geometry - countHoles polygons ∧ 1 < polygons.length then
    dissolveSpatialReduceStrategy geo.reads geo.union polygons
  else polygons

/-! ## Winding -/

/-- `make_ccw_winding`. -/
def makeCcwWinding (ring : List DoubleCoord) : List DoubleCoord :=
  if geo.windingOrder ring = some .clockwise then ring.reverse else ring

/-- `make_cw_winding`. -/
def makeCwWinding (ring : List DoubleCoord) : List DoubleCoord :=
  if geo.windingOrder ring = some .counterClockwise then ring.reverse else ring

/-- `normalize_polygon_winding`. -/
def normalizePolygonWinding (polygon : DoublePolygon) : DoublePolygon :=
  .new (makeCcwWinding geo polygon.exterior) (polygon.interiors.map (makeCwWinding geo))

/-! ## Area -/

/-- The double nearest to a millionth. -/
def m2ToKm2 : F64 := .round (1 / 10 ^ 6)

/-- `< 0.0`. -/
def isNegative (x : F64) : Bool := x.lt (.finite 0)

/-- `regional_polygon_area_m2`. -/
def regionalPolygonAreaM2 (polygon : DoublePolygon) : Except WatershedAreaError F64 :=
  let signedM2 := geo.geodesicAreaSigned polygon
  if signedM2.isFinite = false then .error (.nonFiniteArea signedM2)
  else
    let shellSignedM2 := geo.geodesicAreaSigned (.new polygon.exterior [])
    let remainingM2 := if isNegative shellSignedM2 then signedM2.neg else signedM2
    if polygon.interiors ≠ [] ∧ isNegative remainingM2 then
      .error (.holeAreaExceedsShell shellSignedM2.abs (shellSignedM2.abs.sub remainingM2))
    else .ok signedM2.abs

/-- `geodesic_area_multi`. -/
def geodesicAreaMulti (geometry : List DoublePolygon) : Except WatershedAreaError F64 :=
  if geometry = [] then .error .emptyGeometry
  else do
    let areaM2 ← geometry.foldlM (fun total polygon => do
      let area ← regionalPolygonAreaM2 geo polygon
      .ok (total.add area)) (.finite 0)
    if areaM2.isFinite = false then .error (.nonFiniteArea areaM2) else .ok (areaM2.mul m2ToKm2)

/-! ## Assembly -/

/-- `HasDimensions::is_empty` of a multi-polygon. -/
def isEmptyGeometry (geometry : List DoublePolygon) : Bool := geometry.all (·.exterior.isEmpty)

/-- The steps up to the hole policy. -/
def postProcess (options : AssemblyOptions) (dissolved : List DoublePolygon) :
    Except FinalAssemblyError (List DoublePolygon) :=
  match options.geometryRepair with
  | some repair => do
    let repaired ← (repair dissolved options.cleanEpsilon).mapError .topologyRepair
    .ok (fillHoles geo repaired options.holeFillMode)
  | none => .ok (fillHoles geo (cleanTopology geo dissolved options.cleanEpsilon) options.holeFillMode)

/-- `map_err(..)?`. -/
def mapFallibleError {ε δ α : Type} (f : ε → δ) (x : Fallible ε α) : Fallible δ α :=
  ExceptT.mk (x.run.map (·.mapError f))

/-- `assemble_from_geometries`. -/
def assembleFromGeometries (options : AssemblyOptions) (geometries : List (List DoublePolygon)) :
    Fallible FinalAssemblyError AssemblyResult := do
  let dissolved ← mapError .dissolve (dissolve geo.reads geo.union geometries.flatten)
  let filled ← mapError id (postProcess geo options dissolved)
  let geometry := filled.map (normalizePolygonWinding geo)
  failIf (isEmptyGeometry geometry = true) .emptyAssembledGeometry
  mapFallibleError .invalidAssembledGeometry
    (validateMultiPolygon geo.predicates (geometry.map DoublePolygon.toF64))
  let areaKm2 ← mapError .area (geodesicAreaMulti geo geometry)
  pure ⟨geometry, areaKm2⟩

end

/-! ## Winding of the result -/

/-- The ring ends where it starts. -/
def ClosedRing (ring : List DoubleCoord) : Prop := DoublePolygon.closeRing ring = ring

/-- All rings are closed. -/
def ClosedPolygon (polygon : DoublePolygon) : Prop :=
  ∀ ring ∈ polygon.exterior :: polygon.interiors, ClosedRing ring

def WindingOrder.opposite : WindingOrder → WindingOrder
  | .clockwise => .counterClockwise
  | .counterClockwise => .clockwise

/-- A simple ring, by the values of its coordinates. -/
def SimpleDoubleRing (geo : AssemblyGeo) (ring : List DoubleCoord) : Prop :=
  SimpleRing geo.predicates (ring.map DoubleCoord.toF64)

/-- The predicates decide on all pairs, a simple ring winds the other way when it is reversed, an empty one
does not wind, and the polygons of a union are closed, as all polygons of `geo` are. -/
structure AssemblyGeo.Lawful (geo : AssemblyGeo) : Prop where
  predicates : geo.predicates.Complete
  windingOrder_nil : geo.windingOrder [] = none
  windingOrder_reverse : ∀ ring, SimpleDoubleRing geo ring →
    geo.windingOrder ring.reverse = (geo.windingOrder ring).map WindingOrder.opposite
  closed_union : ∀ a b, ∀ polygon ∈ geo.union a b, ClosedPolygon polygon

/-- A repair backend returns closed polygons, as all polygons of `geo` are. -/
def AssemblyOptions.RepairCloses (options : AssemblyOptions) : Prop :=
  ∀ repair, options.geometryRepair = some repair → ∀ geometry repaired,
    repair geometry options.cleanEpsilon = .ok repaired → ∀ polygon ∈ repaired, ClosedPolygon polygon

/-- No exterior is clockwise and no hole counter-clockwise. -/
structure NormalWinding (geo : AssemblyGeo) (polygon : DoublePolygon) : Prop where
  exterior : geo.windingOrder polygon.exterior ≠ some .clockwise
  interiors : ∀ ring ∈ polygon.interiors, geo.windingOrder ring ≠ some .counterClockwise

theorem coordEq_comm (a b : F64Coord) : coordEq a b = coordEq b a := by
  have heq : ∀ x y : F64, x.eq y = y.eq x := by
    intro x y
    rw [F64.eq, F64.eq, Bool.and_comm (!x.isNan), decide_eq_decide.2 eq_comm]
  rw [coordEq, coordEq, heq a.x, heq a.y]

theorem closedRing_iff {ring : List DoubleCoord} : ClosedRing ring ↔
    ∀ first last, ring.head? = some first → ring.getLast? = some last →
      coordEq first.toF64 last.toF64 = true := by
  unfold ClosedRing DoublePolygon.closeRing
  cases ring.head? with
  | none => simp
  | some first =>
    cases ring.getLast? with
    | none => simp
    | some last =>
      cases hclosed : coordEq first.toF64 last.toF64 with
      | true => simp [hclosed]
      | false => simp [hclosed]

theorem ClosedRing.reverse {ring : List DoubleCoord} (h : ClosedRing ring) : ClosedRing ring.reverse := by
  rw [closedRing_iff] at h ⊢
  rw [List.head?_reverse, List.getLast?_reverse]
  intro first last hfirst hlast
  rw [coordEq_comm]
  exact h last first hlast hfirst

section

variable {geo : AssemblyGeo}

theorem closedRing_makeCcwWinding {ring : List DoubleCoord} (h : ClosedRing ring) :
    ClosedRing (makeCcwWinding geo ring) := by
  unfold makeCcwWinding
  split_ifs
  · exact h.reverse
  · exact h

theorem closedRing_makeCwWinding {ring : List DoubleCoord} (h : ClosedRing ring) :
    ClosedRing (makeCwWinding geo ring) := by
  unfold makeCwWinding
  split_ifs
  · exact h.reverse
  · exact h

/-- A ring that was turned round into a simple one did not wind as before. -/
theorem windingOrder_ne_of_reverse (hgeo : geo.Lawful) {ring : List DoubleCoord} {order : WindingOrder}
    (h : geo.windingOrder ring = some order)
    (hsimple : ring.reverse = [] ∨ SimpleDoubleRing geo ring.reverse) :
    geo.windingOrder ring.reverse ≠ some order := by
  rcases hsimple with hnil | hsimple
  · rw [hnil, hgeo.windingOrder_nil]
    exact fun h => nomatch h
  · have hreverse := hgeo.windingOrder_reverse _ hsimple
    rw [List.reverse_reverse, h] at hreverse
    intro hsame
    rw [hsame] at hreverse
    cases order
    · cases hreverse
    · cases hreverse

theorem windingOrder_makeCcwWinding (hgeo : geo.Lawful) {ring : List DoubleCoord}
    (hsimple : makeCcwWinding geo ring = [] ∨ SimpleDoubleRing geo (makeCcwWinding geo ring)) :
    geo.windingOrder (makeCcwWinding geo ring) ≠ some .clockwise := by
  unfold makeCcwWinding at hsimple ⊢
  by_cases h : geo.windingOrder ring = some .clockwise
  · rw [if_pos h] at hsimple ⊢
    exact windingOrder_ne_of_reverse hgeo h hsimple
  · rwa [if_neg h]

theorem windingOrder_makeCwWinding (hgeo : geo.Lawful) {ring : List DoubleCoord}
    (hsimple : makeCwWinding geo ring = [] ∨ SimpleDoubleRing geo (makeCwWinding geo ring)) :
    geo.windingOrder (makeCwWinding geo ring) ≠ some .counterClockwise := by
  unfold makeCwWinding at hsimple ⊢
  by_cases h : geo.windingOrder ring = some .counterClockwise
  · rw [if_pos h] at hsimple ⊢
    exact windingOrder_ne_of_reverse hgeo h hsimple
  · rwa [if_neg h]

/-- Normalizing a closed polygon winds every ring, where the rings are simple. -/
theorem normalWinding_normalizePolygonWinding (hgeo : geo.Lawful) {polygon : DoublePolygon}
    (h : ClosedPolygon polygon)
    (hsimple : ∀ ring ∈ (normalizePolygonWinding geo polygon).exterior ::
      (normalizePolygonWinding geo polygon).interiors, ring = [] ∨ SimpleDoubleRing geo ring) :
    NormalWinding geo (normalizePolygonWinding geo polygon) := by
  have hexterior : (normalizePolygonWinding geo polygon).exterior =
      makeCcwWinding geo polygon.exterior := closedRing_makeCcwWinding (h _ List.mem_cons_self)
  have hinteriors : (normalizePolygonWinding geo polygon).interiors =
      polygon.interiors.map (makeCwWinding geo) := by
    refine (List.map_map ..).trans (List.map_congr_left fun hole hhole => ?_)
    exact closedRing_makeCwWinding (h hole (List.mem_cons_of_mem _ hhole))
  refine ⟨?_, ?_⟩
  · have hring := hsimple _ List.mem_cons_self
    rw [hexterior] at hring ⊢
    exact windingOrder_makeCcwWinding hgeo hring
  · intro ring hring
    have hwound := hsimple ring (List.mem_cons_of_mem _ hring)
    rw [hinteriors] at hring
    obtain ⟨hole, -, rfl⟩ := List.mem_map.1 hring
    exact windingOrder_makeCwWinding hgeo hwound

theorem keptHoles_subset (mode : HoleFillMode) (interiors : List (List DoubleCoord)) :
    keptHoles geo mode interiors ⊆ interiors := by
  cases mode with
  | removeAll => exact List.nil_subset _
  | belowThreshold thresholdPixels pixelArea => exact List.filter_subset_self _

theorem closedPolygon_fillPolygon {polygon : DoublePolygon} (h : ClosedPolygon polygon)
    (mode : HoleFillMode) : ClosedPolygon (fillPolygon geo mode polygon) := by
  have hclose : ∀ ring, ClosedRing ring → ClosedRing (DoublePolygon.closeRing ring) := by
    intro ring hring
    rwa [show DoublePolygon.closeRing ring = ring from hring]
  intro ring hring
  rcases List.mem_cons.1 hring with rfl | hring
  · exact hclose _ (h _ List.mem_cons_self)
  · obtain ⟨hole, hhole, rfl⟩ := List.mem_map.1 hring
    exact hclose _ (h hole (List.mem_cons_of_mem _ (keptHoles_subset mode _ hhole)))

/-- What a tree of unions returns is closed. -/
theorem closed_deterministicReduce (hgeo : geo.Lawful) (polygons : List (List DoublePolygon)) :
    ∀ polygon ∈ deterministicReduce geo.union polygons, ClosedPolygon polygon := by
  cases polygons with
  | nil => simp [deterministicReduce]
  | cons p rest =>
    cases rest with
    | nil =>
      rw [deterministicReduce]
      exact hgeo.closed_union _ _
    | cons q rest =>
      rw [deterministicReduce]
      exact hgeo.closed_union _ _

theorem closed_fillHoles (hgeo : geo.Lawful) {geometry : List DoublePolygon}
    (h : ∀ polygon ∈ geometry, ClosedPolygon polygon) (mode : HoleFillMode) :
    ∀ polygon ∈ fillHoles geo geometry mode, ClosedPolygon polygon := by
  unfold fillHoles
  dsimp only
  split_ifs
  · exact closed_deterministicReduce hgeo _
  · intro polygon hpolygon
    obtain ⟨source, hsource, rfl⟩ := List.mem_map.1 hpolygon
    exact closedPolygon_fillPolygon (h source hsource) mode

theorem closed_postProcess (hgeo : geo.Lawful) {options : AssemblyOptions}
    (hrepair : options.RepairCloses)
    {dissolved filled : List DoublePolygon} (h : postProcess geo options dissolved = .ok filled) :
    ∀ polygon ∈ filled, ClosedPolygon polygon := by
  unfold postProcess at h
  cases hoption : options.geometryRepair with
  | none =>
    rw [hoption] at h
    cases h
    exact closed_fillHoles hgeo (hgeo.closed_union _ _) _
  | some repair =>
    rw [hoption] at h
    obtain ⟨repaired, hrepaired, h⟩ := Library.bind_eq_ok_iff.1 h
    cases h
    exact closed_fillHoles hgeo
      (hrepair repair hoption dissolved repaired (Library.mapError_eq_ok_iff.1 hrepaired)) _

end

/-! ## Area of the result -/

namespace F64

theorem nonneg_round {q : ℚ} (h : 0 ≤ q) : (finite 0).le (round q) = true := by
  unfold round
  by_cases hzero : q = 0
  · rw [if_pos hzero, finite_le]
  · rw [if_neg hzero]
    dsimp only
    split_ifs with hlarge hneg
    · rw [decide_eq_false (not_lt.2 h)]
      exact le_infinity 0
    · exact absurd h (not_le.2 hneg)
    · rw [finite_le]
      positivity

theorem nonneg_cases {x : F64} (h : (finite 0).le x = true) :
    x = infinity false ∨ ∃ q, 0 ≤ q ∧ x = finite q := by
  cases x with
  | nan => cases h
  | infinity negative =>
    cases negative with
    | false => exact Or.inl rfl
    | true => cases h
  | finite q => exact Or.inr ⟨q, finite_le.1 h, rfl⟩

theorem nonneg_add {x y : F64} (hx : (finite 0).le x = true) (hy : (finite 0).le y = true) :
    (finite 0).le (x.add y) = true := by
  rcases nonneg_cases hx with rfl | ⟨p, hp, rfl⟩
  · rcases nonneg_cases hy with rfl | ⟨q, -, rfl⟩
    · exact le_infinity 0
    · exact le_infinity 0
  · rcases nonneg_cases hy with rfl | ⟨q, hq, rfl⟩
    · exact le_infinity 0
    · exact nonneg_round (add_nonneg hp hq)

theorem nonneg_abs {x : F64} (h : x.isFinite = true) : (finite 0).le x.abs = true := by
  cases x with
  | nan => cases h
  | infinity negative => cases h
  | finite q => exact finite_le.2 (abs_nonneg q)

end F64

theorem nonneg_regionalPolygonAreaM2 {geo : AssemblyGeo} {polygon : DoublePolygon} {area : F64}
    (h : regionalPolygonAreaM2 geo polygon = .ok area) : (F64.finite 0).le area = true := by
  unfold regionalPolygonAreaM2 at h
  dsimp only at h
  split_ifs at h with hfinite
  all_goals cases h
  all_goals exact F64.nonneg_abs (Bool.eq_true_of_not_eq_false hfinite)

theorem nonneg_foldlM_area {geo : AssemblyGeo} {geometry : List DoublePolygon} {total area : F64}
    (htotal : (F64.finite 0).le total = true)
    (h : geometry.foldlM (fun total polygon => do
      let area ← regionalPolygonAreaM2 geo polygon
      .ok (total.add area)) total = .ok area) : (F64.finite 0).le area = true := by
  induction geometry generalizing total with
  | nil =>
    cases h
    exact htotal
  | cons polygon geometry ih =>
    rw [List.foldlM_cons] at h
    obtain ⟨next, hnext, h⟩ := Library.bind_eq_ok_iff.1 h
    obtain ⟨one, hone, hnext⟩ := Library.bind_eq_ok_iff.1 hnext
    cases hnext
    exact ih (F64.nonneg_add htotal (nonneg_regionalPolygonAreaM2 hone)) h

theorem nonneg_geodesicAreaMulti {geo : AssemblyGeo} {geometry : List DoublePolygon} {areaKm2 : F64}
    (h : geodesicAreaMulti geo geometry = .ok areaKm2) : (F64.finite 0).le areaKm2 = true := by
  unfold geodesicAreaMulti at h
  split_ifs at h
  obtain ⟨areaM2, hareaM2, h⟩ := Library.bind_eq_ok_iff.1 h
  split_ifs at h with hfinite
  cases h
  have hnonneg := nonneg_foldlM_area (F64.finite_le.2 le_rfl) hareaM2
  rcases F64.nonneg_cases hnonneg with rfl | ⟨q, hq, rfl⟩
  · exact absurd rfl hfinite
  · rcases F64.nonneg_cases (F64.nonneg_round (q := 1 / 10 ^ 6) (by norm_num)) with hscale | ⟨c, hc, hscale⟩
    · exact absurd hscale (by decide +kernel)
    · rw [m2ToKm2, hscale]
      exact F64.nonneg_round (mul_nonneg hq hc)

/-! ## The result -/

theorem mapFallibleError_run_eq_ok_iff {ε δ α : Type} {f : ε → δ} {x : Fallible ε α} {a : α} :
    (mapFallibleError f x).run = .ok (.ok a) ↔ x.run = .ok (.ok a) := by
  show x.run.map (·.mapError f) = _ ↔ _
  cases x.run with
  | error panic => simp [Except.map]
  | ok result =>
    cases result with
    | error e => simp [Except.map, Except.mapError]
    | ok b => simp [Except.map, Except.mapError]

theorem safe_mapFallibleError {ε δ α : Type} {f : ε → δ} {x : Fallible ε α} {P : α → Prop}
    (h : Safe x P) : Safe (mapFallibleError f x) P := by
  obtain ⟨result, hrun, hP⟩ := h
  refine ⟨result.mapError f, ?_, ?_⟩
  · show x.run.map (·.mapError f) = _
    rw [hrun]
    rfl
  · intro a ha
    exact hP a (Library.mapError_eq_ok_iff.1 ha)

/-- What the assembly returns: a valid multi-polygon that is not empty, wound as usual, with its area. -/
structure AssemblyResult.Sound (geo : AssemblyGeo) (result : AssemblyResult) : Prop where
  nonempty : isEmptyGeometry result.geometry = false
  valid : ValidMultiPolygon geo.predicates (result.geometry.map DoublePolygon.toF64)
  winding : ∀ polygon ∈ result.geometry, NormalWinding geo polygon
  area : (F64.finite 0).le result.areaKm2 = true

section

variable {geo : AssemblyGeo} {options : AssemblyOptions}

/-- The assembly never aborts. -/
theorem exists_run_assembleFromGeometries (hgeo : geo.Lawful) (options : AssemblyOptions)
    (geometries : List (List DoublePolygon)) :
    ∃ outcome, (assembleFromGeometries geo options geometries).run = .ok outcome := by
  have hsafe : Safe (assembleFromGeometries geo options geometries) fun _ => True := by
    refine safe_mapError_bind fun dissolved _ => safe_mapError_bind fun filled _ =>
      safe_failIf_bind fun _ => safe_bind (safe_mapFallibleError (P := fun _ => True) ?_) fun _ _ =>
        safe_mapError_bind fun areaKm2 _ => safe_pure trivial
    exact (decides_validateMultiPolygon hgeo.predicates _).safe
  obtain ⟨outcome, hrun, -⟩ := hsafe
  exact ⟨outcome, hrun⟩

theorem sound_of_assembleFromGeometries (hgeo : geo.Lawful) (hrepair : options.RepairCloses)
    {geometries : List (List DoublePolygon)} {result : AssemblyResult}
    (h : (assembleFromGeometries geo options geometries).run = .ok (.ok result)) :
    result.Sound geo := by
  unfold assembleFromGeometries at h
  obtain ⟨dissolved, hdissolved, h⟩ := bind_run_eq_ok h
  obtain ⟨filled, hfilled, h⟩ := bind_run_eq_ok h
  obtain ⟨_, hnonempty, h⟩ := bind_run_eq_ok h
  obtain ⟨_, hvalid, h⟩ := bind_run_eq_ok h
  obtain ⟨areaKm2, harea, h⟩ := bind_run_eq_ok h
  cases h
  have hvalid := ((decides_validateMultiPolygon hgeo.predicates _).of_run
    (mapFallibleError_run_eq_ok_iff.1 hvalid)).1
  refine ⟨?_, hvalid, ?_, ?_⟩
  · exact Bool.eq_false_iff.2 (failIf_run_eq_ok_iff.1 hnonempty)
  · intro polygon hpolygon
    have hsimple : ∀ ring ∈ polygon.exterior :: polygon.interiors,
        ring = [] ∨ SimpleDoubleRing geo ring := by
      intro ring hring
      have hmem : ring.map DoubleCoord.toF64 ∈ polygon.toF64.exterior :: polygon.toF64.interiors :=
        List.mem_map_of_mem hring
      have hsimple := hvalid.simpleRing (List.mem_map_of_mem hpolygon) hmem
      rwa [List.map_eq_nil_iff] at hsimple
    obtain ⟨source, hsource, rfl⟩ := List.mem_map.1 hpolygon
    exact normalWinding_normalizePolygonWinding hgeo
      (closed_postProcess hgeo hrepair (mapError_run_eq_ok_iff.1 hfilled) source hsource) hsimple
  · exact nonneg_geodesicAreaMulti (mapError_run_eq_ok_iff.1 harea)

end

/-- **The assembled geometry.** The assembly never aborts. It fails when there are no polygons, and what
it returns is not empty, is a valid multi-polygon with no clockwise exterior and no counter-clockwise
hole, and has an area that is not negative. -/
theorem assembleFromGeometries_spec (geo : AssemblyGeo) (hgeo : geo.Lawful) (options : AssemblyOptions)
    (hrepair : options.RepairCloses) (geometries : List (List DoublePolygon)) :
    (∃ outcome, (assembleFromGeometries geo options geometries).run = .ok outcome) ∧
    (geometries.flatten = [] →
      ∃ e, (assembleFromGeometries geo options geometries).run = .ok (.error (.dissolve e))) ∧
    ∀ result, (assembleFromGeometries geo options geometries).run = .ok (.ok result) →
      result.Sound geo := by
  refine ⟨exists_run_assembleFromGeometries hgeo options geometries, ?_, ?_⟩
  · intro hnil
    unfold assembleFromGeometries
    rw [hnil]
    exact ⟨_, rfl⟩
  · intro result h
    exact sound_of_assembleFromGeometries hgeo hrepair h

/-! ### A clockwise square -/

instance (polygon : DoublePolygon) : Decidable (ClosedPolygon polygon) :=
  inferInstanceAs (Decidable (∀ ring ∈ polygon.exterior :: polygon.interiors,
    DoublePolygon.closeRing ring = ring))

/-- Twice the signed area between a ring and the origin, in square degrees. -/
def shoelace (ring : List DoubleCoord) : ℚ :=
  ((Lattice.segments ring).map fun line => value line.1.x.toF64 * value line.2.y.toF64 -
    value line.2.x.toF64 * value line.1.y.toF64).sum

theorem shoelace_reverse (ring : List DoubleCoord) : shoelace ring.reverse = -shoelace ring := by
  rw [shoelace, Lattice.segments_reverse, List.map_map, List.map_reverse, List.sum_reverse, shoelace,
    List.sum_neg, List.map_map]
  refine congrArg List.sum (List.map_congr_left fun line _ => ?_)
  simp

/-- The winding by the signed area. -/
def shoelaceWinding (ring : List DoubleCoord) : Option WindingOrder :=
  if shoelace ring = 0 then none
  else if shoelace ring < 0 then some .clockwise else some .counterClockwise

/-- Unions of polygons that are apart, and areas near the equator. -/
def squareGeo : AssemblyGeo where
  reads := ⟨trapezoidReads.boundingRect, fun _ => ⟨false, 0x4010000000000000⟩⟩
  union a b := (a ++ b).filter ClosedPolygon
  bufferWithStyle geometry _ := geometry
  windingOrder := shoelaceWinding
  geodesicAreaSigned polygon := .finite (shoelace polygon.exterior / 2 * 12308778361)
  predicates := touchingPlane

theorem squareGeo_lawful : squareGeo.Lawful where
  predicates := touchingPlane_complete
  windingOrder_nil := rfl
  windingOrder_reverse ring _ := by
    show shoelaceWinding ring.reverse = (shoelaceWinding ring).map _
    unfold shoelaceWinding
    rw [shoelace_reverse]
    rcases lt_trichotomy (shoelace ring) 0 with h | h | h
    · simp [h, h.ne, h.le, WindingOrder.opposite]
    · simp [h]
    · simp [h, h.ne', h.not_gt, WindingOrder.opposite]
  closed_union a b polygon hpolygon := of_decide_eq_true (List.mem_filter.1 hpolygon).2

/-- A backend that finds nothing to repair. -/
def squareOptions : AssemblyOptions where
  holeFillMode := .removeAll
  cleanEpsilon := smallDouble 0
  geometryRepair := some fun geometry _ => .ok (geometry.filter ClosedPolygon)

def clockwiseSquare : DoublePolygon := ⟨(trapezoid 2 2).exterior.reverse, []⟩

theorem assembleFromGeometries_spec_square :
    ∃ result, (assembleFromGeometries squareGeo squareOptions [[clockwiseSquare]]).run =
        .ok (.ok result) ∧
      result.Sound squareGeo := by
  have hdissolve : dissolve squareGeo.reads squareGeo.union [[clockwiseSquare]].flatten =
      .ok [clockwiseSquare] := by
    have hreduce : deterministicReduce squareGeo.union [[clockwiseSquare]] = [clockwiseSquare] := by
      rw [deterministicReduce]
      decide +kernel
    rw [dissolve, if_neg (by decide), dissolveSpatialReduceStrategy, dissolveReduceStrategy]
    exact congrArg Except.ok hreduce
  have hsome : ((assembleFromGeometries squareGeo squareOptions [[clockwiseSquare]]).run.toOption.bind
      Except.toOption).isSome := by
    unfold assembleFromGeometries
    rw [hdissolve]
    decide +kernel
  obtain ⟨result, hresult⟩ := Option.isSome_iff_exists.1 hsome
  obtain ⟨outcome, houtcome, hresult⟩ := Option.bind_eq_some_iff.1 hresult
  rw [Library.toOption_eq_some_iff] at houtcome hresult
  subst hresult
  have hrepair : squareOptions.RepairCloses := by
    intro repair hrepair geometry repaired hrepaired polygon hpolygon
    cases hrepair
    cases hrepaired
    exact of_decide_eq_true (List.mem_filter.1 hpolygon).2
  have hsound := (assembleFromGeometries_spec squareGeo squareGeo_lawful squareOptions hrepair
    [[clockwiseSquare]]).2.2 result houtcome
  exact ⟨result, houtcome, hsound⟩

end Pourpoint
