import Pourpoint.Engine.RefineTerminal
import Pourpoint.Library.MinBy
import Pourpoint.Resolver.Containment
import Pourpoint.Resolver.Vector
import Pourpoint.WatershedGeometry

/-!
# Delineation

`Engine::delineate` selects the finest level of a session, resolves the outlet to a unit of that level,
collects the units upstream of it, fetches their records, refines the terminal, dissolves the polygons and
composes the result. The stages are those of the other modules; here they are put together, with the
errors of each.
-/

namespace Pourpoint

open Fallible Library

/-! ## Sessions -/

/-- A declared snap file and its store. -/
structure DeclaredSnap where
  decl : SnapDecl
  store : SnapStore

/-- What a delineation reads of an opened dataset. -/
structure DatasetSession where
  manifest : Manifest
  graph : DrainageGraph
  catchments : CatchmentStore
  snapStores : List DeclaredSnap
  aux : AuxDeclarations

namespace DatasetSession

def maxLevel (session : DatasetSession) : Option Level := (session.graph.rows.map (·.level)).max?

/-- The order of declarations for one level. -/
def snapOrder (a b : DeclaredSnap) : Ordering :=
  (compare a.decl.name b.decl.name).then (compare a.decl.snap b.decl.snap)

/-- `snap_for_level`. Of the declarations that cover the level, the least by name and path. -/
def snapForLevel (session : DatasetSession) (level : Level) : Option SnapStore :=
  (minBy snapOrder (session.snapStores.filter fun snap => level ∈ snap.decl.referencesLevels)).map
    (·.store)

end DatasetSession

/-! ## Options and results -/

/-- `DEFAULT_CLEANING_EPSILON`: the double `0.00001`. -/
def defaultCleaningEpsilon : Double := ⟨false, 0x3EE4F8B588E368F1⟩

/-- `DelineationOptions`. -/
structure DelineationOptions where
  resolverConfig : ResolverConfig
  snapThreshold : SnapThreshold
  holeFillMode : HoleFillMode
  cleanEpsilon : Double
  refinementMode : RefinementMode

namespace DelineationOptions

def default : DelineationOptions where
  resolverConfig := .new
  snapThreshold := ⟨1000, by norm_num⟩
  holeFillMode := .removeAll
  cleanEpsilon := defaultCleaningEpsilon
  refinementMode := .bestEffort

end DelineationOptions

/-- `refinement_outcome_from_terminal`. -/
def TerminalRefinement.outcome {Polygon : Type} : TerminalRefinement Polygon → RefinementOutcome
  | .applied refinedOutlet _ provenance => .applied refinedOutlet provenance
  | .bestEffortSkipped provenance => .bestEffortSkipped provenance
  | .disabled => .disabled

/-- `DelineationUnitMetadata`. -/
structure DelineationUnitMetadata where
  id : UnitId
  level : Level
  area : F32
  upArea : Option F32
  outlet : OutletCoord
  deriving DecidableEq

/-- `from_pre_merge`. -/
def DelineationUnitMetadata.fromPreMerge {Polygon : Type} (unit : PreMergeDrainageUnit Polygon) :
    DelineationUnitMetadata :=
  ⟨unit.id, unit.level, unit.area, unit.upstreamArea, unit.outlet⟩

/-- Errors of a delineation: those of the stages in `EngineError` and the ones that arise around them.
Both `assembly` errors of the stages and `finalAssembly` are `EngineError::Assembly`. -/
inductive DelineationError where
  | sessionLevelIndexEmpty (fabric : String) (unitCount : ℕ)
  | resolution (outlet : GeoCoord) (source : OutletResolutionError)
  | stage (source : EngineError)
  | finalAssembly (unitId : UnitId) (source : FinalAssemblyError)
  deriving DecidableEq

/-! ## The engine -/

/-- What the engine calls of other crates: constructors of `hfx`, the reading and the tests of geometries,
the operations of the assembly, and the texts of errors. -/
structure EngineCrates (Geometry : Type) where
  hfx : HfxUnit
  snapReader : SnapReader
  snapGeo : SnapGeo Geometry
  pipGeo : PipGeo DoublePolygon
  text : ErrorText
  assembly : AssemblyGeo

/-- The strategy comes with the raster source that it reads. -/
structure Engine where
  session : DatasetSession
  refinementStrategy : RefinementStrategy DoublePolygon
  geometryRepair : Option GeometryRepair

namespace Engine

/-- What a delineation returns; the export reads a part of it. -/
structure DelineationResult where
  terminalUnitId : UnitId
  inputOutlet : GeoCoord
  resolvedOutlet : GeoCoord
  resolutionMethod : ResolutionMethod
  upstreamUnitIds : List UnitId
  upstreamUnits : List DelineationUnitMetadata
  refinement : RefinementOutcome
  geometry : List DoublePolygon
  areaKm2 : F64
  deriving DecidableEq

/-- `select_level(Finest)`. -/
def selectLevel (engine : Engine) : Except DelineationError Level :=
  found (.sessionLevelIndexEmpty engine.session.manifest.fabricName engine.session.manifest.unitCount)
    engine.session.maxLevel

section

variable {Geometry : Type} (crates : EngineCrates Geometry) (engine : Engine)

/-- `resolve_outlet_authority_at_level`. -/
def resolveOutletAuthorityAtLevel (outlet : GeoCoord) (selectedLevel : Level) (config : ResolverConfig) :
    Except OutletResolutionError OutletResolution :=
  match engine.session.snapForLevel selectedLevel with
  | some snapStore =>
    resolveViaSnapStore crates.snapGeo engine.session.graph outlet (some selectedLevel) config
      crates.snapReader snapStore
  | none =>
    resolveViaPip crates.pipGeo outlet (some selectedLevel) crates.hfx.boundingBox
      (engine.session.catchments.queryByBbox crates.hfx)

/-- `build_assembly_options`. -/
def buildAssemblyOptions (options : DelineationOptions) : AssemblyOptions :=
  ⟨options.holeFillMode, options.cleanEpsilon, engine.geometryRepair⟩

/-- `dissolve_watershed` as a whole. -/
def dissolve (options : DelineationOptions) (units : PreMergeDrainageUnits DoublePolygon)
    (refinement : TerminalRefinement DoublePolygon) : Fallible DelineationError AssemblyResult := do
  let geometries ← mapError .stage (dissolveWatershed units refinement)
  mapFallibleError (.finalAssembly units.terminal)
    (assembleFromGeometries crates.assembly (engine.buildAssemblyOptions options) geometries)

/-- `compose_result`. -/
def composeResult (authority : OutletResolution) (upstream : SameLevelUpstreamUnits)
    (units : PreMergeDrainageUnits DoublePolygon) (refinement : TerminalRefinement DoublePolygon)
    (dissolved : AssemblyResult) : DelineationResult where
  terminalUnitId := authority.unitId
  inputOutlet := authority.inputCoord
  resolvedOutlet := authority.resolvedCoord
  resolutionMethod := authority.method
  upstreamUnitIds := upstream.upstream.units
  upstreamUnits := units.units.map .fromPreMerge
  refinement := refinement.outcome
  geometry := dissolved.geometry
  areaKm2 := dissolved.areaKm2

/-- The stages after the traversal. -/
def delineateUpstream (options : DelineationOptions) (authority : OutletResolution)
    (upstream : SameLevelUpstreamUnits) : Fallible DelineationError DelineationResult := do
  let units ← mapError .stage
    (producePreMergeUnits crates.hfx crates.pipGeo.toGeo engine.session.catchments upstream)
  let refinement ← mapError .stage (refineTerminalStage crates.text engine.refinementStrategy
    engine.session.aux authority units options.refinementMode options.snapThreshold.pixels)
  let dissolved ← engine.dissolve crates options units refinement
  pure (composeResult authority upstream units refinement dissolved)

/-- `Engine::delineate`. Stage after stage. -/
def delineate (outlet : GeoCoord) (options : DelineationOptions) :
    Fallible DelineationError DelineationResult := do
  let selectedLevel ← mapError id engine.selectLevel
  let authority ← mapError (.resolution outlet)
    (engine.resolveOutletAuthorityAtLevel crates outlet selectedLevel options.resolverConfig)
  let upstream ← mapFallibleError .stage
    (traverseUpstreamAtLevel engine.session.graph ⟨authority.unitId, selectedLevel⟩)
  engine.delineateUpstream crates options authority upstream

end

end Engine

end Pourpoint
