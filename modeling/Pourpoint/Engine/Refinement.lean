import Pourpoint.Cog.Layout
import Pourpoint.Engine.Error
import Pourpoint.Resolver.Outlet

/-!
# Outcomes of terminal refinement

The decision of a refinement strategy, the outcome of the stage with its provenance, and the
classification of errors into the reasons for which best-effort refinement is skipped.
-/

namespace Pourpoint

variable {Polygon : Type}

inductive RefinementMode where
  | bestEffort
  | requireD8
  | disabled
  deriving DecidableEq, Repr

inductive RefinementStrategyName where
  | builtInD8
  | bestEffortD8IfPresent
  deriving DecidableEq, Repr

inductive AppliedRefinementReason where
  | d8AuxMatchedTerminalBbox (declarationIndex : ℕ)
  | vectorOutletQuantized (declarationIndex : ℕ)
  | rasterOutletRanked (declarationIndex : ℕ)
  deriving DecidableEq, Repr

/-- `AppliedRefinementProvenance`. -/
structure AppliedRefinementProvenance where
  strategy : RefinementStrategyName
  why : AppliedRefinementReason
  deriving DecidableEq, Repr

inductive BestEffortSkipSource where
  | d8Selection
  | rasterLocalization
  | rasterLoad
  | refinementAlgorithm
  | containedTerminalGeometry
  | rasterSource
  deriving DecidableEq, Repr

/-- Why best-effort refinement was skipped. The historical guard failure carries its text. -/
inductive BestEffortSkipReason where
  | noD8AuxDeclared
  | coarseUnitOnlyNoD8AuxDeclared
  | unreadableD8AuxDeclared (schema : String)
  | noRasterSourceProvided
  | vectorOutletGuardFailed (detail : String)
  | availability (source : BestEffortSkipSource) (diagnostic : String)
  | misDeclaration (source : BestEffortSkipSource) (diagnostic : String)
  | dataGeometryIntegrity (source : BestEffortSkipSource) (diagnostic : String)
  deriving DecidableEq, Repr

/-- `BestEffortRefinementProvenance`. -/
structure BestEffortRefinementProvenance where
  strategy : RefinementStrategyName
  why : BestEffortSkipReason
  deriving DecidableEq, Repr

inductive TerminalRefinementError where
  | emptyContainedTerminalGeometry
  | rasterSource (unitId : UnitId) (strategy : RefinementStrategyName)
  | d8Selection (unitId : UnitId) (source : SessionError)
  | rasterLocalize (unitId : UnitId) (kind : RasterKind) (source : SessionError)
  | algorithm (unitId : UnitId) (source : RefinementError)
  deriving DecidableEq, Repr

/-- A carved terminal polygon, which is not empty. -/
structure ContainedTerminalPolygon (Polygon : Type) where
  polygon : List Polygon
  nonempty : polygon ≠ []

/-- `new_unchecked_from_d8_carve`. -/
def ContainedTerminalPolygon.new (polygon : List Polygon) :
    Except TerminalRefinementError (ContainedTerminalPolygon Polygon) :=
  if h : polygon ≠ [] then .ok ⟨polygon, h⟩ else .error .emptyContainedTerminalGeometry

/-- What a strategy decides. -/
inductive TerminalRefinementDecision (Polygon : Type) where
  | applied (refinedOutlet : GeoCoord) (geometry : ContainedTerminalPolygon Polygon)
      (provenance : AppliedRefinementProvenance)
  | bestEffortSkipped (provenance : BestEffortRefinementProvenance)

/-- The result of the stage. -/
inductive TerminalRefinement (Polygon : Type) where
  | disabled
  | bestEffortSkipped (provenance : BestEffortRefinementProvenance)
  | applied (refinedOutlet : GeoCoord) (geometry : ContainedTerminalPolygon Polygon)
      (provenance : AppliedRefinementProvenance)

namespace TerminalRefinement

/-- The geometry that replaces the terminal, if refinement applied. -/
def refinedTerminalGeometry : TerminalRefinement Polygon → Option (List Polygon)
  | .applied _ geometry _ => some geometry.polygon
  | .disabled => none
  | .bestEffortSkipped _ => none

/-- A skip of the convenience strategy. -/
def bestEffortSkip (why : BestEffortSkipReason) : TerminalRefinement Polygon :=
  .bestEffortSkipped ⟨.bestEffortD8IfPresent, why⟩

end TerminalRefinement

/-- `RefinementOutcome`. -/
inductive RefinementOutcome where
  | applied (refinedOutlet : GeoCoord) (provenance : AppliedRefinementProvenance)
  | bestEffortSkipped (provenance : BestEffortRefinementProvenance)
  | disabled
  deriving DecidableEq

/-! ## Skip reasons -/

/-- `to_string` of the errors. -/
structure ErrorText where
  session : SessionError → String
  refinement : RefinementError → String
  rasterSource : RasterSourceError → String
  terminal : TerminalRefinementError → String

/-- `best_effort_session_skip`. -/
def bestEffortSessionSkip (text : ErrorText) (error : SessionError) (source : BestEffortSkipSource) :
    BestEffortSkipReason :=
  match error with
  | .missingRequiredD8Aux | .noCoveringD8Tile _ | .ambiguousD8Coverage _ | .terminalSpansD8Tiles _
  | .cogExtentHeaderRead _ _ _ _ | .cache _ => .availability source (text.session error)
  | .d8CrsIdentifierOutOfRange _ | .unsupportedD8Crs _ => .misDeclaration source (text.session error)
  | _ => .dataGeometryIntegrity source (text.session error)

/-- `best_effort_refinement_skip`. -/
def bestEffortRefinementSkip (text : ErrorText) (error : RefinementError) : BestEffortSkipReason :=
  match error with
  | .dimensionMismatch _ _ _ _ | .geoTransformMismatch _ _ | .geographicKm2Unsupported _ _ =>
    .misDeclaration .refinementAlgorithm (text.refinement error)
  | .degenerateTerminalPolygon | .emptyRasterMask _ _ | .maskFailed _ | .snapFailed _
  | .emptyPolygonization | .inverseProjection _ _ =>
    .dataGeometryIntegrity .refinementAlgorithm (text.refinement error)
  | .rasterLoad source =>
    match source with
    | .fileNotFound _ | .openFailed _ _ | .readFailed _ _ | .emptyWindow _ =>
      .availability .rasterLoad (text.rasterSource source)
    | .invalidFlowDirectionNodata _ _ => .misDeclaration .rasterLoad (text.rasterSource source)
    | .tileConstruction _ => .dataGeometryIntegrity .rasterLoad (text.rasterSource source)

/-- `best_effort_skip_reason`. -/
def bestEffortSkipReason (text : ErrorText) (error : TerminalRefinementError) : BestEffortSkipReason :=
  match error with
  | .emptyContainedTerminalGeometry =>
    .dataGeometryIntegrity .containedTerminalGeometry (text.terminal error)
  | .rasterSource _ _ => .availability .rasterSource (text.terminal error)
  | .d8Selection _ source => bestEffortSessionSkip text source .d8Selection
  | .rasterLocalize _ _ source => bestEffortSessionSkip text source .rasterLocalization
  | .algorithm _ source => bestEffortRefinementSkip text source

/-- `From<TerminalRefinementError> for EngineError`. -/
def TerminalRefinementError.toEngine : TerminalRefinementError → EngineError
  | .emptyContainedTerminalGeometry => .refinement 0 .emptyPolygonization
  | .rasterSource unitId _ => .requiredD8RasterSourceMissing unitId
  | .d8Selection unitId source => .d8Selection unitId source
  | .rasterLocalize unitId _ source => .rasterLocalize unitId source
  | .algorithm unitId source => .refinement unitId source

end Pourpoint
