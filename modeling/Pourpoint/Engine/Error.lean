import Pourpoint.Catchment.Row
import Pourpoint.Refine
import Pourpoint.Validation

/-!
# Errors of a delineation
-/

namespace Pourpoint

/-- Errors of the final assembly, up to the geometries that are dissolved. -/
inductive AssemblyError where
  | catchmentQuery (source : SessionError)
  | missingCatchments (missingIds : List UnitId)
  | duplicateCatchment (unitId : UnitId)
  | geometryDecode (unitId : UnitId) (source : WkbDecodeError)
  | emptyCatchmentGeometry (unitId : UnitId)
  | emptyRefinedTerminalGeometry (unitId : UnitId)
  deriving DecidableEq, Repr

/-- Errors of a delineation. The message of `assembly` is the text of its source. -/
inductive EngineError where
  | traversal (unitId : UnitId) (source : TraversalError)
  | sameLevelInvariant (unitId : UnitId) (selectedLevel : Level) (actualLevel : Option Level)
  | preMergeCatchmentFetch (unitCount : ℕ) (source : SessionError)
  | preMergeCatchmentDecode (unitId : UnitId) (source : WkbDecodeError)
  | rasterLocalize (unitId : UnitId) (source : SessionError)
  | d8Selection (unitId : UnitId) (source : SessionError)
  | requiredD8RasterSourceMissing (unitId : UnitId)
  | refinement (unitId : UnitId) (source : RefinementError)
  | assembly (unitId : UnitId) (source : AssemblyError)
  deriving DecidableEq, Repr

end Pourpoint
