import Pourpoint.Snaps.Store

/-!
# Outlets and their search boxes

The settings of outlet resolution keep the checks of their constructors as fields. A search box is
computed in `f64` from the cosine of the latitude, and its corners are rounded to `f32`; the cosine and
the square root of `f64` are parameters.

The result says which path chose the unit: a snap feature near the outlet, or a catchment that contains
it.
-/

namespace Pourpoint

namespace F64

/-- `f64::consts::PI`. -/
def pi : F64 := ofBits 0x400921FB54442D18

def toRadians (x : F64) : F64 := x.mul (pi.div (.finite 180))

end F64

/-! ## Settings -/

/-- A geographic coordinate in degrees, by the bits of its two `f64`. -/
structure GeoCoord where
  lon : BitVec 64
  lat : BitVec 64
  deriving DecidableEq, Repr

namespace GeoCoord

/-- The longitude as a number. -/
def lonValue (c : GeoCoord) : F64 := .ofBits c.lon.toNat

/-- The latitude as a number. -/
def latValue (c : GeoCoord) : F64 := .ofBits c.lat.toNat

end GeoCoord

/-- A finite and positive radius. -/
structure SearchRadiusMetres where
  metres : F64
  valid : metres.isFinite = true ∧ metres.isNonpos = false
  deriving DecidableEq

namespace SearchRadiusMetres

def default : SearchRadiusMetres := ⟨.finite 1000, rfl, rfl⟩

def new (metres : F64) : Except String SearchRadiusMetres :=
  if h : metres.isFinite = true ∧ metres.isNonpos = false then .ok ⟨metres, h⟩
  else .error "search radius must be finite and positive"

end SearchRadiusMetres

inductive SnapStrategy where
  | distanceFirst | weightFirst
  deriving DecidableEq, Repr

/-- The `distance_tolerance_m` of a config, which `with_distance_tolerance` checks. -/
structure DistanceTolerance where
  metres : F64
  valid : metres.isFinite = true ∧ metres.isNonneg = true
  deriving DecidableEq

/-- `ResolverConfig`. -/
structure ResolverConfig where
  searchRadius : SearchRadiusMetres
  distanceToleranceM : DistanceTolerance
  snapStrategy : SnapStrategy
  deriving DecidableEq

namespace ResolverConfig

def new : ResolverConfig where
  searchRadius := .default
  distanceToleranceM := ⟨.finite 1, rfl, rfl⟩
  snapStrategy := .weightFirst

def withSearchRadius (config : ResolverConfig) (radius : SearchRadiusMetres) : ResolverConfig :=
  { config with searchRadius := radius }

def withDistanceTolerance (config : ResolverConfig) (toleranceM : F64) :
    Except String ResolverConfig :=
  if h : toleranceM.isFinite = true ∧ toleranceM.isNonneg = true then
    .ok { config with distanceToleranceM := ⟨toleranceM, h⟩ }
  else .error "distance tolerance must be finite and non-negative"

def withSnapStrategy (config : ResolverConfig) (strategy : SnapStrategy) : ResolverConfig :=
  { config with snapStrategy := strategy }

end ResolverConfig

/-! ## Results -/

/-- Why a containing catchment was chosen among several. -/
inductive PipTieBreak where
  | highestUpstreamArea | highestLocalArea | lowestUnitId
  deriving DecidableEq, Repr

/-- `VectorResolutionProvenance`. -/
structure VectorResolutionProvenance where
  strategy : SnapStrategy
  snapId : ℤ
  distanceM : Double
  weight : F32
  mainstemStatus : Option StemRole
  candidatesConsidered : ℕ
  deriving DecidableEq

/-- `ContainmentResolutionProvenance`. -/
structure ContainmentResolutionProvenance where
  candidatesConsidered : ℕ
  tieBreak : Option PipTieBreak
  deriving DecidableEq, Repr

/-- `OutletResolution`. -/
inductive OutletResolution where
  | vectorPoint (unitId : UnitId) (inputCoord vectorCoord : GeoCoord)
      (provenance : VectorResolutionProvenance)
  | unitContainment (unitId : UnitId) (inputCoord : GeoCoord)
      (provenance : ContainmentResolutionProvenance)
  deriving DecidableEq

namespace OutletResolution

def unitId : OutletResolution → UnitId
  | vectorPoint unitId _ _ _ => unitId
  | unitContainment unitId _ _ => unitId

def inputCoord : OutletResolution → GeoCoord
  | vectorPoint _ inputCoord _ _ => inputCoord
  | unitContainment _ inputCoord _ => inputCoord

/-- The vector point when snapped, the request point under containment. -/
def resolvedCoord : OutletResolution → GeoCoord
  | vectorPoint _ _ vectorCoord _ => vectorCoord
  | unitContainment _ inputCoord _ => inputCoord

end OutletResolution

/-- `ResolutionMethod`. -/
inductive ResolutionMethod where
  | snap (strategy : SnapStrategy) (snapId : ℤ) (distanceM : Double) (weight : F32)
      (mainstemStatus : Option StemRole) (candidatesConsidered : ℕ)
  | pointInPolygon (candidatesConsidered : ℕ) (tieBreak : Option PipTieBreak)
  deriving DecidableEq

/-- `method`. -/
def OutletResolution.method : OutletResolution → ResolutionMethod
  | .vectorPoint _ _ _ provenance =>
    .snap provenance.strategy provenance.snapId provenance.distanceM provenance.weight
      provenance.mainstemStatus provenance.candidatesConsidered
  | .unitContainment _ _ provenance =>
    .pointInPolygon provenance.candidatesConsidered provenance.tieBreak

inductive OutletResolutionError where
  | noSnapCandidates (outlet : GeoCoord) (searchRadius : SearchRadiusMetres)
  | outsideAllCatchments (outlet : GeoCoord)
  | datasetRead (source : SnapReadError)
  | allGeometriesCorrupt (outlet : GeoCoord) (count : ℕ)
  deriving DecidableEq

/-- `internal_resolver_inconsistency`. -/
def internalResolverInconsistency (detail : String) : OutletResolutionError :=
  .datasetRead (.session (.integrityViolation detail))

/-! ## Distances -/

/-- A search radius in metres as a box in degrees. `boundingBox` is the check of `BoundingBox::new`. -/
def searchBbox (cos : F64 → F64) (boundingBox : F32 → F32 → F32 → F32 → Option String)
    (center : GeoCoord) (radiusM : F64) : Except OutletResolutionError UnitBox :=
  let cosLat := (cos center.latValue.toRadians).abs.max (.round (1 / 10 ^ 10))
  let dlat := radiusM.div (.finite 110540)
  let dlon := radiusM.div ((F64.finite 111320).mul cosLat)
  let minx := ((center.lonValue.sub dlon).max (.finite (-180))).toF32
  let miny := ((center.latValue.sub dlat).max (.finite (-90))).toF32
  let maxx := ((center.lonValue.add dlon).min (.finite 180)).toF32
  let maxy := ((center.latValue.add dlat).min (.finite 90)).toF32
  match boundingBox minx miny maxx maxy with
  | none => .ok ⟨minx, miny, maxx, maxy⟩
  | some e => .error (internalResolverInconsistency ("search bbox construction failed: " ++ e))

/-- Local tangent-plane distance in metres. -/
def localMetreDistance (cos : F64 → F64) (sqrt : F64 → Double) (a b : GeoCoord) : Double :=
  let latAvg := ((a.latValue.add b.latValue).div (.finite 2)).toRadians
  let dxM := ((b.lonValue.sub a.lonValue).mul (.finite 111320)).mul (cos latAvg)
  let dyM := (b.latValue.sub a.latValue).mul (.finite 110540)
  sqrt ((dxM.mul dxM).add (dyM.mul dyM))

end Pourpoint
