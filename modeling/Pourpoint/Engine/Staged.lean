import Pourpoint.Catchment.Queries
import Pourpoint.Engine.Refinement
import Pourpoint.Engine.Traverse
import Pourpoint.Library.SortedMap

/-!
# Staged and one-shot assembly

Two paths lead from a set of upstream units to the geometries that `assemble_from_geometries` dissolves.
The staged path materializes a record for every unit (`produce_pre_merge_units`) and puts the refined
terminal in its place afterwards (`dissolve_watershed`). The one-shot path (`assemble_watershed`) does
not read the stored terminal when a refined one is given.
-/

namespace Pourpoint

open Library

variable {Polygon : Type}

/-! ## Pre-merge units -/

/-- `PreMergeDrainageUnit`. -/
structure PreMergeDrainageUnit (Polygon : Type) where
  id : UnitId
  level : Level
  area : F32
  upstreamArea : Option F32
  outlet : OutletCoord
  geometry : List Polygon
  deriving DecidableEq

/-- `PreMergeDrainageUnits`, the terminal first. -/
structure PreMergeDrainageUnits (Polygon : Type) where
  terminal : UnitId
  selectedLevel : Level
  units : List (PreMergeDrainageUnit Polygon)
  deriving DecidableEq

namespace PreMergeDrainageUnits

/-- `terminal_unit`: the first record. -/
def terminalUnit (units : PreMergeDrainageUnits Polygon) : Option (PreMergeDrainageUnit Polygon) :=
  units.units.head?

end PreMergeDrainageUnits

/-- `map_err` of the geometry query of the staged path. -/
def CatchmentGeometryQueryError.toEngine (unitCount : ℕ) : CatchmentGeometryQueryError → EngineError
  | .read source => .preMergeCatchmentFetch unitCount source
  | .decode unitId source => .preMergeCatchmentDecode unitId source

/-- `ok_or_else` of a map lookup. -/
def found {ε α : Type} (error : ε) : Option α → Except ε α
  | some a => .ok a
  | none => .error error

/-- The loop of `produce_pre_merge_units`. A geometry is taken out of its map. -/
def collectPreMergeUnits (unitCount : ℕ) (selectedLevel : Level)
    (metadataById : UnitId → Option CatchmentUnit) :
    List UnitId → (UnitId → Option (List Polygon)) →
      Except EngineError (List (PreMergeDrainageUnit Polygon))
  | [], _ => .ok []
  | id :: ids, geometryById => do
    let metadata ← found (.preMergeCatchmentFetch unitCount (.integrityViolation
      s!"pre-merge unit {id} not in catchment store metadata")) (metadataById id)
    if metadata.level ≠ selectedLevel then
      .error (.sameLevelInvariant id selectedLevel (some metadata.level))
    else do
      let geometry ← found (.preMergeCatchmentFetch unitCount (.integrityViolation
        s!"pre-merge unit {id} not in catchment store geometry rows")) (geometryById id)
      let units ← collectPreMergeUnits unitCount selectedLevel metadataById ids
        (Function.update geometryById id none)
      .ok (⟨id, metadata.level, metadata.area, metadata.upstreamArea, metadata.outlet, geometry⟩ :: units)

/-- Units collected into a map: the last one of an id wins. -/
def metadataById (units : List CatchmentUnit) (id : UnitId) : Option CatchmentUnit :=
  units.reverse.find? (·.id = id)

/-- The last row of an id, as in a map. -/
def geometryById (rows : List (DecodedCatchmentGeometryRow Polygon)) (id : UnitId) :
    Option (List Polygon) :=
  (rows.reverse.find? (·.id = id)).map (·.geometry)

/-- `Engine::produce_pre_merge_units`. -/
def producePreMergeUnits (hfx : HfxUnit) (toGeo : List UInt8 → Except String (GeoGeometry Polygon))
    (store : CatchmentStore) (upstream : SameLevelUpstreamUnits) :
    Except EngineError (PreMergeDrainageUnits Polygon) := do
  let ids := upstream.upstream.units
  let metadata ← (store.queryByIds hfx ids).mapError (.preMergeCatchmentFetch ids.length)
  let geometries ← (store.queryGeometriesByIds hfx toGeo ids).mapError
    (CatchmentGeometryQueryError.toEngine ids.length)
  let units ← collectPreMergeUnits ids.length upstream.selectedLevel (metadataById metadata) ids
    (geometryById geometries)
  .ok ⟨upstream.terminal, upstream.selectedLevel, units⟩

/-! ## Dissolving -/

/-- The entries of the map in id order, none of them empty. -/
def nonEmptyGeometries (terminal : UnitId) (refined : Bool) :
    List (UnitId × List Polygon) → Except AssemblyError (List (List Polygon))
  | [] => .ok []
  | entry :: entries =>
    if entry.2.isEmpty then
      if entry.1 = terminal ∧ refined = true then .error (.emptyRefinedTerminalGeometry terminal)
      else .error (.emptyCatchmentGeometry entry.1)
    else do
      let geometries ← nonEmptyGeometries terminal refined entries
      .ok (entry.2 :: geometries)

/-- The map of `dissolve_watershed`. -/
def geometriesById (units : PreMergeDrainageUnits Polygon) (refined : Option (List Polygon)) :
    SortedMap UnitId (List Polygon) :=
  let map := units.units.foldl (fun map unit =>
    if unit.id = units.terminal ∧ refined.isSome then map else map.insert unit.id unit.geometry) .empty
  match refined with
  | some geometry => map.insert units.terminal geometry
  | none => map

/-- What `dissolve_watershed` hands to `assemble_from_geometries`. -/
def dissolveWatershed (units : PreMergeDrainageUnits Polygon) (refinement : TerminalRefinement Polygon) :
    Except EngineError (List (List Polygon)) :=
  let refined := refinement.refinedTerminalGeometry
  (nonEmptyGeometries units.terminal refined.isSome (geometriesById units refined).entries).mapError
    (.assembly units.terminal)

/-! ## One-shot assembly -/

/-- `map_geometry_query_error`. -/
def mapGeometryQueryError : CatchmentGeometryQueryError → AssemblyError
  | .read source => .catchmentQuery source
  | .decode unitId source => .geometryDecode unitId source

/-- Insert unless the key is there. -/
def insertVacant (map : SortedMap UnitId (List Polygon)) (unitId : UnitId) (geometry : List Polygon) :
    Except AssemblyError (SortedMap UnitId (List Polygon)) :=
  if map.contains unitId then .error (.duplicateCatchment unitId) else .ok (map.insert unitId geometry)

/-- `index_catchments_by_id`. An id that is fetched twice is an error. -/
def indexCatchmentsById (fetched : List (DecodedCatchmentGeometryRow Polygon)) :
    Except AssemblyError (SortedMap UnitId (List Polygon)) :=
  fetched.foldlM (fun map row => insertVacant map row.id row.geometry) .empty

/-- The ids that are read: all, without the terminal when a refined one is given. -/
def queryIds (terminal : UnitId) (unitIds : List UnitId) (refined : Option (List Polygon)) :
    List UnitId :=
  if refined.isSome then unitIds.filter (· ≠ terminal) else unitIds

/-- The refined terminal, when the store has a row for the terminal. -/
def insertRefined (store : CatchmentStore) (terminal : UnitId) (refined : Option (List Polygon))
    (unitMap : SortedMap UnitId (List Polygon)) :
    Except AssemblyError (SortedMap UnitId (List Polygon)) :=
  match refined with
  | some geometry =>
    if store.containsId terminal then insertVacant unitMap terminal geometry else .ok unitMap
  | none => .ok unitMap

/-- The one-shot path over a list of units and its terminal. -/
def assembleUnits (hfx : HfxUnit) (toGeo : List UInt8 → Except String (GeoGeometry Polygon))
    (store : CatchmentStore) (terminal : UnitId) (unitIds : List UnitId)
    (refined : Option (List Polygon)) : Except AssemblyError (List (List Polygon)) := do
  let fetched ← (store.queryGeometriesByIds hfx toGeo (queryIds terminal unitIds refined)).mapError
    mapGeometryQueryError
  let unitMap ← insertRefined store terminal refined (← indexCatchmentsById fetched)
  let missingIds := unitIds.filter fun id => !unitMap.contains id
  if missingIds ≠ [] then .error (.missingCatchments missingIds)
  else nonEmptyGeometries terminal refined.isSome unitMap.entries

/-- What `assemble_watershed` hands to `assemble_from_geometries`. Its terminal is the first unit. -/
def assembleWatershed (hfx : HfxUnit) (toGeo : List UInt8 → Except String (GeoGeometry Polygon))
    (store : CatchmentStore) (upstream : UpstreamUnits) (refined : Option (List Polygon)) :
    Fallible AssemblyError (List (List Polygon)) := do
  let terminal ← liftM upstream.terminal
  Fallible.mapError id (assembleUnits hfx toGeo store terminal upstream.units refined)

end Pourpoint
