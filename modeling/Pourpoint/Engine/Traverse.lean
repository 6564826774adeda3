import Pourpoint.Engine.Error

/-!
# Same-level traversal

`traverse_upstream_at_level` collects the units upstream of a resolved outlet and checks that each is at
the selected level. After validation has passed, neither the traversal nor the check can fail
(`validated_traversal`): the edges of the graph join units of one level, so every unit from which the
terminal is reached has the level of the terminal.
-/

namespace Pourpoint

/-- The unit of a resolved outlet and the level that was selected for it. -/
structure LevelResolvedOutlet where
  unitId : UnitId
  selectedLevel : Level
  deriving DecidableEq, Repr

/-- `SameLevelUpstreamUnits`. -/
structure SameLevelUpstreamUnits where
  terminal : UnitId
  selectedLevel : Level
  upstream : UpstreamUnits
  deriving DecidableEq, Repr

/-- `DatasetSession::level_of`. -/
def levelOf (graph : DrainageGraph) (unitId : UnitId) : Option Level :=
  (graph.get unitId).map (·.level)

/-- The level check of the traversed units. -/
def checkLevels (graph : DrainageGraph) (selectedLevel : Level) :
    List UnitId → Fallible EngineError Unit
  | [] => pure ()
  | unitId :: unitIds => do
    Fallible.failIf (levelOf graph unitId ≠ some selectedLevel)
      (.sameLevelInvariant unitId selectedLevel (levelOf graph unitId))
    checkLevels graph selectedLevel unitIds

/-- `map_err`. -/
def mapTraversalError (unitId : UnitId) {α : Type} (x : Fallible TraversalError α) :
    Fallible EngineError α :=
  ExceptT.mk (x.run.map fun result => result.mapError (.traversal unitId))

/-- `Engine::traverse_upstream_at_level`. -/
def traverseUpstreamAtLevel (graph : DrainageGraph) (outlet : LevelResolvedOutlet) :
    Fallible EngineError SameLevelUpstreamUnits := do
  let upstream ← mapTraversalError outlet.unitId (collectUpstream outlet.unitId graph)
  checkLevels graph outlet.selectedLevel upstream.units
  pure ⟨outlet.unitId, outlet.selectedLevel, upstream⟩

variable {manifest : Manifest} {graph : DrainageGraph} {rows : List CatchmentIdLevelRow}

namespace Consistent

theorem upstream_level (h : Consistent manifest graph rows) {id other : UnitId} {level : Level}
    (hedge : graph.Upstream id other) (hlevel : levelOf graph other = some level) :
    levelOf graph id = some level := by
  obtain ⟨row, hrow, rfl⟩ := Option.map_eq_some_iff.1 hlevel
  have hid : id ∈ row.upstreamIds := by
    unfold DrainageGraph.Upstream DrainageGraph.upstreamIds at hedge
    rw [hrow] at hedge
    exact hedge
  obtain ⟨upstream, hmem, rfl, hsame⟩ := h.edges row (DrainageGraph.mem_of_get hrow).1 id hid
  rw [levelOf, DrainageGraph.get_of_mem hmem, Option.map_some, hsame]

/-- **Levels along the walk.** Every unit from which a unit is reached has its level. -/
theorem reaches_level (h : Consistent manifest graph rows) {id terminal : UnitId} {level : Level}
    (hreach : Relation.ReflTransGen graph.Upstream id terminal)
    (hlevel : levelOf graph terminal = some level) : levelOf graph id = some level := by
  induction hreach using Relation.ReflTransGen.head_induction_on with
  | refl => exact hlevel
  | head hedge _ ih => exact h.upstream_level hedge ih

/-- The traversal of consistent data returns. -/
theorem collectUpstream_eq_ok (h : Consistent manifest graph rows) {terminal : UnitId} {level : Level}
    (hlevel : levelOf graph terminal = some level) :
    ∃ result, (collectUpstream terminal graph).run = .ok (.ok result) ∧
      result.Complete graph terminal := by
  rcases collectUpstream_spec terminal graph with
    ⟨result, hrun, -, hcomplete⟩ | ⟨-, habsent⟩ | ⟨source, target, -, -, hreach, hedge, habsent⟩
  · exact ⟨result, hrun, hcomplete⟩
  · rw [levelOf, habsent] at hlevel
    cases hlevel
  · -- The dangling unit would have the level of the terminal, and so a row.
    have htarget := h.upstream_level hedge (h.reaches_level hreach hlevel)
    rw [levelOf, habsent] at htarget
    cases htarget

end Consistent

theorem checkLevels_eq_ok {level : Level} {unitIds : List UnitId}
    (h : ∀ id ∈ unitIds, levelOf graph id = some level) :
    (checkLevels graph level unitIds).run = .ok (.ok ()) := by
  induction unitIds with
  | nil => rfl
  | cons id unitIds ih =>
    have hid : ¬levelOf graph id ≠ some level := not_not.2 (h id List.mem_cons_self)
    unfold checkLevels
    rw [Fallible.failIf, if_neg hid]
    exact ih fun other hother => h other (List.mem_cons_of_mem _ hother)

/-- What the traversal tags is complete for its terminal, and so lists it first. -/
theorem complete_of_traverseUpstreamAtLevel {outlet : LevelResolvedOutlet}
    {upstream : SameLevelUpstreamUnits}
    (h : (traverseUpstreamAtLevel graph outlet).run = .ok (.ok upstream)) :
    upstream.terminal = outlet.unitId ∧ upstream.upstream.Complete graph upstream.terminal := by
  obtain ⟨units, hunits, h⟩ := Fallible.bind_run_eq_ok h
  obtain ⟨-, -, h⟩ := Fallible.bind_run_eq_ok h
  cases h
  refine ⟨rfl, ?_⟩
  rcases collectUpstream_spec outlet.unitId graph with
    ⟨result, hrun, -, hcomplete⟩ | ⟨hrun, -⟩ | ⟨source, target, hrun, -⟩
  · simp only [mapTraversalError, hrun] at hunits
    cases hunits
    exact hcomplete
  · simp only [mapTraversalError, hrun] at hunits
    cases hunits
  · simp only [mapTraversalError, hrun] at hunits
    cases hunits

/-- **Validation makes traversal errors unreachable.** Validation succeeds exactly on consistent data;
after it has succeeded, the upstream units of every unit are collected without an error, and the
traversal at the level of the unit returns them. -/
theorem validated_traversal (manifest : Manifest) (graph : DrainageGraph)
    (rows : List CatchmentIdLevelRow) :
    ((∃ levels, validateGraphCatchments manifest graph rows = .ok levels) ↔
      Consistent manifest graph rows) ∧
    ((∃ levels, validateGraphCatchments manifest graph rows = .ok levels) →
      ∀ terminal level, levelOf graph terminal = some level →
        ∃ result, (collectUpstream terminal graph).run = .ok (.ok result) ∧
          (traverseUpstreamAtLevel graph ⟨terminal, level⟩).run =
            .ok (.ok ⟨terminal, level, result⟩)) := by
  refine ⟨validateGraphCatchments_eq_ok_iff, ?_⟩
  intro hvalid terminal level hlevel
  have hconsistent := validateGraphCatchments_eq_ok_iff.1 hvalid
  obtain ⟨result, hrun, hcomplete⟩ := hconsistent.collectUpstream_eq_ok hlevel
  refine ⟨result, hrun, ?_⟩
  have hlevels : ∀ id ∈ result.units, levelOf graph id = some level :=
    fun id hid => hconsistent.reaches_level ((hcomplete.mem_iff id).1 hid) hlevel
  unfold traverseUpstreamAtLevel mapTraversalError
  rw [hrun]
  show ExceptT.run (checkLevels graph level result.units >>= _) = _
  rw [ExceptT.run_bind, checkLevels_eq_ok hlevels]
  rfl

end Pourpoint
