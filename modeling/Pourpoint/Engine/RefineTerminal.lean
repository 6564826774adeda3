import Pourpoint.Engine.Agreement

/-!
# The refinement stage

`Engine::refine_terminal` runs a refinement strategy in one of three modes. Best effort turns whatever
goes wrong into a skip with a reason, requiring D8 turns a skip into an error, and only an applied
outcome changes what is dissolved (`refineTerminal_outcomes`).
-/

namespace Pourpoint

variable {Polygon : Type}

/-- The point from which the proximity of raster candidates is measured. -/
inductive OutletReference where
  | vectorPoint (coord : GeoCoord)
  | unitOnly (coord : GeoCoord)
  deriving DecidableEq, Repr

/-- `OutletReference::from`. -/
def OutletResolution.toReference : OutletResolution → OutletReference
  | .vectorPoint _ _ vectorCoord _ => .vectorPoint vectorCoord
  | .unitContainment _ inputCoord _ => .unitOnly inputCoord

/-- `TerminalRefinementInput`. -/
structure TerminalRefinementInput (Polygon : Type) where
  terminalUnit : UnitId
  terminalGeometry : List Polygon
  outletReference : OutletReference
  snapThreshold : ℕ

/-- A strategy of an engine, with the session and the raster source that it reads. -/
abbrev RefinementStrategy (Polygon : Type) :=
  TerminalRefinementInput Polygon → Except TerminalRefinementError (TerminalRefinementDecision Polygon)

/-- `first_unreadable_d8_auxiliary_schema`. -/
def AuxDeclarations.firstUnreadableD8Schema (aux : AuxDeclarations) : Option String :=
  (aux.unreadable.find? (·.schema.startsWith "hfx.aux.d8_raster.")).map (·.schema)

/-- `has_d8_aux`. -/
def AuxDeclarations.hasD8Aux (aux : AuxDeclarations) : Bool := !aux.d8Rasters.isEmpty

/-- The skip when no D8 raster is declared. -/
def skipWithoutD8Aux (aux : AuxDeclarations) (authority : OutletResolution) : TerminalRefinement Polygon :=
  match aux.firstUnreadableD8Schema with
  | some schema => .bestEffortSkip (.unreadableD8AuxDeclared schema)
  | none =>
    match authority with
    | .vectorPoint _ _ _ _ => .bestEffortSkip .noD8AuxDeclared
    | .unitContainment _ _ _ => .bestEffortSkip .coarseUnitOnlyNoD8AuxDeclared

/-- `terminal_refinement_from_decision`. -/
def terminalRefinementFromDecision (decision : TerminalRefinementDecision Polygon)
    (mode : RefinementMode) (terminal : UnitId) : Except EngineError (TerminalRefinement Polygon) :=
  match decision with
  | .applied refinedOutlet geometry provenance => .ok (.applied refinedOutlet geometry provenance)
  | .bestEffortSkipped provenance =>
    match mode with
    | .bestEffort => .ok (.bestEffortSkipped provenance)
    | .requireD8 => .error (.requiredD8RasterSourceMissing terminal)
    | .disabled => .ok .disabled

/-- The outcome of the stage for what the strategy returned. -/
def terminalRefinementFromResult (text : ErrorText)
    (result : Except TerminalRefinementError (TerminalRefinementDecision Polygon))
    (mode : RefinementMode) (terminal : UnitId) : Except EngineError (TerminalRefinement Polygon) :=
  match result with
  | .ok decision => terminalRefinementFromDecision decision mode terminal
  | .error error =>
    match mode with
    | .bestEffort => .ok (.bestEffortSkip (bestEffortSkipReason text error))
    | .requireD8 => .error error.toEngine
    | .disabled => .ok .disabled

/-- The stage once a D8 raster is declared. -/
def runRefinementStrategy (text : ErrorText) (strategy : RefinementStrategy Polygon)
    (authority : OutletResolution) (units : PreMergeDrainageUnits Polygon) (mode : RefinementMode)
    (snapThreshold : ℕ) : Except EngineError (TerminalRefinement Polygon) := do
  let terminalUnit ← found (.preMergeCatchmentFetch units.units.length (.integrityViolation
    s!"terminal unit {units.terminal} not in pre-merge units"))
    (units.terminalUnit.filter fun unit => unit.id = units.terminal)
  terminalRefinementFromResult text
    (strategy ⟨units.terminal, terminalUnit.geometry, authority.toReference, snapThreshold⟩) mode
    units.terminal

/-- `Engine::refine_terminal`. -/
def refineTerminalStage (text : ErrorText) (strategy : RefinementStrategy Polygon)
    (aux : AuxDeclarations) (authority : OutletResolution) (units : PreMergeDrainageUnits Polygon)
    (mode : RefinementMode) (snapThreshold : ℕ) : Except EngineError (TerminalRefinement Polygon) :=
  match mode with
  | .disabled => .ok .disabled
  | .bestEffort =>
    if aux.hasD8Aux then runRefinementStrategy text strategy authority units mode snapThreshold
    else .ok (skipWithoutD8Aux aux authority)
  | .requireD8 =>
    if aux.hasD8Aux then runRefinementStrategy text strategy authority units mode snapThreshold
    else .error (.d8Selection units.terminal .missingRequiredD8Aux)

namespace PreMergeDrainageUnits

/-- The first record is that of the terminal, as in every collection of the staged pipeline. -/
def TerminalFirst (units : PreMergeDrainageUnits Polygon) : Prop :=
  ∃ unit rest, units.units = unit :: rest ∧ unit.id = units.terminal

end PreMergeDrainageUnits

section

variable {text : ErrorText} {strategy : RefinementStrategy Polygon} {aux : AuxDeclarations}
  {authority : OutletResolution} {units : PreMergeDrainageUnits Polygon} {snapThreshold : ℕ}

/-- Best effort has an answer to every outcome of the strategy. -/
theorem terminalRefinementFromResult_bestEffort
    (result : Except TerminalRefinementError (TerminalRefinementDecision Polygon)) (terminal : UnitId) :
    ∃ outcome, terminalRefinementFromResult text result .bestEffort terminal = .ok outcome := by
  cases result with
  | error error => exact ⟨_, rfl⟩
  | ok decision =>
    cases decision with
    | applied refinedOutlet geometry provenance => exact ⟨_, rfl⟩
    | bestEffortSkipped provenance => exact ⟨_, rfl⟩

theorem applied_of_fromResult_requireD8
    {result : Except TerminalRefinementError (TerminalRefinementDecision Polygon)} {terminal : UnitId}
    {outcome : TerminalRefinement Polygon}
    (h : terminalRefinementFromResult text result .requireD8 terminal = .ok outcome) :
    ∃ refinedOutlet geometry provenance, outcome = .applied refinedOutlet geometry provenance := by
  cases result with
  | error error => cases h
  | ok decision =>
    cases decision with
    | applied refinedOutlet geometry provenance =>
      cases h
      exact ⟨_, _, _, rfl⟩
    | bestEffortSkipped provenance => cases h

theorem runRefinementStrategy_bestEffort (h : units.TerminalFirst) :
    ∃ outcome, runRefinementStrategy text strategy authority units .bestEffort snapThreshold =
      .ok outcome := by
  obtain ⟨unit, rest, hunits, hid⟩ := h
  have hterminal : (units.terminalUnit.filter fun unit => unit.id = units.terminal) = some unit := by
    rw [PreMergeDrainageUnits.terminalUnit, hunits, List.head?_cons]
    exact Option.filter_some_pos (decide_eq_true hid)
  rw [runRefinementStrategy, hterminal]
  exact terminalRefinementFromResult_bestEffort _ _

theorem refineTerminalStage_bestEffort (h : units.TerminalFirst) :
    ∃ outcome, refineTerminalStage text strategy aux authority units .bestEffort snapThreshold =
      .ok outcome := by
  simp only [refineTerminalStage]
  by_cases haux : aux.hasD8Aux
  · rw [if_pos haux]
    exact runRefinementStrategy_bestEffort h
  · rw [if_neg haux]
    exact ⟨_, rfl⟩

theorem applied_of_requireD8 {outcome : TerminalRefinement Polygon}
    (h : refineTerminalStage text strategy aux authority units .requireD8 snapThreshold = .ok outcome) :
    ∃ refinedOutlet geometry provenance, outcome = .applied refinedOutlet geometry provenance := by
  simp only [refineTerminalStage] at h
  by_cases haux : aux.hasD8Aux
  · rw [if_pos haux] at h
    obtain ⟨terminalUnit, -, h⟩ := Library.bind_eq_ok_iff.1 h
    exact applied_of_fromResult_requireD8 h
  · rw [if_neg haux] at h
    cases h

/-- Only an applied outcome is seen by the dissolve. -/
theorem dissolveWatershed_of_not_applied {outcome : TerminalRefinement Polygon}
    (h : ∀ refinedOutlet geometry provenance, outcome ≠ .applied refinedOutlet geometry provenance) :
    dissolveWatershed units outcome = dissolveWatershed units .disabled := by
  cases outcome with
  | disabled => rfl
  | bestEffortSkipped provenance => rfl
  | applied refinedOutlet geometry provenance => exact absurd rfl (h refinedOutlet geometry provenance)

end

/-- **Outcomes of the refinement stage.** For every strategy, all declarations and every terminal-first
collection of units: best effort never fails; whenever the outcome of any mode is not applied, the
geometries that are dissolved are those of the disabled mode; requiring D8 applies a refinement or
fails. -/
theorem refineTerminal_outcomes (text : ErrorText) (strategy : RefinementStrategy Polygon)
    (aux : AuxDeclarations) (authority : OutletResolution) (units : PreMergeDrainageUnits Polygon)
    (snapThreshold : ℕ) :
    (units.TerminalFirst → ∃ outcome,
      refineTerminalStage text strategy aux authority units .bestEffort snapThreshold = .ok outcome) ∧
    (∀ mode outcome disabledOutcome,
      refineTerminalStage text strategy aux authority units mode snapThreshold = .ok outcome →
      refineTerminalStage text strategy aux authority units .disabled snapThreshold =
        .ok disabledOutcome →
      (∀ refinedOutlet geometry provenance, outcome ≠ .applied refinedOutlet geometry provenance) →
      dissolveWatershed units outcome = dissolveWatershed units disabledOutcome) ∧
    (∀ outcome,
      refineTerminalStage text strategy aux authority units .requireD8 snapThreshold = .ok outcome →
      ∃ refinedOutlet geometry provenance, outcome = .applied refinedOutlet geometry provenance) := by
  refine ⟨refineTerminalStage_bestEffort, ?_, fun outcome => applied_of_requireD8⟩
  intro mode outcome disabledOutcome _ hdisabled hnot
  cases hdisabled
  exact dissolveWatershed_of_not_applied hnot

/-- A record of the triangle. -/
def triangleRecord (id : UnitId) : PreMergeDrainageUnit (List (ℤ × ℤ)) :=
  preMergeUnit id (triangleUnit id none) [trianglePolygon]

/-- One declared raster. -/
def oneD8Raster : AuxDeclarations where
  d8Rasters := [⟨"flow_dir.tif", "flow_acc.tif", ⟨"EPSG:4326", "esri", "cells"⟩⟩]
  snaps := []
  generic := []
  unreadable := []

/-- The terminal 7 is in the collection, but not first: best effort fails. -/
theorem not_refineTerminal_bestEffort :
    ¬∀ (text : ErrorText) (strategy : RefinementStrategy (List (ℤ × ℤ))) (aux : AuxDeclarations)
      (authority : OutletResolution) (units : PreMergeDrainageUnits (List (ℤ × ℤ))) (snapThreshold : ℕ),
      (∃ unit ∈ units.units, unit.id = units.terminal) →
      ∃ outcome, refineTerminalStage text strategy aux authority units .bestEffort snapThreshold =
        .ok outcome := by
  intro h
  obtain ⟨outcome, houtcome⟩ := h ⟨fun _ => "", fun _ => "", fun _ => "", fun _ => ""⟩
    (fun _ => .error .emptyContainedTerminalGeometry) oneD8Raster (.unitContainment 7 ⟨0, 0⟩ ⟨1, none⟩)
    ⟨7, 0, [triangleRecord 9, triangleRecord 7]⟩ 500 ⟨triangleRecord 7, by simp, rfl⟩
  cases houtcome

end Pourpoint
