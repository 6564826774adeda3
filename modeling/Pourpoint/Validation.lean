import Pourpoint.Manifest
import Pourpoint.Upstream

/-!
# Open-time validation

`validate_graph_catchments` compares the manifest, the drainage graph and the `(id, level)` rows of the
catchments. It never compares the two sets of ids as such: equal counts and an inclusion each way have
to do. `validateGraphCatchments_eq_ok_iff` says that this is enough, for every graph and every list of
rows. `validate_snap_refs` checks the units that snap targets reference.
-/

namespace Pourpoint

open Library

/-! ## Checks in sequence -/

theorem failWhen_bind_eq_ok_iff {α : Type} {c : Prop} [Decidable c] {error : SessionError}
    {f : Unit → Except SessionError α} {a : α} :
    (failWhen c error >>= f) = .ok a ↔ ¬c ∧ f () = .ok a := by
  unfold failWhen
  by_cases hc : c
  · rw [if_pos hc, error_bind]
    simp [hc]
  · rw [if_neg hc, ok_bind]
    simp [hc]

theorem failWhen_eq_ok_iff {c : Prop} [Decidable c] {error : SessionError} :
    failWhen c error = .ok () ↔ ¬c := by
  unfold failWhen
  by_cases hc : c
  · simp [hc]
  · simp [hc]

theorem require_bind_eq_ok_iff {α β : Type} {error : SessionError} {o : Option α}
    {f : α → Except SessionError β} {b : β} :
    (require error o >>= f) = .ok b ↔ ∃ a, o = some a ∧ f a = .ok b := by
  cases o with
  | none =>
    show (.error error : Except SessionError β) = .ok b ↔ _
    simp
  | some a =>
    show f a = .ok b ↔ _
    simp

theorem forM_eq_ok_iff {α ε : Type} {f : α → Except ε Unit} {l : List α} :
    l.forM f = .ok () ↔ ∀ a ∈ l, f a = .ok () := by
  constructor
  · intro h a ha
    exact forM_eq_ok h ha
  · intro h
    induction l with
    | nil => rfl
    | cons a l ih =>
      show (f a >>= fun _ => l.forM f) = .ok ()
      rw [h a List.mem_cons_self, ok_bind]
      exact ih fun b hb => h b (List.mem_cons_of_mem _ hb)

theorem forM_bind_eq_ok_iff {α β ε : Type} {f : α → Except ε Unit} {l : List α}
    {g : Unit → Except ε β} {b : β} :
    (l.forM f >>= g) = .ok b ↔ (∀ a ∈ l, f a = .ok ()) ∧ g () = .ok b := by
  rw [← forM_eq_ok_iff]
  cases l.forM f with
  | error e => simp
  | ok u =>
    cases u
    simp

/-! ## Graph and catchments -/

/-- A catchment row as the validation reads it. -/
structure CatchmentIdLevelRow where
  id : UnitId
  level : Level
  deriving DecidableEq, Repr

/-- The rows collected into a map: the last row of an id wins. -/
def catchmentLevels (rows : List CatchmentIdLevelRow) (id : UnitId) : Option Level :=
  (rows.reverse.find? (·.id = id)).map (·.level)

/-- What the validation asks an open catchment store: the row count of the footer, the ids of the index, and
the levels, which may have to be read. -/
structure StoreReads where
  totalRows : ℕ
  ids : List UnitId
  levels : Except SessionError (UnitId → Option Level)

/-- A store that was read from rows. -/
def StoreReads.ofRows (rows : List CatchmentIdLevelRow) : StoreReads where
  totalRows := rows.length
  ids := rows.map (·.id)
  levels := .ok (catchmentLevels rows)

/-- The checks of one upstream reference. -/
def checkUpstreamRef (ids : List UnitId) (levels : UnitId → Option Level) (row : AdjacencyRow)
    (upstreamId : UnitId) : Except SessionError Unit := do
  failWhen (upstreamId ∉ ids) (.graphReferentialIntegrity
    s!"graph unit {row.id} references upstream unit {upstreamId} which has no catchment row")
  let upstreamLevel ← require (.graphReferentialIntegrity
    s!"upstream unit {upstreamId} has no catchment level") (levels upstreamId)
  failWhen (upstreamLevel ≠ row.level) (.graphReferentialIntegrity
    s!"graph edge {upstreamId} -> {row.id} crosses levels {upstreamLevel} -> {row.level}")

/-- The checks of one graph row. -/
def checkGraphRow (ids : List UnitId) (levels : UnitId → Option Level) (row : AdjacencyRow) :
    Except SessionError Unit := do
  failWhen (row.id ∉ ids) (.graphReferentialIntegrity
    s!"graph unit {row.id} has no corresponding catchment row")
  let rowLevel ← require (.graphReferentialIntegrity
    s!"graph unit {row.id} has no catchment level") (levels row.id)
  failWhen (row.level ≠ rowLevel) (.graphReferentialIntegrity
    s!"graph unit {row.id} level {row.level} differs from catchment level {rowLevel}")
  row.upstreamIds.forM (checkUpstreamRef ids levels row)

/-- `validate_graph_catchments`. -/
def validateCatchmentStore (manifest : Manifest) (graph : DrainageGraph) (store : StoreReads) :
    Except SessionError (UnitId → Option Level) := do
  failWhen (manifest.unitCount ≠ store.totalRows)
    (.unitCountMismatch manifest.unitCount store.totalRows)
  let levels ← store.levels
  failWhen (graph.rows.length ≠ store.ids.length) (.graphReferentialIntegrity
    s!"graph row count {graph.rows.length} does not match catchment row count {store.ids.length}")
  graph.rows.forM (checkGraphRow store.ids levels)
  store.ids.forM fun id => failWhen (graph.get id = none) (.graphReferentialIntegrity
    s!"catchment unit {id} has no corresponding graph row")
  .ok levels

/-- `validate_graph_catchments` on a store that was read from `rows`. -/
def validateGraphCatchments (manifest : Manifest) (graph : DrainageGraph)
    (rows : List CatchmentIdLevelRow) : Except SessionError (UnitId → Option Level) :=
  validateCatchmentStore manifest graph (.ofRows rows)

/-- The manifest counts the catchment rows, the rows are those of the graph with the same levels, one
for each unit, and every edge joins units of one level. -/
structure Consistent (manifest : Manifest) (graph : DrainageGraph) (rows : List CatchmentIdLevelRow) :
    Prop where
  count : manifest.unitCount = rows.length
  nodup : (rows.map (·.id)).Nodup
  ids : ∀ id, id ∈ rows.map (·.id) ↔ id ∈ graph.ids
  levels : ∀ graphRow ∈ graph.rows, ∀ row ∈ rows, row.id = graphRow.id → row.level = graphRow.level
  edges : ∀ graphRow ∈ graph.rows, ∀ upstreamId ∈ graphRow.upstreamIds,
    ∃ upstream ∈ graph.rows, upstream.id = upstreamId ∧ upstream.level = graphRow.level

section

variable {manifest : Manifest} {graph : DrainageGraph} {rows : List CatchmentIdLevelRow}

theorem checkGraphRow_eq_ok_iff {ids : List UnitId} {levels : UnitId → Option Level}
    {row : AdjacencyRow} :
    checkGraphRow ids levels row = .ok () ↔ row.id ∈ ids ∧ levels row.id = some row.level ∧
      ∀ upstreamId ∈ row.upstreamIds, upstreamId ∈ ids ∧ levels upstreamId = some row.level := by
  have hupstream : ∀ upstreamId, checkUpstreamRef ids levels row upstreamId = .ok () ↔
      upstreamId ∈ ids ∧ levels upstreamId = some row.level := by
    intro upstreamId
    rw [checkUpstreamRef, failWhen_bind_eq_ok_iff, require_bind_eq_ok_iff, not_not]
    simp only [failWhen_eq_ok_iff, not_not, exists_eq_right]
  rw [checkGraphRow, failWhen_bind_eq_ok_iff, require_bind_eq_ok_iff, not_not]
  simp only [failWhen_bind_eq_ok_iff, not_not, forM_eq_ok_iff, hupstream]
  constructor
  · intro h
    obtain ⟨hid, level, hlevel, rfl, hrest⟩ := h
    exact ⟨hid, hlevel, hrest⟩
  · intro h
    exact ⟨h.1, row.level, h.2.1, rfl, h.2.2⟩

theorem validateGraphCatchments_eq_ok {levels : UnitId → Option Level} :
    validateGraphCatchments manifest graph rows = .ok levels ↔
      manifest.unitCount = rows.length ∧ graph.rows.length = rows.length ∧
        (∀ row ∈ graph.rows, checkGraphRow (rows.map (·.id)) (catchmentLevels rows) row = .ok ()) ∧
        (∀ id ∈ rows.map (·.id), id ∈ graph.ids) ∧ catchmentLevels rows = levels := by
  unfold validateGraphCatchments validateCatchmentStore StoreReads.ofRows
  simp only [failWhen_bind_eq_ok_iff, ok_bind, List.length_map, forM_bind_eq_ok_iff,
    failWhen_eq_ok_iff, not_not, DrainageGraph.get_eq_none_iff, Except.ok.injEq]

/-- The map of rows with distinct ids. -/
theorem catchmentLevels_of_mem (hnodup : (rows.map (·.id)).Nodup) {row : CatchmentIdLevelRow}
    (h : row ∈ rows) : catchmentLevels rows row.id = some row.level := by
  unfold catchmentLevels
  cases hfind : rows.reverse.find? (·.id = row.id) with
  | none =>
    rw [List.find?_eq_none] at hfind
    exact absurd (decide_eq_true rfl) (hfind row (List.mem_reverse.2 h))
  | some found =>
    have hmem : found ∈ rows := List.mem_reverse.1 (List.mem_of_find?_eq_some hfind)
    have hid : found.id = row.id := by simpa using List.find?_some hfind
    rw [List.inj_on_of_nodup_map hnodup hmem h hid]
    rfl

/-- Validation passes on consistent data. -/
theorem Consistent.validate (h : Consistent manifest graph rows) :
    validateGraphCatchments manifest graph rows = .ok (catchmentLevels rows) := by
  have hperm : (rows.map (·.id)).Perm graph.ids :=
    (List.perm_ext_iff_of_nodup h.nodup graph.nodup).2 h.ids
  have hlevel : ∀ graphRow ∈ graph.rows, graphRow.id ∈ rows.map (·.id) ∧
      catchmentLevels rows graphRow.id = some graphRow.level := by
    intro graphRow hgraph
    have hid := (h.ids graphRow.id).2 (List.mem_map_of_mem hgraph)
    obtain ⟨row, hrow, heq⟩ := List.mem_map.1 hid
    refine ⟨hid, ?_⟩
    rw [← heq, catchmentLevels_of_mem h.nodup hrow, h.levels graphRow hgraph row hrow heq]
  refine validateGraphCatchments_eq_ok.2 ⟨h.count, ?_, ?_, fun id hid => (h.ids id).1 hid, rfl⟩
  · have hlength := hperm.length_eq
    rw [DrainageGraph.ids, List.length_map, List.length_map] at hlength
    exact hlength.symm
  · intro graphRow hgraph
    refine checkGraphRow_eq_ok_iff.2 ⟨(hlevel graphRow hgraph).1, (hlevel graphRow hgraph).2, ?_⟩
    intro upstreamId hupstream
    obtain ⟨upstream, hmem, rfl, hsame⟩ := h.edges graphRow hgraph upstreamId hupstream
    rw [← hsame]
    exact hlevel upstream hmem

/-- What passes validation is consistent. -/
theorem consistent_of_validate {levels : UnitId → Option Level}
    (h : validateGraphCatchments manifest graph rows = .ok levels) :
    Consistent manifest graph rows := by
  obtain ⟨hcount, hlength, hrows, hids, -⟩ := validateGraphCatchments_eq_ok.1 h
  have hchecks := fun row hrow => checkGraphRow_eq_ok_iff.1 (hrows row hrow)
  have hsubset : graph.ids ⊆ rows.map (·.id) := by
    intro id hid
    obtain ⟨row, hrow, rfl⟩ := List.mem_map.1 hid
    exact (hchecks row hrow).1
  -- As many rows as units, and every unit has a row: so no id is repeated.
  have hperm : graph.ids.Perm (rows.map (·.id)) := by
    apply (List.Nodup.subperm graph.nodup hsubset).perm_of_length_le
    rw [List.length_map, List.length_map]
    exact hlength.ge
  have hnodup : (rows.map (·.id)).Nodup := hperm.nodup_iff.1 graph.nodup
  refine ⟨hcount, hnodup, fun id => (hperm.mem_iff).symm, ?_, ?_⟩
  · intro graphRow hgraph row hrow heq
    have hlevel := catchmentLevels_of_mem hnodup hrow
    rw [heq, (hchecks graphRow hgraph).2.1] at hlevel
    exact (Option.some.inj hlevel).symm
  · intro graphRow hgraph upstreamId hupstream
    obtain ⟨hmem, hlevel⟩ := (hchecks graphRow hgraph).2.2 upstreamId hupstream
    obtain ⟨upstream, hrow, rfl⟩ := List.mem_map.1 (hids upstreamId hmem)
    refine ⟨upstream, hrow, rfl, ?_⟩
    rw [(hchecks upstream hrow).2.1] at hlevel
    exact Option.some.inj hlevel

/-- **Validation decides consistency.** -/
theorem validateGraphCatchments_eq_ok_iff :
    (∃ levels, validateGraphCatchments manifest graph rows = .ok levels) ↔
      Consistent manifest graph rows := by
  constructor
  · intro h
    obtain ⟨levels, hlevels⟩ := h
    exact consistent_of_validate hlevels
  · intro h
    exact ⟨_, h.validate⟩

end

/-! ## Snap references -/

/-- A snap target and the unit that it references. -/
structure SnapRef where
  snapId : ℤ
  unitId : UnitId
  deriving DecidableEq, Repr

/-- The unit of a reference exists at a level of the declaration. -/
def checkSnapRef (decl : SnapDecl) (levels : UnitId → Option Level) (snapRef : SnapRef) :
    Except SessionError Unit := do
  let level ← require (.snapReferentialIntegrity snapRef.snapId snapRef.unitId
    "snap target references a unit with no catchment row") (levels snapRef.unitId)
  failWhen (level ∉ decl.referencesLevels) (.snapReferentialIntegrity snapRef.snapId snapRef.unitId
    (s!"unit level {level} is not declared in references_levels " ++
      debugList (decl.referencesLevels.map toString)))

/-- `validate_snap_refs`. -/
def validateSnapRefs (snapRefs : List SnapRef) (decl : SnapDecl) (levels : UnitId → Option Level) :
    Except SessionError Unit :=
  snapRefs.forM (checkSnapRef decl levels)

end Pourpoint
