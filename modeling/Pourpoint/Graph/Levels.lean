import Pourpoint.Graph.Rows
import Pourpoint.Library.Success

/-!
# The levels of the graph

**Theorem (`maxLevelFromRowGroupStatistics_eq`).** With exact statistics the footer names levels of the
graph only, and where every row group has a maximum it gives the greatest level of the graph.

The footer pass takes the place of the level field in the schema for the number of its leaf column.
The two agree where no column before it has several leaves or none.
-/

namespace Pourpoint

open Library

/-! ## Levels from the footer -/

section statistics

variable {hfx : HfxUnit}

/-- The levels of the rows of a row group. -/
def GraphRowGroup.Levels (rowGroup : GraphRowGroup) : Set ℤ :=
  {l | ∃ row ∈ rowGroup.rows, row.level.map Int16.toInt = some l}

/-- The statistics of a leaf, where the writer stored them, are the least and the greatest level of
the row group. -/
structure GraphRowGroup.ExactLevels (rowGroup : GraphRowGroup) (leaf : ℕ) : Prop where
  int32 : ∀ statistics, rowGroup.statistics leaf = some statistics →
    ∃ min max, statistics = .int32 min max
  min : ∀ m max, rowGroup.statistics leaf = some (.int32 (some m) max) → IsLeast rowGroup.Levels m
  max : ∀ min m, rowGroup.statistics leaf = some (.int32 min (some m)) →
    IsGreatest rowGroup.Levels m

/-- The writer stored the greatest level. -/
def GraphRowGroup.HasMaximum (rowGroup : GraphRowGroup) (leaf : ℕ) : Prop :=
  ∃ min m, rowGroup.statistics leaf = some (.int32 min (some m))

/-- The leaf column of the level. -/
def GraphFile.levelLeaf (file : GraphFile) : ℕ :=
  ((file.schema.takeWhile (·.name ≠ "level")).map (·.leaves)).sum

theorem findIdx?_level {schema : List GraphField}
    (h : ∃ field, fieldWithName schema "level" = some field ∧ field.dataType = .int16)
    (hleaves : ∀ field ∈ schema.takeWhile (·.name ≠ "level"), field.leaves = 1) :
    schema.findIdx? (·.name = "level") =
      some ((schema.takeWhile (·.name ≠ "level")).map (·.leaves)).sum := by
  induction schema with
  | nil =>
    obtain ⟨field, hfield, -⟩ := h
    cases hfield
  | cons field schema ih =>
    by_cases hname : field.name = "level"
    · simp [List.findIdx?_cons, hname]
    · simp only [fieldWithName, List.find?_cons, hname, decide_false] at h
      simp only [List.takeWhile_cons, hname, ne_eq, not_false_eq_true, decide_true, if_true,
        List.mem_cons, forall_eq_or_imp] at hleaves
      rw [List.findIdx?_cons, decide_eq_false hname, ih h hleaves.2]
      simp [hname, hleaves.1, Nat.add_comm]

/-- The levels that a footer names. -/
def statisticValues : Option ColumnStatistics → List ℤ
  | some (.int32 min max) => min.toList ++ max.toList
  | _ => []

theorem levelFromStat_eq_ok {raw : ℤ} (hrange : -2 ^ 15 ≤ raw ∧ raw < 2 ^ 15)
    (hlevel : hfx.level raw = none) : levelFromStat hfx raw = .ok raw := by
  rw [levelFromStat, if_pos hrange, hlevel]
  rfl

theorem optionalLevel_eq_ok {raw : Option ℤ} (h : ∀ l ∈ raw, levelFromStat hfx l = .ok l) :
    optionalLevel hfx raw = .ok raw.toList := by
  cases raw with
  | none => rfl
  | some l =>
    rw [optionalLevel, h l rfl]
    rfl

theorem statisticsLevels_eq_ok {statistics : Option ColumnStatistics}
    (h : ∀ l ∈ statisticValues statistics, levelFromStat hfx l = .ok l) :
    statisticsLevels hfx statistics = .ok (statisticValues statistics) := by
  cases statistics with
  | none => rfl
  | some statistics =>
    cases statistics with
    | other => rfl
    | int32 min max =>
      simp only [statisticValues, List.mem_append, Option.mem_toList] at h
      rw [statisticsLevels, optionalLevel_eq_ok fun l hl => h l (Or.inl hl),
        optionalLevel_eq_ok fun l hl => h l (Or.inr hl)]
      rfl

/-! The set of levels is kept as a strictly ascending list. -/

theorem mem_insertLevel {levels : List Level} {level l : Level} :
    l ∈ insertLevel levels level ↔ l ∈ levels ∨ l = level := by
  unfold insertLevel
  by_cases hmem : level ∈ levels
  · rw [if_pos hmem]
    refine ⟨Or.inl, ?_⟩
    rintro (h | rfl)
    · exact h
    · exact hmem
  · rw [if_neg hmem, List.mem_orderedInsert, or_comm]

theorem pairwise_insertLevel {levels : List Level} (h : levels.Pairwise (· < ·)) (level : Level) :
    (insertLevel levels level).Pairwise (· < ·) := by
  unfold insertLevel
  by_cases hmem : level ∈ levels
  · rwa [if_pos hmem]
  · rw [if_neg hmem]
    have hle : (levels.orderedInsert (· ≤ ·) level).Pairwise (· ≤ ·) :=
      (h.imp le_of_lt).orderedInsert level levels
    have hnodup : (levels.orderedInsert (· ≤ ·) level).Nodup :=
      (List.perm_orderedInsert (· ≤ ·) level levels).nodup_iff.2
        (List.nodup_cons.2 ⟨hmem, h.imp ne_of_lt⟩)
    exact (hle.and hnodup).imp fun hab => lt_of_le_of_ne hab.1 hab.2

theorem foldl_insertLevel_spec (values : List Level) {levels : List Level}
    (h : levels.Pairwise (· < ·)) :
    (values.foldl insertLevel levels).Pairwise (· < ·) ∧
      ∀ l, l ∈ values.foldl insertLevel levels ↔ l ∈ levels ∨ l ∈ values := by
  induction values generalizing levels with
  | nil => exact ⟨h, by simp⟩
  | cons value values ih =>
    obtain ⟨hsorted, hmem⟩ := ih (pairwise_insertLevel h value)
    refine ⟨hsorted, fun l => ?_⟩
    rw [List.foldl_cons, hmem l, mem_insertLevel, List.mem_cons, or_assoc]

/-- A part that is nowhere exceeded by the whole has the same greatest element. -/
theorem max?_eq_of_cofinal {part whole : List ℤ} (hsub : ∀ l ∈ part, l ∈ whole)
    (hcofinal : ∀ l ∈ whole, ∃ m ∈ part, l ≤ m) : part.max? = whole.max? := by
  cases hmax : part.max? with
  | none =>
    obtain rfl := List.max?_eq_none_iff.1 hmax
    rw [eq_comm, List.max?_eq_none_iff, List.eq_nil_iff_forall_not_mem]
    intro l hl
    obtain ⟨m, hm, -⟩ := hcofinal l hl
    cases hm
  | some m =>
    obtain ⟨hm, hle⟩ := List.max?_eq_some_iff.1 hmax
    refine (List.max?_eq_some_iff.2 ⟨hsub m hm, fun l hl => ?_⟩).symm
    obtain ⟨m', hm', hlm'⟩ := hcofinal l hl
    exact hlm'.trans (hle m' hm')

/-- A unit's level is the one of its row, in range and accepted. -/
theorem level_of_adjacency {row : GraphRow} {unit : AdjacencyRow}
    (h : row.adjacency hfx = .ok unit) :
    row.level.map Int16.toInt = some unit.level ∧ levelFromStat hfx unit.level = .ok unit.level := by
  unfold GraphRow.adjacency at h
  obtain ⟨id, -, h⟩ := bind_eq_ok h
  obtain ⟨level, hlevel, h⟩ := bind_eq_ok h
  obtain ⟨_, -, h⟩ := bind_eq_ok h
  obtain ⟨_, hcheck, h⟩ := bind_eq_ok h
  obtain ⟨slots, -, h⟩ := bind_eq_ok h
  obtain ⟨upstreamIds, -, h⟩ := bind_eq_ok h
  obtain rfl := Except.ok.inj h
  have hsome : row.level = some level := by
    cases hrow : row.level with
    | none =>
      rw [hrow] at hlevel
      cases hlevel
    | some l =>
      rw [hrow] at hlevel
      exact congrArg some (Except.ok.inj hlevel)
  refine ⟨by rw [hsome, Option.map_some], levelFromStat_eq_ok ⟨?_, ?_⟩ (checked_eq_ok.1 hcheck)⟩
  · exact level.le_toInt
  · exact level.toInt_lt

theorem exists_units_of_readGraph {newGraph : List AdjacencyRow → Except GraphError DrainageGraph}
    {file : GraphFile} (h : file.Conforms) {graph : DrainageGraph}
    (hread : readGraph hfx newGraph file = .ok graph) :
    validateGraphSchema file.schema = .ok () ∧ ∃ units, newGraph units = .ok graph ∧
      List.Forall₂ (fun row unit => row.adjacency hfx = .ok unit) file.rows units := by
  have hschema : validateGraphSchema file.schema = .ok () := by
    unfold readGraph at hread
    obtain ⟨_, hschema, -⟩ := bind_eq_ok hread
    exact hschema
  rw [readGraph_eq h hschema] at hread
  obtain ⟨units, hunits, hnew⟩ := bind_eq_ok hread
  exact ⟨hschema, units, mapError_eq_ok_iff.1 hnew, forall₂_of_mapM_atRow hunits⟩

/-- A footer with exact statistics names levels of the row group. -/
theorem GraphRowGroup.ExactLevels.mem_levels {rowGroup : GraphRowGroup} {leaf : ℕ}
    (h : rowGroup.ExactLevels leaf) {l : ℤ} (hl : l ∈ statisticValues (rowGroup.statistics leaf)) :
    l ∈ rowGroup.Levels := by
  cases hstatistics : rowGroup.statistics leaf with
  | none =>
    rw [hstatistics] at hl
    cases hl
  | some statistics =>
    obtain ⟨min, max, rfl⟩ := h.int32 statistics hstatistics
    rw [hstatistics, statisticValues, List.mem_append, Option.mem_toList, Option.mem_toList] at hl
    rcases hl with hl | hl
    · obtain rfl : min = some l := hl
      exact (h.min l max hstatistics).1
    · obtain rfl : max = some l := hl
      exact (h.max min l hstatistics).1

section footer

variable {file : GraphFile} {units : List AdjacencyRow}

/-- The levels of a row group are those of units, in range and accepted. -/
theorem exists_unit_of_mem_levels (h : file.Conforms)
    (hrows : List.Forall₂ (fun row unit => row.adjacency hfx = .ok unit) file.rows units)
    {rowGroup : GraphRowGroup} (hgroup : rowGroup ∈ file.rowGroups) {l : ℤ}
    (hl : l ∈ rowGroup.Levels) :
    levelFromStat hfx l = .ok l ∧ ∃ unit ∈ units, unit.level = l := by
  obtain ⟨row, hrow, hl⟩ := hl
  have hmem : row ∈ file.rows := by
    rw [h.rows_eq]
    exact List.mem_flatMap.2 ⟨rowGroup, hgroup, hrow⟩
  obtain ⟨unit, hunit, hadjacency⟩ := exists_of_forall₂ hrows hmem
  obtain ⟨hlevel, hstat⟩ := level_of_adjacency hadjacency
  obtain rfl : unit.level = l := Option.some.inj (hlevel.symm.trans hl)
  exact ⟨hstat, unit, hunit, rfl⟩

/-- The row group of a unit has a level that is the unit's. -/
theorem exists_rowGroup_of_unit (h : file.Conforms)
    (hrows : List.Forall₂ (fun row unit => row.adjacency hfx = .ok unit) file.rows units)
    {unit : AdjacencyRow} (hunit : unit ∈ units) :
    ∃ rowGroup ∈ file.rowGroups, rowGroup.rows ≠ [] ∧ unit.level ∈ rowGroup.Levels := by
  obtain ⟨row, hrow, hadjacency⟩ := exists_of_forall₂ hrows.flip hunit
  rw [h.rows_eq] at hrow
  obtain ⟨rowGroup, hgroup, hrow⟩ := List.mem_flatMap.1 hrow
  exact ⟨rowGroup, hgroup, List.ne_nil_of_mem hrow, row, hrow, (level_of_adjacency hadjacency).1⟩

/-- The levels that the footer names, row group by row group. -/
def GraphFile.footerLevels (file : GraphFile) : List ℤ :=
  file.rowGroups.flatMap fun rowGroup => statisticValues (rowGroup.statistics file.levelLeaf)

theorem levelsFromRowGroupStatistics_eq (hschema : validateGraphSchema file.schema = .ok ())
    (hleaves : ∀ field ∈ file.schema.takeWhile (·.name ≠ "level"), field.leaves = 1)
    (hstat : ∀ l ∈ file.footerLevels, levelFromStat hfx l = .ok l) :
    levelsFromRowGroupStatistics hfx file = .ok (file.footerLevels.foldl insertLevel []) := by
  have hfound : (file.rowGroups.mapM fun rowGroup =>
      statisticsLevels hfx (rowGroup.statistics file.levelLeaf)) =
        .ok (file.rowGroups.map fun rowGroup =>
          statisticValues (rowGroup.statistics file.levelLeaf)) :=
    mapM_eq_ok_map fun rowGroup hgroup => statisticsLevels_eq_ok fun l hl =>
      hstat l (List.mem_flatMap.2 ⟨rowGroup, hgroup, hl⟩)
  have hindex : file.schema.findIdx? (·.name = "level") = some file.levelLeaf :=
    findIdx?_level (readableSchema_of_validate hschema).level hleaves
  rw [levelsFromRowGroupStatistics, hschema, ok_bind, hindex]
  simp only [hfound, ok_bind, GraphFile.footerLevels, List.flatMap_def]

end footer

/-- **The footer gives the levels of the graph.** It names levels of loaded units only, and with a
stored maximum for every row group the greatest one. -/
theorem maxLevelFromRowGroupStatistics_eq
    {newGraph : List AdjacencyRow → Except GraphError DrainageGraph}
    (hnew : ∀ rows graph, newGraph rows = .ok graph → graph.rows = rows) {file : GraphFile}
    (h : file.Conforms) {graph : DrainageGraph} (hread : readGraph hfx newGraph file = .ok graph)
    (hleaves : ∀ field ∈ file.schema.takeWhile (·.name ≠ "level"), field.leaves = 1)
    (hexact : ∀ rowGroup ∈ file.rowGroups, rowGroup.ExactLevels file.levelLeaf) :
    ∃ levels, levelsFromRowGroupStatistics hfx file = .ok levels ∧ levels.Pairwise (· < ·) ∧
      (∀ level ∈ levels, ∃ row ∈ graph.rows, row.level = level) ∧
      ((∀ rowGroup ∈ file.rowGroups, rowGroup.rows ≠ [] → rowGroup.HasMaximum file.levelLeaf) →
        maxLevelFromRowGroupStatistics hfx file = .ok (graph.rows.map (·.level)).max?) := by
  obtain ⟨hschema, units, hunits, hrows⟩ := exists_units_of_readGraph h hread
  obtain rfl := hnew units graph hunits
  have hfooter : ∀ l ∈ file.footerLevels,
      levelFromStat hfx l = .ok l ∧ ∃ unit ∈ graph.rows, unit.level = l := by
    intro l hl
    obtain ⟨rowGroup, hgroup, hl⟩ := List.mem_flatMap.1 hl
    exact exists_unit_of_mem_levels h hrows hgroup ((hexact rowGroup hgroup).mem_levels hl)
  have hrun := levelsFromRowGroupStatistics_eq hschema hleaves fun l hl => (hfooter l hl).1
  obtain ⟨hsorted, hmem⟩ := foldl_insertLevel_spec file.footerLevels List.Pairwise.nil
  have hsub : ∀ level ∈ file.footerLevels.foldl insertLevel [],
      ∃ row ∈ graph.rows, row.level = level := by
    intro level hlevel
    exact (hfooter level (((hmem level).1 hlevel).resolve_left List.not_mem_nil)).2
  refine ⟨_, hrun, hsorted, hsub, fun hmaximum => ?_⟩
  rw [maxLevelFromRowGroupStatistics, hrun, ok_bind]
  refine congrArg Except.ok (max?_eq_of_cofinal ?_ ?_)
  · intro level hlevel
    exact List.mem_map.2 (hsub level hlevel)
  · -- The row group of a unit stores a level that is at least the unit's.
    intro level hlevel
    obtain ⟨unit, hunit, rfl⟩ := List.mem_map.1 hlevel
    obtain ⟨rowGroup, hgroup, hne, hl⟩ := exists_rowGroup_of_unit h hrows hunit
    obtain ⟨min, m, hstored⟩ := hmaximum rowGroup hgroup hne
    have hgreatest := (hexact rowGroup hgroup).max min m hstored
    refine ⟨m, (hmem m).2 (Or.inr (List.mem_flatMap.2 ⟨rowGroup, hgroup, ?_⟩)), hgreatest.2 hl⟩
    rw [hstored]
    exact List.mem_append_right _ (Option.mem_toList.2 rfl)

/-- A row group of one level has it as both statistics. -/
theorem exactLevels_of_const {rows : List GraphRow} (level : Int16) (hne : rows ≠ [])
    (h : ∀ row ∈ rows, row.level = some level) (leaf : ℕ) :
    GraphRowGroup.ExactLevels
      ⟨rows, fun _ => some (.int32 (some level.toInt) (some level.toInt))⟩ leaf := by
  obtain ⟨row, hrow⟩ := List.exists_mem_of_ne_nil rows hne
  have hmem : ∃ row ∈ rows, row.level.map Int16.toInt = some level.toInt :=
    ⟨row, hrow, by rw [h row hrow, Option.map_some]⟩
  have heq : ∀ l, (∃ row ∈ rows, row.level.map Int16.toInt = some l) → l = level.toInt := by
    rintro l ⟨row, hrow, hl⟩
    rw [h row hrow, Option.map_some] at hl
    exact (Option.some.inj hl).symm
  refine ⟨fun statistics hs => ⟨_, _, (Option.some.inj hs).symm⟩, fun m max hs => ?_,
    fun min m hs => ?_⟩
  · obtain ⟨hm, -⟩ := ColumnStatistics.int32.inj (Option.some.inj hs)
    obtain rfl := Option.some.inj hm
    exact ⟨hmem, fun l hl => (heq l hl).ge⟩
  · obtain ⟨-, hm⟩ := ColumnStatistics.int32.inj (Option.some.inj hs)
    obtain rfl := Option.some.inj hm
    exact ⟨hmem, fun l hl => (heq l hl).le⟩

/-- The three units of the example have the greatest level 1. -/
theorem maxLevelFromRowGroupStatistics_eq_example :
    maxLevelFromRowGroupStatistics positiveHfxUnit (exampleGraphFile (some 3)) = .ok (some 1) := by
  have hnew : ∀ rows graph, uniqueGraph rows = .ok graph → graph.rows = rows := by
    intro rows graph h
    unfold uniqueGraph at h
    split_ifs at h
    obtain rfl := Except.ok.inj h
    rfl
  have hread : readGraph positiveHfxUnit uniqueGraph (exampleGraphFile (some 3)) =
      .ok ⟨[⟨1, 0, []⟩, ⟨2, 0, [1]⟩, ⟨3, 1, [2]⟩], by decide⟩ := by
    rw [readGraph_eq (exampleGraphFile_conforms (some 3)) (by decide)]
    rfl
  have hexact : ∀ rowGroup ∈ (exampleGraphFile (some 3)).rowGroups,
      rowGroup.ExactLevels (exampleGraphFile (some 3)).levelLeaf := by
    intro rowGroup hgroup
    simp only [exampleGraphFile, List.mem_cons, List.not_mem_nil, or_false] at hgroup
    rcases hgroup with rfl | rfl
    · exact exactLevels_of_const 0 (List.cons_ne_nil _ _) (by simp) _
    · exact exactLevels_of_const 1 (List.cons_ne_nil _ _) (by simp) _
  obtain ⟨levels, -, -, -, hmax⟩ := maxLevelFromRowGroupStatistics_eq hnew
    (exampleGraphFile_conforms (some 3)) hread (by decide) hexact
  refine hmax fun rowGroup hgroup _ => ?_
  simp only [exampleGraphFile, List.mem_cons, List.not_mem_nil, or_false] at hgroup
  rcases hgroup with rfl | rfl
  · exact ⟨_, _, rfl⟩
  · exact ⟨_, _, rfl⟩

end statistics

end Pourpoint
