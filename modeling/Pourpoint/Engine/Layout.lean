import Pourpoint.Engine.Pipeline

/-!
# Layout of a dataset

What a delineation returns depends on the rows of the graph and on the units of the catchments, and not on
how they are laid out: in which order they come, how they are cut into batches and row groups, which
statistics the groups have and which labels the columns carry (`delineate_layout`). The order of the
upstream units is that of the lists in the rows.
-/

namespace Pourpoint

open Fallible Library

/-! ## Graphs with the same rows -/

section Graph

variable {graph other : DrainageGraph}

theorem DrainageGraph.get_of_perm (h : other.rows.Perm graph.rows) (id : UnitId) :
    other.get id = graph.get id := by
  cases hget : graph.get id with
  | none =>
    rw [DrainageGraph.get_eq_none_iff] at hget ⊢
    rwa [DrainageGraph.ids, (h.map AdjacencyRow.id).mem_iff]
  | some row =>
    obtain ⟨hmem, rfl⟩ := DrainageGraph.mem_of_get hget
    exact DrainageGraph.get_of_mem (h.mem_iff.2 hmem)

theorem levelOf_of_perm (h : other.rows.Perm graph.rows) (id : UnitId) :
    levelOf other id = levelOf graph id := by
  rw [levelOf, levelOf, DrainageGraph.get_of_perm h]

theorem visitUpstream_of_perm (h : other.rows.Perm graph.rows) (current : UnitId)
    (ids visited queue : List UnitId) :
    visitUpstream other current ids visited queue = visitUpstream graph current ids visited queue := by
  induction ids generalizing visited queue with
  | nil => rfl
  | cons id ids ih => simp only [visitUpstream, DrainageGraph.get_of_perm h, ih]

theorem upstreamLoop_of_perm (h : other.rows.Perm graph.rows) (fuel : ℕ)
    (queue visited units : List UnitId) :
    upstreamLoop other fuel queue visited units = upstreamLoop graph fuel queue visited units := by
  induction fuel generalizing queue visited units with
  | zero => cases queue <;> rfl
  | succ fuel ih =>
    cases queue with
    | nil => rfl
    | cons current queue =>
      simp only [upstreamLoop, visitUpstream_of_perm h, DrainageGraph.upstreamIds,
        DrainageGraph.get_of_perm h, ih]

theorem checkLevels_of_perm (h : other.rows.Perm graph.rows) (level : Level) (ids : List UnitId) :
    checkLevels other level ids = checkLevels graph level ids := by
  induction ids with
  | nil => rfl
  | cons id ids ih => simp only [checkLevels, levelOf_of_perm h, ih]

/-- **The traversal** is that of the set of rows. -/
theorem traverseUpstreamAtLevel_of_perm (h : other.rows.Perm graph.rows) (outlet : LevelResolvedOutlet) :
    traverseUpstreamAtLevel other outlet = traverseUpstreamAtLevel graph outlet := by
  simp only [traverseUpstreamAtLevel, collectUpstream, DrainageGraph.get_of_perm h, h.length_eq,
    upstreamLoop_of_perm h, checkLevels_of_perm h]

theorem resolveViaSnapStore_of_perm {Geometry : Type} {geo : SnapGeo Geometry} {outlet : GeoCoord}
    {level : Option Level} {config : ResolverConfig} {reader : SnapReader} {store : SnapStore}
    (h : other.rows.Perm graph.rows) :
    resolveViaSnapStore geo other outlet level config reader store =
      resolveViaSnapStore geo graph outlet level config reader store := by
  have hscore : scoreTarget geo other outlet level config = scoreTarget geo graph outlet level config := by
    funext scores target
    simp only [scoreTarget, levelOf_of_perm h]
  rw [resolveViaSnapStore, resolveViaSnapStore, hscore]

end Graph

/-! ## Sessions over the same data -/

/-- The same manifest, auxiliary data, rows and units, in any layout. -/
structure DatasetSession.SameData (hfx : HfxUnit) (session other : DatasetSession) : Prop where
  manifest : other.manifest = session.manifest
  snapStores : other.snapStores = session.snapStores
  aux : other.aux = session.aux
  rows : other.graph.rows.Perm session.graph.rows
  units : (other.catchments.file.units hfx).Perm (session.catchments.file.units hfx)

namespace DatasetSession.SameData

variable {hfx : HfxUnit} {session other : DatasetSession}

theorem symm (h : session.SameData hfx other) : other.SameData hfx session where
  manifest := h.manifest.symm
  snapStores := h.snapStores.symm
  aux := h.aux.symm
  rows := h.rows.symm
  units := h.units.symm

theorem maxLevel_eq (h : session.SameData hfx other) : other.maxLevel = session.maxLevel := by
  cases hmax : session.maxLevel with
  | none =>
    rw [maxLevel_eq_none_iff] at hmax ⊢
    exact List.Perm.eq_nil (hmax ▸ h.rows)
  | some level =>
    rw [maxLevel_eq_some_iff] at hmax ⊢
    simpa only [h.rows.mem_iff] using hmax

end DatasetSession.SameData

/-! ## Records -/

section Records

variable {Polygon : Type} {hfx : HfxUnit} {toGeo : List UInt8 → Except String (GeoGeometry Polygon)}
  {session other : DatasetSession} {upstream : SameLevelUpstreamUnits}

theorem IsRecord.unique (h : session.Loaded hfx) {level : Level} {id : UnitId}
    {record record' : PreMergeDrainageUnit Polygon}
    (hrecord : IsRecord hfx toGeo session.catchments.file level id record)
    (hrecord' : IsRecord hfx toGeo session.catchments.file level id record') : record = record' := by
  obtain ⟨unit, hunit, rfl, -, geometry, hdecode, rfl⟩ := hrecord
  obtain ⟨unit', hunit', hid, -, geometry', hdecode', rfl⟩ := hrecord'
  obtain rfl := List.inj_on_of_nodup_map h.nodup_ids hunit' hunit hid
  rw [hdecode] at hdecode'
  cases hdecode'
  rfl

/-- The records are those of the set of units. -/
theorem producePreMergeUnits_of_sameData (h : session.Loaded hfx) (hother : other.Loaded hfx)
    (hsame : session.SameData hfx other) (hnodup : upstream.upstream.units.Nodup)
    (hlevels : ∀ id ∈ upstream.upstream.units,
      levelOf session.graph id = some upstream.selectedLevel)
    {units : PreMergeDrainageUnits Polygon}
    (hunits : producePreMergeUnits hfx toGeo session.catchments upstream = .ok units) :
    producePreMergeUnits hfx toGeo other.catchments upstream = .ok units := by
  have hlevels' : ∀ id ∈ upstream.upstream.units,
      levelOf other.graph id = some upstream.selectedLevel := by
    intro id hid
    rw [levelOf_of_perm hsame.rows]
    exact hlevels id hid
  rcases producePreMergeUnits_loaded h hnodup hlevels with
    ⟨records, hproduce, hrecords⟩ | ⟨unit, -, -, source, -, hproduce⟩
  · rw [hproduce] at hunits
    cases hunits
    rcases producePreMergeUnits_loaded hother hnodup hlevels' with
      ⟨records', hproduce', hrecords'⟩ | ⟨unit, hunit, hid, source, hsource, -⟩
    · rw [hproduce']
      have hmoved : List.Forall₂ (IsRecord hfx toGeo session.catchments.file upstream.selectedLevel)
          upstream.upstream.units records' := by
        refine hrecords'.imp ?_
        intro id record hrecord
        obtain ⟨unit, hunit, hrest⟩ := hrecord
        exact ⟨unit, hsame.units.mem_iff.1 hunit, hrest⟩
      rw [List.right_unique_forall₂' (fun _ _ _ hr hr' => hr.unique h hr') hrecords hmoved]
    · -- The geometry decodes in the other file.
      obtain ⟨_, -, found, hfound, heq, -, geometry, hdecode, -⟩ := exists_of_forall₂ hrecords hid
      obtain rfl := List.inj_on_of_nodup_map h.nodup_ids hfound (hsame.units.mem_iff.1 hunit) heq
      rw [hdecode] at hsource
      cases hsource
  · rw [hproduce] at hunits
    cases hunits

end Records

/-! ## Delineations -/

namespace Engine

variable {Geometry : Type} {crates : EngineCrates Geometry} {engine other : Engine}

/-- The same refinement strategy and repair backend over the same data. -/
structure SameSetup (hfx : HfxUnit) (engine other : Engine) : Prop where
  data : engine.session.SameData hfx other.session
  refinementStrategy : other.refinementStrategy = engine.refinementStrategy
  geometryRepair : other.geometryRepair = engine.geometryRepair

theorem SameSetup.symm {hfx : HfxUnit} (h : engine.SameSetup hfx other) : other.SameSetup hfx engine :=
  ⟨h.data.symm, h.refinementStrategy.symm, h.geometryRepair.symm⟩

theorem resolveOutletAuthorityAtLevel_of_sameSetup (h : engine.session.Loaded crates.hfx)
    (hother : other.session.Loaded crates.hfx) (hsame : engine.SameSetup crates.hfx other)
    (outlet : GeoCoord) (level : Level) (config : ResolverConfig) :
    other.resolveOutletAuthorityAtLevel crates outlet level config =
      engine.resolveOutletAuthorityAtLevel crates outlet level config := by
  have hsnap : other.session.snapForLevel level = engine.session.snapForLevel level := by
    rw [DatasetSession.snapForLevel, hsame.data.snapStores, DatasetSession.snapForLevel]
  unfold resolveOutletAuthorityAtLevel
  rw [hsnap]
  cases engine.session.snapForLevel level with
  | some snapStore => exact resolveViaSnapStore_of_perm hsame.data.rows
  | none =>
    obtain ⟨idRowGroups, hopen⟩ := h.opened
    obtain ⟨idRowGroups', hopen'⟩ := hother.opened
    dsimp only
    unfold resolveViaPip
    refine congrArg _ (funext fun bbox => ?_)
    rw [queryByBbox_eq_scan hopen h.bounded h.valid, queryByBbox_eq_scan hopen' hother.bounded hother.valid]
    have hids : (((engine.session.catchments.file.units crates.hfx).filter
        (·.bbox.intersects bbox)).map (·.id)).Nodup := (List.filter_sublist.map _).nodup h.nodup_ids
    exact resolvePip_of_perm hids (hsame.data.units.filter _)

/-- One way round. -/
theorem delineate_of_sameSetup (h : engine.session.Loaded crates.hfx)
    (hother : other.session.Loaded crates.hfx) (hsame : engine.SameSetup crates.hfx other)
    {outlet : GeoCoord} {options : DelineationOptions} {result : DelineationResult}
    (hrun : (engine.delineate crates outlet options).run = .ok (.ok result)) :
    (other.delineate crates outlet options).run = .ok (.ok result) := by
  unfold delineate at hrun ⊢
  obtain ⟨level, hlevel, hrun⟩ := bind_run_eq_ok_iff.1 hrun
  obtain ⟨authority, hauthority, hrun⟩ := bind_run_eq_ok_iff.1 hrun
  obtain ⟨upstream, hupstream, hrun⟩ := bind_run_eq_ok_iff.1 hrun
  obtain ⟨units, hunits, hrun⟩ := bind_run_eq_ok_iff.1 hrun
  obtain ⟨refinement, hrefinement, hrun⟩ := bind_run_eq_ok_iff.1 hrun
  obtain ⟨dissolved, hdissolved, hrun⟩ := bind_run_eq_ok_iff.1 hrun
  have hselect : other.selectLevel = engine.selectLevel := by
    rw [selectLevel, selectLevel, hsame.data.maxLevel_eq, hsame.data.manifest]
  -- What the traversal passed on.
  obtain ⟨hatLevel, -⟩ :=
    level_of_resolveOutletAuthorityAtLevel h (mapError_run_eq_ok_iff.1 hauthority)
  have hcomplete : upstream.upstream.units.Nodup ∧
      ∀ id ∈ upstream.upstream.units, levelOf engine.session.graph id = some upstream.selectedLevel := by
    have hsettles : Settles (mapFallibleError DelineationError.stage (traverseUpstreamAtLevel
        engine.session.graph ⟨authority.unitId, level⟩)) _ fun _ => False := settles_traverse h hatLevel
    rcases hsettles with
      ⟨found, hfound, -, hselected, hcomplete, hlevels⟩ | ⟨e, -, hfalse⟩
    · rw [hfound] at hupstream
      cases hupstream
      refine ⟨hcomplete.nodup, ?_⟩
      rwa [hselected]
    · exact hfalse.elim
  have hunits' := producePreMergeUnits_of_sameData h hother hsame.data hcomplete.1 hcomplete.2
    (mapError_run_eq_ok_iff.1 hunits)
  refine bind_run_eq_ok_iff.2 ⟨level, by rwa [hselect], bind_run_eq_ok_iff.2 ⟨authority, ?_,
    bind_run_eq_ok_iff.2 ⟨upstream, ?_, bind_run_eq_ok_iff.2 ⟨units, mapError_run_eq_ok_iff.2 hunits',
      bind_run_eq_ok_iff.2 ⟨refinement, ?_, bind_run_eq_ok_iff.2 ⟨dissolved, ?_, hrun⟩⟩⟩⟩⟩⟩
  · rwa [resolveOutletAuthorityAtLevel_of_sameSetup h hother hsame]
  · rwa [traverseUpstreamAtLevel_of_perm hsame.data.rows]
  · rwa [hsame.refinementStrategy, hsame.data.aux]
  · have hoptions : other.buildAssemblyOptions options = engine.buildAssemblyOptions options := by
      rw [buildAssemblyOptions, hsame.geometryRepair, buildAssemblyOptions]
    unfold dissolve at hdissolved ⊢
    rwa [hoptions]

/-- **Layout independence.** Two engines over the same rows and units return the same results, however the
data of their sessions are laid out. -/
theorem delineate_layout (crates : EngineCrates Geometry) (engine other : Engine)
    (h : engine.session.Loaded crates.hfx) (hother : other.session.Loaded crates.hfx)
    (hsame : engine.SameSetup crates.hfx other) (outlet : GeoCoord) (options : DelineationOptions)
    (result : DelineationResult) :
    (engine.delineate crates outlet options).run = .ok (.ok result) ↔
      (other.delineate crates outlet options).run = .ok (.ok result) :=
  ⟨delineate_of_sameSetup h hother hsame, delineate_of_sameSetup hother h hsame.symm⟩

/-! ### The triangles in one row group -/

def flatStore : CatchmentStore :=
  singleGroupStore (triangleFile none).columns.reverse [[triangleRow 9 none], [triangleRow 7 none]]

/-- The rows of the graph the other way round. -/
def flatSession : DatasetSession :=
  { triangleSession with graph := ⟨[⟨7, 0, []⟩, ⟨9, 0, [7]⟩], by decide⟩, catchments := flatStore }

theorem flatSession_loaded : flatSession.Loaded acceptingHfxUnit where
  opened := ⟨_, rfl⟩
  indexed := singleGroupStore_indexesRows _ _
  bounded := singleGroupFile_statisticsBound _ _
  valid := by
    intro row hrow
    have hcases : row ∈ [triangleRow 9 none, triangleRow 7 none] := hrow
    simp only [List.mem_cons, List.not_mem_nil, or_false] at hcases
    rcases hcases with rfl | rfl
    · exact ⟨_, rfl⟩
    · exact ⟨_, rfl⟩
  consistent := validateGraphCatchments_eq_ok_iff.1 ⟨_, rfl⟩

def flatEngine : Engine := { triangleEngine with session := flatSession }

theorem sameSetup_flatEngine : triangleEngine.SameSetup acceptingHfxUnit flatEngine where
  data := {
    manifest := rfl
    snapStores := rfl
    aux := rfl
    rows := List.Perm.swap _ _ []
    units := List.Perm.swap _ _ [] }
  refinementStrategy := rfl
  geometryRepair := rfl

theorem delineate_layout_triangle : ∃ result,
    (flatEngine.delineate triangleCrates triangleOutlet .default).run = .ok (.ok result) := by
  obtain ⟨result, hrun⟩ := exists_run_triangleEngine
  exact ⟨result, (delineate_layout triangleCrates triangleEngine flatEngine triangleSession_loaded
    flatSession_loaded sameSetup_flatEngine triangleOutlet .default result).1 hrun⟩

end Engine

end Pourpoint
