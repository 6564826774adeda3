import Pourpoint.Library.Closure
import Pourpoint.Machine

/-!
# Upstream traversal

`collect_upstream` walks the drainage graph breadth first from a terminal unit. It ends on every graph;
it fails exactly when the terminal is absent or a unit that it reaches references an absent one, and
otherwise returns the units from which the terminal is reached downstream, each once, the terminal
first (`collectUpstream_spec`).
-/

namespace Pourpoint

open Library

/-- `hfx::UnitId`. -/
abbrev UnitId := ℤ

/-- `hfx::Level`. -/
abbrev Level := ℤ

/-- One row of the graph. -/
structure AdjacencyRow where
  id : UnitId
  level : Level
  upstreamIds : List UnitId
  deriving DecidableEq, Repr

/-- `hfx::DrainageGraph`, which has one row for each unit. -/
structure DrainageGraph where
  rows : List AdjacencyRow
  nodup : (rows.map AdjacencyRow.id).Nodup

namespace DrainageGraph

variable (graph : DrainageGraph)

/-- `get`. -/
def get (id : UnitId) : Option AdjacencyRow := graph.rows.find? (·.id = id)

def ids : List UnitId := graph.rows.map AdjacencyRow.id

/-- The upstream units of a row, none when there is no row. -/
def upstreamIds (id : UnitId) : List UnitId :=
  match graph.get id with
  | some row => row.upstreamIds
  | none => []

/-- The unit drains into the other one. -/
def Upstream (id other : UnitId) : Prop := id ∈ graph.upstreamIds other

variable {graph}

theorem mem_of_get {id : UnitId} {row : AdjacencyRow} (h : graph.get id = some row) :
    row ∈ graph.rows ∧ row.id = id :=
  ⟨List.mem_of_find?_eq_some h, by simpa using List.find?_some h⟩

theorem get_of_mem {row : AdjacencyRow} (h : row ∈ graph.rows) : graph.get row.id = some row := by
  cases hget : graph.get row.id with
  | none =>
    rw [get, List.find?_eq_none] at hget
    exact absurd (decide_eq_true rfl) (hget row h)
  | some found =>
    obtain ⟨hmem, hid⟩ := mem_of_get hget
    rw [List.inj_on_of_nodup_map graph.nodup hmem h hid]

theorem get_eq_none_iff {id : UnitId} : graph.get id = none ↔ id ∉ graph.ids := by
  rw [get, List.find?_eq_none, ids, List.mem_map]
  simp

end DrainageGraph

/-- Errors of the traversal. -/
inductive TraversalError where
  | terminalNotFound (unitId : UnitId)
  | danglingUpstreamRef (sourceId targetId : UnitId)
  deriving DecidableEq, Repr

/-- The units of a traversal, terminal first, and the set of them. -/
structure UpstreamUnits where
  units : List UnitId
  index : List UnitId
  deriving DecidableEq, Repr

/-- The first unit: `units[0]`. -/
def UpstreamUnits.terminal (upstream : UpstreamUnits) : Exec UnitId := readIndex upstream.units 0

/-- The loop over the upstream units of one row: the visited units and the queue. -/
def visitUpstream (graph : DrainageGraph) (current : UnitId) :
    List UnitId → List UnitId → List UnitId → Fallible TraversalError (List UnitId × List UnitId)
  | [], visited, queue => pure (visited, queue)
  | id :: ids, visited, queue =>
    if id ∈ visited then visitUpstream graph current ids visited queue
    else if graph.get id = none then Fallible.fail (.danglingUpstreamRef current id)
    else visitUpstream graph current ids (id :: visited) (queue ++ [id])

/-- The queue is worked off, with fuel for one step each. -/
def upstreamLoop (graph : DrainageGraph) :
    ℕ → List UnitId → List UnitId → List UnitId → Fallible TraversalError UpstreamUnits
  | _, [], visited, units => pure ⟨units, visited⟩
  | 0, _ :: _, _, _ => liftM (.error .outOfFuel : Exec UpstreamUnits)
  | fuel + 1, current :: queue, visited, units => do
    let next ← visitUpstream graph current (graph.upstreamIds current) visited queue
    upstreamLoop graph fuel next.2 next.1 (units ++ [current])

/-- `collect_upstream`. -/
def collectUpstream (terminal : UnitId) (graph : DrainageGraph) :
    Fallible TraversalError UpstreamUnits :=
  if graph.get terminal = none then Fallible.fail (.terminalNotFound terminal)
  else upstreamLoop graph graph.rows.length [terminal] [terminal] []

/-! ## One row -/

variable {graph : DrainageGraph} {terminal : UnitId}

/-- What a turn of the loop over a row leaves: `fresh` are the units that it found. -/
structure RowVisited (graph : DrainageGraph) (ids visited queue : List UnitId)
    (next : List UnitId × List UnitId) : Prop where
  visited_iff : ∀ id, id ∈ next.1 ↔ id ∈ visited ∨ id ∈ ids
  queue_eq : ∃ fresh, next.2 = queue ++ fresh ∧ fresh.Nodup ∧
    ∀ id, id ∈ fresh ↔ id ∈ ids ∧ id ∉ visited
  present : ∀ id ∈ ids, id ∉ visited → id ∈ graph.ids

theorem visitUpstream_spec (current : UnitId) (ids visited queue : List UnitId) :
    (∃ next, (visitUpstream graph current ids visited queue).run = .ok (.ok next) ∧
      RowVisited graph ids visited queue next) ∨
    ∃ target, (visitUpstream graph current ids visited queue).run =
        .ok (.error (.danglingUpstreamRef current target)) ∧
      target ∈ ids ∧ graph.get target = none := by
  induction ids generalizing visited queue with
  | nil =>
    refine .inl ⟨_, rfl, fun id => by simp, ⟨[], by simp, List.nodup_nil, fun id => by simp⟩, ?_⟩
    intro id hid
    cases hid
  | cons first ids ih =>
    unfold visitUpstream
    by_cases hvisited : first ∈ visited
    · rw [if_pos hvisited]
      rcases ih visited queue with ⟨next, hrun, hnext⟩ | ⟨target, hrun, hmem, hget⟩
      · refine .inl ⟨next, hrun, ?_, ?_, ?_⟩
        · intro id
          rw [hnext.visited_iff, List.mem_cons]
          constructor
          · tauto
          · rintro (h | rfl | h)
            · exact .inl h
            · exact .inl hvisited
            · exact .inr h
        · obtain ⟨fresh, hqueue, hnodup, hfresh⟩ := hnext.queue_eq
          refine ⟨fresh, hqueue, hnodup, ?_⟩
          intro id
          rw [hfresh, List.mem_cons]
          constructor
          · tauto
          · rintro ⟨rfl | h, hnot⟩
            · exact absurd hvisited hnot
            · exact ⟨h, hnot⟩
        · intro id hid hnot
          rcases List.mem_cons.1 hid with rfl | hid
          · exact absurd hvisited hnot
          · exact hnext.present id hid hnot
      · exact .inr ⟨target, hrun, List.mem_cons_of_mem _ hmem, hget⟩
    · rw [if_neg hvisited]
      by_cases hget : graph.get first = none
      · rw [if_pos hget]
        exact .inr ⟨first, rfl, List.mem_cons_self, hget⟩
      · rw [if_neg hget]
        rcases ih (first :: visited) (queue ++ [first]) with
          ⟨next, hrun, hnext⟩ | ⟨target, hrun, hmem, htarget⟩
        · refine .inl ⟨next, hrun, ?_, ?_, ?_⟩
          · intro id
            rw [hnext.visited_iff, List.mem_cons, List.mem_cons]
            tauto
          · obtain ⟨fresh, hqueue, hnodup, hfresh⟩ := hnext.queue_eq
            refine ⟨first :: fresh, by rw [hqueue, List.append_assoc]; rfl, ?_, ?_⟩
            · rw [List.nodup_cons, hfresh]
              simp [hnodup]
            · intro id
              rw [List.mem_cons, hfresh, List.mem_cons, List.mem_cons, not_or]
              by_cases hid : id = first
              · simp [hid, hvisited]
              · tauto
          · intro id hid hnot
            rcases List.mem_cons.1 hid with rfl | hid
            · by_contra habsent
              exact hget (DrainageGraph.get_eq_none_iff.2 habsent)
            · by_cases heq : id = first
              · by_contra habsent
                exact hget (heq ▸ DrainageGraph.get_eq_none_iff.2 habsent)
              · apply hnext.present id hid
                rw [List.mem_cons, not_or]
                exact ⟨heq, hnot⟩
        · exact .inr ⟨target, hrun, List.mem_cons_of_mem _ hmem, htarget⟩

/-! ## The whole walk -/

/-- The state of the walk: the units that it has listed and those in the queue are the visited ones,
each once, the terminal first. -/
structure WalkInv (graph : DrainageGraph) (terminal : UnitId) (queue visited units : List UnitId) :
    Prop where
  search : SearchInv graph.Upstream terminal (· ∈ visited) queue
  nodup : (units ++ queue).Nodup
  visited_iff : ∀ id, id ∈ visited ↔ id ∈ units ++ queue
  present : ∀ id ∈ visited, id ∈ graph.ids
  first : (units ++ queue).head? = some terminal

/-- The units from which the terminal is reached, each once, the terminal first, all in the graph. -/
structure UpstreamUnits.Complete (graph : DrainageGraph) (terminal : UnitId) (result : UpstreamUnits) :
    Prop where
  nodup : result.units.Nodup
  first : result.units.head? = some terminal
  mem_iff : ∀ id, id ∈ result.units ↔ Relation.ReflTransGen graph.Upstream id terminal
  index_iff : ∀ id, id ∈ result.index ↔ id ∈ result.units
  present : ∀ id ∈ result.units, id ∈ graph.ids

theorem UpstreamUnits.terminal_eq_ok_iff {upstream : UpstreamUnits} {terminal : UnitId} :
    upstream.terminal = .ok terminal ↔ upstream.units.head? = some terminal := by
  rw [UpstreamUnits.terminal, readIndex, List.head?_eq_getElem?]
  cases upstream.units[0]? with
  | none => simp
  | some first => simp

/-- A unit that reaches the terminal references an absent one. -/
def Dangles (graph : DrainageGraph) (terminal source target : UnitId) : Prop :=
  Relation.ReflTransGen graph.Upstream source terminal ∧ graph.Upstream target source ∧
    graph.get target = none

theorem WalkInv.init (h : graph.get terminal ≠ none) :
    WalkInv graph terminal [terminal] [terminal] [] where
  search := by
    have hvisited : (fun id => id ∈ [terminal]) = (· = terminal) := by
      funext id
      exact propext List.mem_singleton
    rw [hvisited]
    exact SearchInv.init _ _
  nodup := by simp
  visited_iff := by simp
  present := by
    intro id hid
    obtain rfl := List.mem_singleton.1 hid
    by_contra habsent
    exact h (DrainageGraph.get_eq_none_iff.2 habsent)
  first := rfl

/-- **One turn** of the walk. -/
theorem WalkInv.step {current : UnitId} {queue visited units : List UnitId}
    {next : List UnitId × List UnitId} (h : WalkInv graph terminal (current :: queue) visited units)
    (hrow : RowVisited graph (graph.upstreamIds current) visited queue next) :
    WalkInv graph terminal next.2 next.1 (units ++ [current]) := by
  obtain ⟨fresh, hqueue, hnodup, hfresh⟩ := hrow.queue_eq
  have hlist : (units ++ [current]) ++ next.2 = (units ++ current :: queue) ++ fresh := by
    rw [hqueue]
    simp
  have hold : ∀ id, id ∈ fresh → id ∉ units ++ current :: queue := by
    intro id hid hmem
    exact ((hfresh id).1 hid).2 ((h.visited_iff id).2 hmem)
  refine ⟨?_, ?_, ?_, ?_, ?_⟩
  · apply h.search.step
    · intro id hid
      exact (hrow.visited_iff id).2 (.inl hid)
    · intro id hid
      by_cases hvisited : id ∈ visited
      · exact .inl hvisited
      · have hids := ((hrow.visited_iff id).1 hid).resolve_left hvisited
        refine .inr ⟨hids, ?_⟩
        rw [hqueue]
        exact List.mem_append_right _ ((hfresh id).2 ⟨hids, hvisited⟩)
    · intro id hid
      exact (hrow.visited_iff id).2 (.inr hid)
    · intro id hid
      rw [hqueue]
      exact List.mem_append_left _ hid
    · intro id hid
      rw [hqueue] at hid
      rcases List.mem_append.1 hid with hid | hid
      · exact (hrow.visited_iff id).2 (.inl (h.search.stack_visited id (List.mem_cons_of_mem _ hid)))
      · exact (hrow.visited_iff id).2 (.inr ((hfresh id).1 hid).1)
  · rw [hlist, List.nodup_append]
    refine ⟨h.nodup, hnodup, ?_⟩
    rintro id hid _ hid' rfl
    exact hold id hid' hid
  · intro id
    rw [hlist, List.mem_append, ← h.visited_iff, hrow.visited_iff, hfresh]
    tauto
  · intro id hid
    by_cases hvisited : id ∈ visited
    · exact h.present id hvisited
    · exact hrow.present id (((hrow.visited_iff id).1 hid).resolve_left hvisited) hvisited
  · rw [hlist, List.head?_append, h.first]
    rfl

theorem WalkInv.length_lt {current : UnitId} {queue visited units : List UnitId}
    (h : WalkInv graph terminal (current :: queue) visited units) :
    units.length < graph.rows.length := by
  have hsubset : units ++ current :: queue ⊆ graph.ids :=
    fun id hid => h.present id ((h.visited_iff id).2 hid)
  have hle := (h.nodup.subperm hsubset).length_le
  rw [DrainageGraph.ids, List.length_map, List.length_append, List.length_cons] at hle
  omega

theorem WalkInv.complete {visited units : List UnitId}
    (h : WalkInv graph terminal [] visited units) :
    UpstreamUnits.Complete graph terminal ⟨units, visited⟩ := by
  have hunits : ∀ id, id ∈ visited ↔ id ∈ units := by simpa using h.visited_iff
  refine ⟨by simpa using h.nodup, by simpa using h.first, ?_, hunits, ?_⟩
  · intro id
    rw [← hunits]
    exact h.search.visited_iff id
  · intro id hid
    exact h.present id ((hunits id).2 hid)

theorem upstreamLoop_spec (fuel : ℕ) {queue visited units : List UnitId}
    (h : WalkInv graph terminal queue visited units)
    (hfuel : graph.rows.length ≤ units.length + fuel) :
    (∃ result, (upstreamLoop graph fuel queue visited units).run = .ok (.ok result) ∧
      result.Complete graph terminal) ∨
    ∃ source target, (upstreamLoop graph fuel queue visited units).run =
        .ok (.error (.danglingUpstreamRef source target)) ∧ Dangles graph terminal source target := by
  -- The listed units are rows of the graph, so the fuel outlasts the queue.
  induction fuel generalizing queue visited units with
  | zero =>
    cases queue with
    | nil => exact .inl ⟨_, rfl, h.complete⟩
    | cons current queue =>
      have := h.length_lt
      omega
  | succ fuel ih =>
    cases queue with
    | nil => exact .inl ⟨_, rfl, h.complete⟩
    | cons current queue =>
      have hloop : (upstreamLoop graph (fuel + 1) (current :: queue) visited units).run =
          (visitUpstream graph current (graph.upstreamIds current) visited queue >>= fun next =>
            upstreamLoop graph fuel next.2 next.1 (units ++ [current])).run := rfl
      rw [hloop, ExceptT.run_bind]
      rcases visitUpstream_spec current (graph.upstreamIds current) visited queue with
        ⟨next, hrun, hrow⟩ | ⟨target, hrun, hmem, hget⟩
      · rw [hrun]
        apply ih (h.step hrow)
        rw [List.length_append, List.length_singleton]
        omega
      · rw [hrun]
        refine .inr ⟨current, target, rfl, ?_, hmem, hget⟩
        exact h.search.sound current (h.search.stack_visited current List.mem_cons_self)

/-- **The traversal ends and is exact.** On every graph it returns the units from which the terminal is
reached; or the terminal is absent; or a unit that reaches the terminal references an absent one. -/
theorem collectUpstream_spec (terminal : UnitId) (graph : DrainageGraph) :
    (∃ result, (collectUpstream terminal graph).run = .ok (.ok result) ∧
      graph.get terminal ≠ none ∧ result.Complete graph terminal) ∨
    ((collectUpstream terminal graph).run = .ok (.error (.terminalNotFound terminal)) ∧
      graph.get terminal = none) ∨
    ∃ source target, (collectUpstream terminal graph).run =
        .ok (.error (.danglingUpstreamRef source target)) ∧
      graph.get terminal ≠ none ∧ Dangles graph terminal source target := by
  unfold collectUpstream
  by_cases hterminal : graph.get terminal = none
  · rw [if_pos hterminal]
    exact .inr (.inl ⟨rfl, hterminal⟩)
  · rw [if_neg hterminal]
    rcases upstreamLoop_spec graph.rows.length (WalkInv.init hterminal) (by simp) with
      ⟨result, hrun, hcomplete⟩ | ⟨source, target, hrun, hdangles⟩
    · exact .inl ⟨result, hrun, hterminal, hcomplete⟩
    · exact .inr (.inr ⟨source, target, hrun, hterminal, hdangles⟩)

end Pourpoint
