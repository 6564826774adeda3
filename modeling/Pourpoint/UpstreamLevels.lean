import Pourpoint.Library.BreadthFirst
import Pourpoint.Upstream

/-!
# The order of the upstream traversal

`collect_upstream` lists the units by their distance to the terminal, and which of its two errors it
returns is decided by the graph alone: by the absence of the terminal, or by a reference to an absent
unit from some unit that the terminal reaches (`collectUpstream_levels`).
-/

namespace Pourpoint

open Library

variable {graph : DrainageGraph} {terminal : UnitId}

/-- The number of downstream references from a unit to the terminal, on a shortest path. -/
noncomputable def DrainageGraph.distance (graph : DrainageGraph) (terminal id : UnitId) : ℕ :=
  Library.distance graph.Upstream terminal id

/-- The turn of the loop over a row is a turn of the breadth-first search. -/
theorem RowVisited.level_step {current : UnitId} {queue visited units : List UnitId}
    {next : List UnitId × List UnitId}
    (h : LevelInv graph.Upstream terminal (· ∈ visited) units (current :: queue))
    (hrow : RowVisited graph (graph.upstreamIds current) visited queue next) :
    LevelInv graph.Upstream terminal (· ∈ next.1) (units ++ [current]) next.2 := by
  obtain ⟨fresh, hqueue, -, hfresh⟩ := hrow.queue_eq
  rw [hqueue]
  exact h.step hrow.visited_iff hfresh

/-- The units that the loop returns stand in the order of their distance. -/
theorem upstreamLoop_sorted {fuel : ℕ} {queue visited units : List UnitId} {result : UpstreamUnits}
    (h : LevelInv graph.Upstream terminal (· ∈ visited) units queue)
    (hrun : (upstreamLoop graph fuel queue visited units).run = .ok (.ok result)) :
    result.units.Pairwise fun id other =>
      graph.distance terminal id ≤ graph.distance terminal other := by
  induction fuel generalizing queue visited units with
  | zero =>
    cases queue with
    | nil =>
      cases hrun
      exact h.sorted_listed
    | cons current queue => cases hrun
  | succ fuel ih =>
    cases queue with
    | nil =>
      cases hrun
      exact h.sorted_listed
    | cons current queue =>
      have hloop : (upstreamLoop graph (fuel + 1) (current :: queue) visited units).run =
          (visitUpstream graph current (graph.upstreamIds current) visited queue >>= fun next =>
            upstreamLoop graph fuel next.2 next.1 (units ++ [current])).run := rfl
      rw [hloop, ExceptT.run_bind] at hrun
      rcases visitUpstream_spec current (graph.upstreamIds current) visited queue with
        ⟨next, hnext, hrow⟩ | ⟨target, herror, -, -⟩
      · rw [hnext] at hrun
        exact ih (RowVisited.level_step h hrow) hrun
      · rw [herror] at hrun
        cases hrun

theorem collectUpstream_sorted {result : UpstreamUnits}
    (hrun : (collectUpstream terminal graph).run = .ok (.ok result)) :
    result.units.Pairwise fun id other =>
      graph.distance terminal id ≤ graph.distance terminal other := by
  unfold collectUpstream at hrun
  split_ifs at hrun
  · cases hrun
  · have hvisited : (fun id => id ∈ [terminal]) = (· = terminal) := by
      funext id
      exact propext List.mem_singleton
    have hinit : LevelInv graph.Upstream terminal (· ∈ [terminal]) [] [terminal] := by
      rw [hvisited]
      exact LevelInv.init _ _
    exact upstreamLoop_sorted hinit hrun

theorem UpstreamUnits.Complete.not_dangles {result : UpstreamUnits}
    (h : result.Complete graph terminal) {source target : UnitId} :
    ¬Dangles graph terminal source target := by
  rintro ⟨hreach, hupstream, habsent⟩
  have hmem := (h.mem_iff target).2 (hreach.head hupstream)
  exact DrainageGraph.get_eq_none_iff.1 habsent (h.present target hmem)

theorem not_dangles_of_absent (habsent : graph.get terminal = none) {source target : UnitId} :
    ¬Dangles graph terminal source target := by
  rintro ⟨hreach, hupstream, -⟩
  have hnone : ∀ id, ¬graph.Upstream id terminal := by
    intro id hid
    simp [DrainageGraph.Upstream, DrainageGraph.upstreamIds, habsent] at hid
  rcases Relation.ReflTransGen.cases_tail hreach with heq | ⟨id, -, hid⟩
  · subst heq
    exact hnone target hupstream
  · exact hnone id hid

/-- **The traversal is the reachability closure.** On every graph it ends. It fails with
`TerminalNotFound` exactly when the terminal is absent, and with `DanglingUpstreamRef` exactly when a
unit that reaches the terminal references an absent one. Otherwise it returns the units that reach the
terminal, each once, the terminal first, by their distance, and the set of them. -/
theorem collectUpstream_levels (terminal : UnitId) (graph : DrainageGraph) :
    ∃ outcome, (collectUpstream terminal graph).run = .ok outcome ∧
      ((∃ id, outcome = .error (.terminalNotFound id)) ↔ terminal ∉ graph.ids) ∧
      ((∃ source target, outcome = .error (.danglingUpstreamRef source target)) ↔
        ∃ source target, Relation.ReflTransGen graph.Upstream source terminal ∧
          graph.Upstream target source ∧ target ∉ graph.ids) ∧
      ∀ result, outcome = .ok result →
        (∀ id, id ∈ result.units ↔ Relation.ReflTransGen graph.Upstream id terminal) ∧
        result.units.Nodup ∧ result.units.head? = some terminal ∧
        (result.units.Pairwise fun id other =>
          graph.distance terminal id ≤ graph.distance terminal other) ∧
        ∀ id, id ∈ result.index ↔ id ∈ result.units := by
  have hdangles : (∃ source target, Relation.ReflTransGen graph.Upstream source terminal ∧
      graph.Upstream target source ∧ target ∉ graph.ids) ↔
        ∃ source target, Dangles graph terminal source target := by
    simp only [Dangles, DrainageGraph.get_eq_none_iff]
  rw [hdangles]
  rcases collectUpstream_spec terminal graph with
    ⟨result, hrun, hterminal, hcomplete⟩ | ⟨hrun, hterminal⟩ |
    ⟨source, target, hrun, hterminal, hdangle⟩
  · refine ⟨.ok result, hrun, ?_, ?_, ?_⟩
    · rw [← DrainageGraph.get_eq_none_iff]
      simp [hterminal]
    · have hnone : ¬∃ source target, Dangles graph terminal source target := by
        rintro ⟨source, target, h⟩
        exact hcomplete.not_dangles h
      simp [hnone]
    · intro result' heq
      cases heq
      exact ⟨hcomplete.mem_iff, hcomplete.nodup, hcomplete.first, collectUpstream_sorted hrun,
        hcomplete.index_iff⟩
  · refine ⟨_, hrun, ?_, ?_, fun result h => by cases h⟩
    · rw [← DrainageGraph.get_eq_none_iff]
      simp [hterminal]
    · have hnone : ¬∃ source target, Dangles graph terminal source target := by
        rintro ⟨source, target, h⟩
        exact not_dangles_of_absent hterminal h
      simp [hnone]
  · refine ⟨_, hrun, ?_, ?_, fun result h => by cases h⟩
    · rw [← DrainageGraph.get_eq_none_iff]
      simp [hterminal]
    · exact ⟨fun _ => ⟨source, target, hdangle⟩, fun _ => ⟨source, target, rfl⟩⟩

end Pourpoint
