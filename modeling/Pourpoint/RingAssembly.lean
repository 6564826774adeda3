import Pourpoint.Polygonize

/-!
# Ring assembly is total and exact

`assemble_rings` follows outgoing edges through a map that shrinks by one edge at each step. The
map is tracked by the list of remaining edges (`Tracks`): the ends stored under a vertex are those
of its remaining edges, in the order they were pushed.

While a ring is open the remaining edges are balanced except for one surplus at its two ends
(`followRing_spec`), so a vertex that is entered can be left again and no `unwrap` fails. The
result (`assembleRings_spec`) is a list of closed rings that use every edge exactly once, each
listed from its first vertex in row-major order.

Popping the *last* pushed edge matters at vertices with two outgoing edges: `RingsOf.pushOrder`
says that when a ring starts at `p` towards `q`, the edges of `p` pushed before `q` are still
unused, so they too lead to vertices at or after `p`.
-/

namespace Pourpoint

open Lattice

/-! ## The order on vertices -/

instance : Std.TransCmp vertexCmp := inferInstanceAs (Std.TransCmp (compareLex _ _))

instance : Std.LawfulEqCmp vertexCmp where
  eq_of_compare {a b} h := by
    simp only [vertexCmp, compareLex, compareOn, Ordering.then_eq_eq, Nat.compare_eq_eq] at h
    exact Prod.ext h.1 h.2

/-- `p` is at or before `q` in row-major order. -/
def VertexLe (p q : Vertex) : Prop := p.1 < q.1 ∨ p.1 = q.1 ∧ p.2 ≤ q.2

theorem isLE_vertexCmp {p q : Vertex} : (vertexCmp p q).isLE ↔ VertexLe p q := by
  simp only [vertexCmp, compareLex, compareOn, VertexLe, Ordering.isLE_then_iff_or,
    Nat.compare_eq_lt, Nat.compare_eq_eq, Nat.isLE_compare]

theorem VertexLe.refl (p : Vertex) : VertexLe p p := by simp [VertexLe]

/-! ## Remaining edges -/

/-- The ends of the edges that leave `v`, in order. -/
def outs (edges : List DirectedEdge) (v : Vertex) : List Vertex :=
  (edges.filter fun e => e.1 = v).map Prod.snd

@[simp] theorem outs_nil (v : Vertex) : outs [] v = [] := rfl

theorem outs_append (a b : List DirectedEdge) (v : Vertex) :
    outs (a ++ b) v = outs a v ++ outs b v := by
  simp [outs]

theorem outs_singleton (e : DirectedEdge) (v : Vertex) :
    outs [e] v = if e.1 = v then [e.2] else [] := by
  by_cases h : e.1 = v <;> simp [outs, h]

theorem mem_outs {edges : List DirectedEdge} {v w : Vertex} :
    w ∈ outs edges v ↔ (v, w) ∈ edges := by
  simp [outs]

/-- The last edge out of a vertex can be split off. -/
theorem exists_split_of_outs {edges : List DirectedEdge} {v w : Vertex} {l : List Vertex}
    (h : outs edges v = l ++ [w]) :
    ∃ a b, edges = a ++ (v, w) :: b ∧ outs a v = l ∧ outs b v = [] := by
  induction edges using List.reverseRecOn with
  | nil => simp at h
  | append_singleton edges e ih =>
    rw [outs_append, outs_singleton] at h
    split_ifs at h with he
    · obtain ⟨rfl, hw⟩ := List.append_inj' h rfl
      obtain rfl : e.2 = w := by simpa using hw
      exact ⟨edges, [], by rw [← he], rfl, rfl⟩
    · obtain ⟨a, b, rfl, ha, hb⟩ := ih (by simpa using h)
      refine ⟨a, b ++ [e], by simp, ha, ?_⟩
      rw [outs_append, hb, outs_singleton, if_neg he]
      rfl

/-- The map holds exactly the remaining edges. -/
def Tracks (adjacency : Adjacency) (rem : List DirectedEdge) : Prop :=
  ∀ v, adjacency[v]? = if outs rem v = [] then none else some (outs rem v)

theorem tracks_foldl (edges : List DirectedEdge) {adjacency : Adjacency} {rem : List DirectedEdge}
    (h : Tracks adjacency rem) :
    Tracks (edges.foldl (fun m e => m.alter e.1 fun ends => some (ends.getD [] ++ [e.2])) adjacency)
      (rem ++ edges) := by
  induction edges generalizing adjacency rem with
  | nil => simpa using h
  | cons e edges ih =>
    rw [List.foldl_cons, List.append_cons]
    refine ih fun v => ?_
    rw [Std.TreeMap.getElem?_alter, outs_append, outs_singleton]
    by_cases he : e.1 = v
    · subst he
      rw [if_pos Std.ReflCmp.compare_self, if_pos rfl, h]
      split_ifs with h1 h2 <;> simp_all
    · rw [if_neg fun h => he (Std.LawfulEqCmp.eq_of_compare h), if_neg he, List.append_nil, h]

theorem tracks_buildAdjacency (edges : List DirectedEdge) :
    Tracks (buildAdjacency edges) edges := by
  have hempty : Tracks ∅ [] := fun v => by simp
  simpa [buildAdjacency] using tracks_foldl edges hempty

/-! ## Balance -/

/-- The divergence of a family of edges, tested against `f`. -/
def divergence (f : Vertex → ℤ) (edges : List DirectedEdge) : ℤ :=
  (edges.map fun e => f e.2 - f e.1).sum

theorem divergence_perm {a b : List DirectedEdge} (h : a.Perm b) (f : Vertex → ℤ) :
    divergence f a = divergence f b :=
  (h.map _).sum_eq

@[simp] theorem divergence_cons (f : Vertex → ℤ) (e : DirectedEdge) (edges : List DirectedEdge) :
    divergence f (e :: edges) = f e.2 - f e.1 + divergence f edges := rfl

/-- A vertex with an incoming surplus can be left. -/
theorem outs_ne_nil_of_divergence {rem : List DirectedEdge} {v : Vertex}
    (h : divergence (fun u => if u = v then 1 else 0) rem < 0) : outs rem v ≠ [] := by
  intro hout
  have hnonneg : 0 ≤ divergence (fun u => if u = v then 1 else 0) rem := by
    refine List.sum_nonneg fun n hn => ?_
    obtain ⟨e, he, rfl⟩ := List.mem_map.1 hn
    have hne : e.1 ≠ v := by
      rintro rfl
      have : e.2 ∈ outs rem e.1 := mem_outs.2 he
      simp [hout] at this
    simp only [if_neg hne]
    split_ifs <;> simp
  omega

/-- In a balanced family a vertex that is entered can be left. -/
theorem outs_ne_nil_of_mem {rem : List DirectedEdge} (hbal : ∀ f, divergence f rem = 0)
    {u v : Vertex} (h : (u, v) ∈ rem) : outs rem v ≠ [] := by
  obtain ⟨a, b, rfl⟩ := List.append_of_mem h
  by_cases huv : u = v
  · subst huv
    have : u ∈ outs (a ++ (u, u) :: b) u := mem_outs.2 h
    exact List.ne_nil_of_mem this
  have hperm : (a ++ (u, v) :: b).Perm ((u, v) :: (a ++ b)) := List.perm_middle
  have hdiv := hbal fun w => if w = v then 1 else 0
  rw [divergence_perm hperm, divergence_cons] at hdiv
  simp only [if_neg huv, if_pos] at hdiv
  intro hnil
  have hsurplus : divergence (fun w => if w = v then 1 else 0) (a ++ b) < 0 := by
    simp at hdiv
    omega
  refine outs_ne_nil_of_divergence hsurplus ?_
  have hmid : outs [(u, v)] v = [] := by rw [outs_singleton, if_neg huv]
  rw [List.append_cons, outs_append, outs_append, hmid, List.append_nil] at hnil
  rw [outs_append, hnil]

/-! ## One ring -/

/-- Removing the popped edge keeps the map in step with the remaining edges. -/
theorem Tracks.pop {adjacency : Adjacency} {a b : List DirectedEdge} {v w : Vertex}
    (h : Tracks adjacency (a ++ (v, w) :: b)) (hb : outs b v = []) :
    Tracks (if (outs a v).isEmpty then adjacency.erase v else adjacency.insert v (outs a v))
      (a ++ b) := by
  intro u
  have hu := h u
  rw [List.append_cons, outs_append, outs_append, outs_singleton] at hu
  by_cases huv : v = u
  · subst huv
    rw [outs_append, hb, List.append_nil]
    split_ifs with h1 h2 h2 <;> simp_all
  · have hcmp : ¬vertexCmp v u = .eq := fun h => huv (Std.LawfulEqCmp.eq_of_compare h)
    rw [if_neg huv, List.append_nil, ← outs_append] at hu
    rw [← hu]
    split_ifs
    · rw [Std.TreeMap.getElem?_erase, if_neg hcmp]
    · rw [Std.TreeMap.getElem?_insert, if_neg hcmp]

/-- **Following a ring.** When the remaining edges have one surplus at `current`, missing at
`origin`, the inner loop returns to `origin`. It takes each step from the remaining edges, and what
stays under a vertex was pushed before what was taken. -/
theorem followRing_spec (fuel : ℕ) {adjacency : Adjacency} {rem : List DirectedEdge}
    {origin current : Vertex} (ring : Ring) (ht : Tracks adjacency rem)
    (hbal : ∀ f, divergence f rem = f origin - f current) (hout : outs rem current ≠ [])
    (hfuel : rem.length ≤ fuel) :
    ∃ adjacency' rem' steps,
      followRing fuel adjacency origin ring current = .ok (adjacency', ring ++ steps) ∧
      Tracks adjacency' rem' ∧ rem.Perm (segments (current :: steps) ++ rem') ∧
      steps.getLast? = some origin ∧ (∀ v, outs rem' v <+: outs rem v) ∧
      steps.head? = (outs rem current).getLast? := by
  induction fuel generalizing adjacency rem current ring with
  | zero =>
    obtain rfl : rem = [] := List.eq_nil_of_length_eq_zero (by omega)
    exact absurd rfl hout
  | succ fuel ih =>
    obtain ⟨l, next, hl⟩ : ∃ l next, outs rem current = l ++ [next] := by
      rcases List.eq_nil_or_concat (outs rem current) with h | ⟨l, next, h⟩
      · exact absurd h hout
      · exact ⟨l, next, by rw [h, List.concat_eq_append]⟩
    obtain ⟨a, b, rfl, ha, hb⟩ := exists_split_of_outs hl
    have hget : adjacency[current]? = some (l ++ [next]) := by rw [ht, if_neg hout, hl]
    have hpop := ht.pop hb
    rw [ha] at hpop
    have hperm : (a ++ (current, next) :: b).Perm ((current, next) :: (a ++ b)) := List.perm_middle
    have hpre : ∀ v, outs (a ++ b) v <+: outs (a ++ (current, next) :: b) v := by
      intro v
      rw [List.append_cons, outs_append, outs_append, outs_append, outs_singleton]
      split_ifs with hv
      · rw [← hv, hb]
        exact ⟨[next], by simp⟩
      · simp
    simp only [followRing, hget, unwrap_some, ok_bind, List.getLast?_concat, List.dropLast_concat]
    by_cases hnext : next = origin
    · subst hnext
      refine ⟨_, a ++ b, [next], by rw [if_pos rfl], hpop, by simp, rfl, hpre, by simp [hl]⟩
    · -- The surplus moves from `current` to `next`.
      have hbal' : ∀ f, divergence f (a ++ b) = f origin - f next := by
        intro f
        have := hbal f
        rw [divergence_perm hperm, divergence_cons] at this
        linarith
      have hout' : outs (a ++ b) next ≠ [] := by
        refine outs_ne_nil_of_divergence ?_
        rw [hbal', if_neg (Ne.symm hnext), if_pos rfl]
        norm_num
      have hlen : (a ++ b).length ≤ fuel := by
        simp only [List.length_append, List.length_cons] at hfuel ⊢
        omega
      obtain ⟨adjacency', rem', steps, hrun, ht', hperm', hlast, hpre', -⟩ :=
        ih (ring ++ [next]) hpop hbal' hout' hlen
      refine ⟨adjacency', rem', next :: steps, ?_, ht', ?_, ?_, ?_, by simp [hl]⟩
      · rw [if_neg hnext, hrun]
        simp
      · rw [segments_cons_cons]
        exact hperm.trans (hperm'.cons _)
      · rw [List.getLast?_cons, hlast]
        rfl
      · exact fun v => (hpre' v).trans (hpre v)

/-! ## All rings -/

/-- What the assembled rings are, for the edges `rem`. -/
structure RingsOf (rem : List DirectedEdge) (rings : List Ring) : Prop where
  closed : ∀ w ∈ rings, Closed w
  nonempty : ∀ w ∈ rings, segments w ≠ []
  perm : (rings.flatMap segments).Perm rem
  first : ∀ w ∈ rings, ∀ p ∈ w.head?, ∀ v ∈ w, VertexLe p v
  sorted : rings.Pairwise fun w t => ∀ p ∈ w.head?, ∀ q ∈ t.head?, VertexLe p q
  pushOrder : ∀ p q l, p :: q :: l ∈ rings →
    ∃ x, x ++ [q] <+: outs rem p ∧ ∀ q' ∈ x, VertexLe p q'

theorem RingsOf.mem_of_mem {rem : List DirectedEdge} {rings : List Ring} (h : RingsOf rem rings)
    {w : Ring} (hw : w ∈ rings) {e : DirectedEdge} (he : e ∈ segments w) : e ∈ rem :=
  h.perm.subset (List.mem_flatMap.2 ⟨w, hw, he⟩)

theorem Tracks.head?_keys {adjacency : Adjacency} {rem : List DirectedEdge} (h : Tracks adjacency rem)
    {origin : Vertex} (hhead : adjacency.keys.head? = some origin) :
    outs rem origin ≠ [] ∧ ∀ e ∈ rem, VertexLe origin e.1 := by
  rw [← Std.TreeMap.minKey?_eq_head?_keys,
    Std.TreeMap.minKey?_eq_some_iff_mem_and_forall] at hhead
  have hmem : ∀ v, v ∈ adjacency ↔ outs rem v ≠ [] := by
    intro v
    rw [Std.TreeMap.mem_iff_isSome_getElem?, h]
    split_ifs with hv <;> simp [hv]
  refine ⟨(hmem _).1 hhead.1, fun e he => ?_⟩
  have : e.2 ∈ outs rem e.1 := mem_outs.2 he
  exact isLE_vertexCmp.1 (hhead.2 e.1 ((hmem _).2 (List.ne_nil_of_mem this)))

theorem Tracks.eq_nil {adjacency : Adjacency} {rem : List DirectedEdge} (h : Tracks adjacency rem)
    (hhead : adjacency.keys.head? = none) : rem = [] := by
  rw [List.eq_nil_iff_forall_not_mem]
  intro e he
  have hout : outs rem e.1 ≠ [] := List.ne_nil_of_mem (mem_outs.2 he)
  have hmem : e.1 ∈ adjacency := by
    rw [Std.TreeMap.mem_iff_isSome_getElem?, h, if_neg hout]
    rfl
  rw [← Std.TreeMap.mem_keys, List.head?_eq_none_iff.1 hhead] at hmem
  simp at hmem

theorem segments_cons_ne_nil {p : Vertex} {l : List Vertex} (h : l ≠ []) :
    segments (p :: l) ≠ [] := by
  cases l with
  | nil => exact absurd rfl h
  | cons q l => simp

/-- One turn of the outer loop puts a ring in front of the rings of what remains. -/
theorem RingsOf.cons {rem rem' : List DirectedEdge} {rings : List Ring} {origin : Vertex}
    {steps : List Vertex} (h : RingsOf rem' rings)
    (hbal : ∀ f, divergence f rem = 0) (hmin : ∀ e ∈ rem, VertexLe origin e.1)
    (hperm : rem.Perm (segments (origin :: steps) ++ rem')) (hlast : steps.getLast? = some origin)
    (hpre : ∀ v, outs rem' v <+: outs rem v)
    (hhead : steps.head? = (outs rem origin).getLast?) :
    RingsOf rem ((origin :: steps) :: rings) := by
  have hne : steps ≠ [] := by
    rintro rfl
    simp at hlast
  -- Every remaining vertex is the start of a remaining edge.
  have hle : ∀ e ∈ rem, VertexLe origin e.2 := by
    intro e he
    obtain ⟨x, hx⟩ := List.exists_mem_of_ne_nil _ (outs_ne_nil_of_mem hbal he)
    exact hmin _ (mem_outs.1 hx)
  have hsub : ∀ e ∈ rem', e ∈ rem := fun e he => hperm.symm.subset (by simp [he])
  have hseg : ∀ e ∈ segments (origin :: steps), e ∈ rem := fun e he =>
    hperm.symm.subset (by simp [he])
  refine ⟨?_, ?_, ?_, ?_, ?_, ?_⟩
  · refine List.forall_mem_cons.2 ⟨?_, h.closed⟩
    rw [Closed, List.getLast?_cons, hlast]
    rfl
  · exact List.forall_mem_cons.2 ⟨segments_cons_ne_nil hne, h.nonempty⟩
  · rw [List.flatMap_cons]
    exact (h.perm.append_left _).trans hperm.symm
  · refine List.forall_mem_cons.2 ⟨?_, h.first⟩
    intro p hp v hv
    obtain rfl : origin = p := by simpa using hp
    rcases List.mem_cons.1 hv with rfl | hv
    · exact VertexLe.refl _
    · obtain ⟨u, hu⟩ := exists_segment_to (l := origin :: steps)
        (by rw [Closed, List.getLast?_cons, hlast]; rfl) (segments_cons_ne_nil hne)
        (List.mem_cons_of_mem _ hv)
      exact hle _ (hseg _ hu)
  · refine List.pairwise_cons.2 ⟨?_, h.sorted⟩
    intro t ht p hp q hq
    obtain rfl : origin = p := by simpa using hp
    obtain ⟨x, hx⟩ := (h.closed t ht).exists_segment_from (h.nonempty t ht)
      (List.mem_of_mem_head? hq)
    exact hmin _ (hsub _ (h.mem_of_mem ht hx))
  · intro p q l hmem
    rcases List.mem_cons.1 hmem with heq | hmem
    · obtain ⟨rfl, rfl⟩ := List.cons.inj heq
      obtain ⟨x, hx⟩ := List.getLast?_eq_some_iff.1 hhead.symm
      refine ⟨x, by rw [hx], fun q' hq' => hle (p, q') (mem_outs.1 ?_)⟩
      rw [hx]
      simp [hq']
    · obtain ⟨x, hx, hx'⟩ := h.pushOrder p q l hmem
      exact ⟨x, hx.trans (hpre p), hx'⟩

theorem assembleLoop_spec (fuel : ℕ) {adjacency : Adjacency} {rem : List DirectedEdge}
    (rings : List Ring) (ht : Tracks adjacency rem) (hbal : ∀ f, divergence f rem = 0)
    (hfuel : rem.length < fuel) :
    ∃ rings', assembleLoop fuel adjacency rings = .ok (rings ++ rings') ∧ RingsOf rem rings' := by
  induction fuel generalizing adjacency rem rings with
  | zero => omega
  | succ fuel ih =>
    cases hhead : adjacency.keys.head? with
    | none =>
      obtain rfl := ht.eq_nil hhead
      refine ⟨[], by simp [assembleLoop, hhead], ?_⟩
      constructor <;> simp
    | some origin =>
      obtain ⟨hout, hmin⟩ := ht.head?_keys hhead
      have hstart : ∀ f : Vertex → ℤ, divergence f rem = f origin - f origin := by
        simpa using hbal
      obtain ⟨adjacency', rem', steps, hrun, ht', hperm, hlast, hpre, hfirst⟩ :=
        followRing_spec (fuel + 1) [origin] ht hstart hout (by omega)
      have hclosed : Closed (origin :: steps) := by
        rw [Closed, List.getLast?_cons, hlast]
        rfl
      have hbal' : ∀ f, divergence f rem' = 0 := by
        intro f
        have := hbal f
        rw [divergence_perm hperm, divergence, List.map_append, List.sum_append,
          hclosed.sum_segments_sub f, zero_add] at this
        exact this
      have hlen : rem'.length < fuel := by
        have hne : segments (origin :: steps) ≠ [] :=
          segments_cons_ne_nil (by rintro rfl; simp at hlast)
        have := hperm.length_eq
        have := List.length_pos_of_ne_nil hne
        rw [List.length_append] at *
        omega
      obtain ⟨rings', hloop, hrings⟩ := ih (rings ++ [origin :: steps]) ht' hbal' hlen
      refine ⟨(origin :: steps) :: rings', ?_, hrings.cons hbal hmin hperm hlast hpre hfirst⟩
      simp only [assembleLoop, hhead, hrun, ok_bind, List.singleton_append, hloop]
      simp

/-- **Ring assembly is total and exact** on a balanced family of edges. -/
theorem assembleRings_spec {edges : List DirectedEdge} (hbal : ∀ f, divergence f edges = 0) :
    ∃ rings, assembleRings edges = .ok rings ∧ RingsOf edges rings := by
  obtain ⟨rings, hrun, h⟩ :=
    assembleLoop_spec (edges.length + 1) [] (tracks_buildAdjacency edges) hbal (by omega)
  exact ⟨rings, by simpa [assembleRings] using hrun, h⟩

end Pourpoint
