import Pourpoint.Engine.Traverse
import Pourpoint.Library.MinBy
import Pourpoint.Resolver.Outlet
import Pourpoint.Rounding
import Pourpoint.Snaps.Pruning
import Mathlib.Data.Prod.Lex

/-!
# Resolution by snap features

`resolve_via_snap_store` queries the snap store around the outlet, scores each target by the nearest
point of its geometry, and ranks those within the search radius. The ranker takes the heaviest
candidate; then a mainstem goes first, then the nearer candidate and the lower id. With `DistanceFirst`
only the candidates in a band above the smallest distance compete, and distance counts no further.

The choice depends on the set of candidates alone (`vectorRanking`): the smallest distance does, hence
the band, and the order in the band is linear as ids differ. Weights and distances are in the order of
`total_cmp`, which refines the numeric one, and the limit of the band is a sum of `f64`.
-/

namespace Pourpoint

open Library OrderDual

/-! ## Ranking -/

/-- A snap target with the distance of its nearest point. -/
structure ScoredCandidate where
  target : SnapTarget
  distanceM : Double
  nearestCoord : GeoCoord
  deriving DecidableEq

/-- The closure of `vector_dominance_order`. -/
def mainstemRank : Option StemRole → ℕ
  | some .mainstem => 1
  | _ => 0

/-- `vector_dominance_order`. -/
def vectorDominanceOrder (a b : ScoredCandidate) (includeDistance : Bool) : Ordering :=
  (b.target.weight.totalCmp a.target.weight).then <|
    (compare (mainstemRank b.target.stemRole) (mainstemRank a.target.stemRole)).then <|
      (if includeDistance then a.distanceM.totalCmp b.distanceM else .eq).then
        (compare a.target.id b.target.id)

/-- `ConfiguredVectorCandidateRanker`. -/
structure ConfiguredVectorCandidateRanker where
  strategy : SnapStrategy
  distanceToleranceM : DistanceTolerance

/-- The position of the chosen candidate. -/
def ConfiguredVectorCandidateRanker.rank (ranker : ConfiguredVectorCandidateRanker)
    (candidates : List ScoredCandidate) : Option ℕ :=
  match ranker.strategy with
  | .distanceFirst => do
    let minimum ← minBy Double.totalCmp (candidates.map (·.distanceM))
    let limit := minimum.toF64.add ranker.distanceToleranceM.metres
    let band := candidates.zipIdx.filter fun c => c.1.distanceM.toF64.le limit
    (minBy (fun a b => vectorDominanceOrder a.1 b.1 false) band).map (·.2)
  | .weightFirst =>
    (minBy (fun a b => vectorDominanceOrder a.1 b.1 true) candidates.zipIdx).map (·.2)

/-! ## The order of candidates -/

namespace ScoredCandidate

/-- The rank of a candidate: weight, mainstem, the smaller distance where it counts, the lower id. -/
def dominance (includeDistance : Bool) (c : ScoredCandidate) : ℤ ×ₗ ℕ ×ₗ ℤᵒᵈ ×ₗ ℤᵒᵈ :=
  toLex (c.target.weight.totalKey, toLex (mainstemRank c.target.stemRole,
    toLex (toDual (if includeDistance then c.distanceM.totalKey else 0), toDual c.target.id)))

theorem id_eq_of_dominance_eq {includeDistance : Bool} {a b : ScoredCandidate}
    (h : a.dominance includeDistance = b.dominance includeDistance) : a.target.id = b.target.id := by
  simp only [dominance, toLex_inj, Prod.mk.injEq, toDual_inj] at h
  exact h.2.2.2

theorem weight_le_of_dominance_le {includeDistance : Bool} {a b : ScoredCandidate}
    (h : a.dominance includeDistance ≤ b.dominance includeDistance) :
    a.target.weight.totalKey ≤ b.target.weight.totalKey := by
  rw [dominance, dominance, Prod.Lex.toLex_le_toLex] at h
  rcases h with h | h
  · exact h.le
  · exact h.1.le

end ScoredCandidate

/-- The comparison is that of the ranks, the dominating candidate first. -/
theorem vectorDominanceOrder_eq_gt_iff (includeDistance : Bool) (a b : ScoredCandidate) :
    vectorDominanceOrder a b includeDistance = .gt ↔
      toDual (b.dominance includeDistance) < toDual (a.dominance includeDistance) := by
  have hdistance : (if includeDistance then a.distanceM.totalCmp b.distanceM else .eq) =
      compare (if includeDistance then a.distanceM.totalKey else 0)
        (if includeDistance then b.distanceM.totalKey else 0) := by
    cases includeDistance <;> rfl
  rw [toDual_lt_toDual, vectorDominanceOrder, hdistance]
  simp only [F32.totalCmp, Ordering.then_eq_gt, compare_gt_iff_gt, compare_eq_iff_eq,
    ScoredCandidate.dominance, Prod.Lex.toLex_lt_toLex, toDual_lt_toDual, toDual_inj]
  constructor
  · rintro (h | ⟨h, h' | ⟨h', h'' | ⟨h'', h'''⟩⟩⟩)
    · exact Or.inl h
    · exact Or.inr ⟨h.symm, Or.inl h'⟩
    · exact Or.inr ⟨h.symm, Or.inr ⟨h'.symm, Or.inl h''⟩⟩
    · exact Or.inr ⟨h.symm, Or.inr ⟨h'.symm, Or.inr ⟨h'', h'''⟩⟩⟩
  · rintro (h | ⟨h, h' | ⟨h', h'' | ⟨h'', h'''⟩⟩⟩)
    · exact Or.inl h
    · exact Or.inr ⟨h.symm, Or.inl h'⟩
    · exact Or.inr ⟨h.symm, Or.inr ⟨h'.symm, Or.inl h''⟩⟩
    · exact Or.inr ⟨h.symm, Or.inr ⟨h'.symm, Or.inr ⟨h'', h'''⟩⟩⟩

/-! ## The chosen candidate -/

/-- A distance of the list that no other undercuts. -/
structure SmallestDistance (candidates : List ScoredCandidate) (distance : Double) : Prop where
  mem : distance ∈ candidates.map (·.distanceM)
  le : ∀ c ∈ candidates, distance.toF64.le c.distanceM.toF64 = true

/-- The band above a distance. -/
def WithinTolerance (tolerance : DistanceTolerance) (distance : Double) (c : ScoredCandidate) : Prop :=
  c.distanceM.toF64.le (distance.toF64.add tolerance.metres) = true

/-- The candidate competes, outranks every other that does and is as heavy as any of them. -/
structure IsWinner (includeDistance : Bool) (competes : ScoredCandidate → Prop)
    (candidates : List ScoredCandidate) (winner : ScoredCandidate) : Prop where
  mem : winner ∈ candidates
  qualified : competes winner
  dominates : ∀ c ∈ candidates, competes c → c ≠ winner →
    c.dominance includeDistance < winner.dominance includeDistance
  heaviest : ∀ c ∈ candidates, competes c → c.target.weight.le winner.target.weight = true

/-- Candidates with different ids and without a `NaN`. -/
structure Rankable (candidates : List ScoredCandidate) : Prop where
  nonempty : candidates ≠ []
  nodup : (candidates.map (·.target.id)).Nodup
  distance : ∀ c ∈ candidates, c.distanceM.isNan = false
  weight : ∀ c ∈ candidates, c.target.weight.isNan = false

section

variable {candidates order : List ScoredCandidate} {includeDistance : Bool}
  {competes : ScoredCandidate → Prop} {winner other : ScoredCandidate}

theorem Rankable.of_perm (h : Rankable candidates) (hperm : order.Perm candidates) :
    Rankable order where
  nonempty hnil := h.nonempty (List.Perm.nil_eq (hnil ▸ hperm)).symm
  nodup := (hperm.map _).nodup_iff.2 h.nodup
  distance c hc := h.distance c (hperm.mem_iff.1 hc)
  weight c hc := h.weight c (hperm.mem_iff.1 hc)

theorem SmallestDistance.of_perm {distance : Double} (h : SmallestDistance candidates distance)
    (hperm : order.Perm candidates) : SmallestDistance order distance where
  mem := (hperm.map _).mem_iff.2 h.mem
  le c hc := h.le c (hperm.mem_iff.1 hc)

theorem IsWinner.of_perm (h : IsWinner includeDistance competes candidates winner)
    (hperm : order.Perm candidates) : IsWinner includeDistance competes order winner where
  mem := hperm.mem_iff.2 h.mem
  qualified := h.qualified
  dominates c hc := h.dominates c (hperm.mem_iff.1 hc)
  heaviest c hc := h.heaviest c (hperm.mem_iff.1 hc)

theorem IsWinner.unique (h : IsWinner includeDistance competes candidates winner)
    (hother : IsWinner includeDistance competes candidates other) : winner = other := by
  by_contra hne
  have hlt := h.dominates other hother.mem hother.qualified (Ne.symm hne)
  exact hlt.not_gt (hother.dominates winner h.mem h.qualified hne)

theorem SmallestDistance.toF64_eq {a b : Double} (ha : SmallestDistance candidates a)
    (hb : SmallestDistance candidates b) : a.toF64 = b.toF64 := by
  obtain ⟨c, hc, rfl⟩ := List.mem_map.1 ha.mem
  obtain ⟨d, hd, rfl⟩ := List.mem_map.1 hb.mem
  exact F64.le_antisymm (ha.le d hd) (hb.le c hc)

/-- The first minimum of the competing candidates, with its position. -/
theorem minBy_zipIdx (includeDistance : Bool) (h : Rankable candidates) (p : ScoredCandidate → Bool)
    (hp : ∃ c ∈ candidates, p c = true) :
    ∃ winner i, minBy (fun a b : ScoredCandidate × ℕ => vectorDominanceOrder a.1 b.1 includeDistance)
        (candidates.zipIdx.filter fun c => p c.1) = some (winner, i) ∧
      candidates[i]? = some winner ∧
      IsWinner includeDistance (fun c => p c = true) candidates winner := by
  have hmem : ∀ c ∈ candidates, p c = true →
      ∃ i, (c, i) ∈ candidates.zipIdx.filter fun c => p c.1 := by
    intro c hc hpc
    obtain ⟨i, hi⟩ := List.mem_iff_getElem?.1 hc
    exact ⟨i, List.mem_filter.2 ⟨List.mk_mem_zipIdx_iff_getElem?.2 hi, hpc⟩⟩
  cases hmin : minBy (fun a b : ScoredCandidate × ℕ =>
      vectorDominanceOrder a.1 b.1 includeDistance) (candidates.zipIdx.filter fun c => p c.1) with
  | none =>
    obtain ⟨c, hc, hpc⟩ := hp
    obtain ⟨i, hi⟩ := hmem c hc hpc
    rw [minBy_eq_none_iff.1 hmin] at hi
    exact absurd hi List.not_mem_nil
  | some best =>
    obtain ⟨winner, i⟩ := best
    have hcmp : ∀ a b : ScoredCandidate × ℕ, vectorDominanceOrder a.1 b.1 includeDistance = .gt ↔
        toDual (b.1.dominance includeDistance) < toDual (a.1.dominance includeDistance) :=
      fun a b => vectorDominanceOrder_eq_gt_iff includeDistance a.1 b.1
    obtain ⟨hbest, hle⟩ := minBy_eq_some hcmp hmin
    obtain ⟨hzip, hpw⟩ := List.mem_filter.1 hbest
    have hget := List.mk_mem_zipIdx_iff_getElem?.1 hzip
    have hwinner : winner ∈ candidates := List.mem_of_getElem? hget
    have hrank : ∀ c ∈ candidates, p c = true →
        c.dominance includeDistance ≤ winner.dominance includeDistance := by
      intro c hc hpc
      obtain ⟨j, hj⟩ := hmem c hc hpc
      exact toDual_le_toDual.1 (hle (c, j) hj)
    refine ⟨winner, i, rfl, hget, hwinner, hpw, ?_, ?_⟩
    · intro c hc hpc hne
      refine lt_of_le_of_ne (hrank c hc hpc) ?_
      intro heq
      exact hne (List.inj_on_of_nodup_map h.nodup hc hwinner
        (ScoredCandidate.id_eq_of_dominance_eq heq))
    · intro c hc hpc
      exact F32.le_of_totalKey_le (h.weight c hc) (h.weight winner hwinner)
        (ScoredCandidate.weight_le_of_dominance_le (hrank c hc hpc))

end

namespace ConfiguredVectorCandidateRanker

variable {candidates : List ScoredCandidate}

/-- The candidate at the position that the ranker returns. -/
def choice (ranker : ConfiguredVectorCandidateRanker) (candidates : List ScoredCandidate) :
    Option ScoredCandidate := do
  let i ← ranker.rank candidates
  candidates[i]?

theorem choice_nil (ranker : ConfiguredVectorCandidateRanker) : ranker.choice [] = none := by
  obtain ⟨strategy, tolerance⟩ := ranker
  cases strategy <;> rfl

theorem mem_of_choice {ranker : ConfiguredVectorCandidateRanker} {winner : ScoredCandidate}
    (h : ranker.choice candidates = some winner) : winner ∈ candidates := by
  obtain ⟨i, -, hget⟩ := Option.bind_eq_some_iff.1 h
  exact List.mem_of_getElem? hget

/-- What the ranker is to choose. -/
def Chooses (ranker : ConfiguredVectorCandidateRanker) (candidates : List ScoredCandidate)
    (winner : ScoredCandidate) : Prop :=
  match ranker.strategy with
  | .distanceFirst => ∃ smallest, SmallestDistance candidates smallest ∧
    IsWinner false (WithinTolerance ranker.distanceToleranceM smallest) candidates winner
  | .weightFirst => IsWinner true (fun _ => True) candidates winner

/-- The minimum by `total_cmp` is a smallest distance. -/
theorem exists_minimum (h : Rankable candidates) :
    ∃ minimum, minBy Double.totalCmp (candidates.map (·.distanceM)) = some minimum ∧
      SmallestDistance candidates minimum := by
  cases hmin : minBy Double.totalCmp (candidates.map (·.distanceM)) with
  | none =>
    rw [minBy_eq_none_iff, List.map_eq_nil_iff] at hmin
    exact absurd hmin h.nonempty
  | some minimum =>
    have hcmp : ∀ a b : Double, a.totalCmp b = .gt ↔ b.totalKey < a.totalKey :=
      fun a b => compare_gt_iff_gt
    obtain ⟨hmem, hle⟩ := minBy_eq_some hcmp hmin
    obtain ⟨nearest, hnearest, rfl⟩ := List.mem_map.1 hmem
    refine ⟨_, rfl, hmem, ?_⟩
    intro c hc
    exact Double.toF64_le_of_totalKey_le (h.distance nearest hnearest) (h.distance c hc)
      (hle _ (List.mem_map_of_mem hc))

theorem within_smallest (h : Rankable candidates) (tolerance : DistanceTolerance) {distance : Double}
    (hsmallest : SmallestDistance candidates distance) :
    ∃ c ∈ candidates, WithinTolerance tolerance distance c := by
  obtain ⟨c, hc, rfl⟩ := List.mem_map.1 hsmallest.mem
  refine ⟨c, hc, ?_⟩
  obtain ⟨metres, hfinite, hnonneg⟩ := tolerance
  cases metres with
  | finite t => exact Double.le_add (h.distance c hc) (of_decide_eq_true hnonneg)
  | nan => cases hfinite
  | infinity negative => cases hfinite

/-- On rankable candidates the ranker returns a position, and the candidate there. -/
theorem rank_chooses (ranker : ConfiguredVectorCandidateRanker) (h : Rankable candidates) :
    ∃ winner, ranker.choice candidates = some winner ∧ ranker.Chooses candidates winner := by
  obtain ⟨strategy, tolerance⟩ := ranker
  cases strategy with
  | distanceFirst =>
    obtain ⟨minimum, hmin, hsmallest⟩ := exists_minimum h
    obtain ⟨winner, i, hbest, hget, hwinner⟩ := minBy_zipIdx false h
      (fun c => c.distanceM.toF64.le (minimum.toF64.add tolerance.metres))
      (within_smallest h tolerance hsmallest)
    refine ⟨winner, ?_, minimum, hsmallest, hwinner⟩
    simp only [choice, rank, hmin, hbest, Option.bind_eq_bind, Option.bind_some, Option.map_some,
      hget]
  | weightFirst =>
    obtain ⟨c, hc⟩ := List.exists_mem_of_ne_nil _ h.nonempty
    obtain ⟨winner, i, hbest, hget, hwinner⟩ := minBy_zipIdx true h
      (fun _ => true) ⟨c, hc, rfl⟩
    rw [List.filter_true] at hbest
    refine ⟨winner, ?_, hwinner.mem, trivial, fun c hc _ => hwinner.dominates c hc rfl,
      fun c hc _ => hwinner.heaviest c hc rfl⟩
    simp only [choice, rank, hbest, Option.bind_eq_bind, Option.bind_some, Option.map_some, hget]

theorem Chooses.of_perm {ranker : ConfiguredVectorCandidateRanker} {order : List ScoredCandidate}
    {winner : ScoredCandidate} (h : ranker.Chooses candidates winner)
    (hperm : order.Perm candidates) : ranker.Chooses order winner := by
  obtain ⟨strategy, tolerance⟩ := ranker
  cases strategy with
  | distanceFirst =>
    obtain ⟨smallest, hsmallest, hwinner⟩ := h
    exact ⟨smallest, hsmallest.of_perm hperm, hwinner.of_perm hperm⟩
  | weightFirst => exact IsWinner.of_perm h hperm

theorem Chooses.unique {ranker : ConfiguredVectorCandidateRanker} {winner other : ScoredCandidate}
    (h : ranker.Chooses candidates winner) (hother : ranker.Chooses candidates other) :
    winner = other := by
  obtain ⟨strategy, tolerance⟩ := ranker
  cases strategy with
  | distanceFirst =>
    obtain ⟨smallest, hsmallest, hwinner⟩ := h
    obtain ⟨smallest', hsmallest', hwinner'⟩ := hother
    have hband : WithinTolerance tolerance smallest' = WithinTolerance tolerance smallest := by
      funext c
      unfold WithinTolerance
      rw [hsmallest'.toF64_eq hsmallest]
    exact hwinner.unique (hband ▸ hwinner')
  | weightFirst => exact IsWinner.unique h hother

/-- The choice depends on the set of candidates alone. -/
theorem choice_of_perm (ranker : ConfiguredVectorCandidateRanker) {order : List ScoredCandidate}
    (h : Rankable candidates) (hperm : order.Perm candidates) :
    ranker.choice order = ranker.choice candidates := by
  obtain ⟨winner, hchoice, hwinner⟩ := ranker.rank_chooses h
  obtain ⟨other, hother, hchooses⟩ := ranker.rank_chooses (h.of_perm hperm)
  rw [hchoice, hother, hwinner.unique (hchooses.of_perm hperm.symm)]

end ConfiguredVectorCandidateRanker

/-! ## Scores -/

/-- What a score rests on: the decoder of `geozero`, `closest_point` of `geo`, which gives nothing when it
is indeterminate, and the cosine and the square root of `f64`. -/
structure SnapGeo (Geometry : Type) where
  toGeo : List UInt8 → Except String Geometry
  closestPoint : Geometry → GeoCoord → Option GeoCoord
  cos : F64 → F64
  sqrt : F64 → Double

section

variable {Geometry : Type} (geo : SnapGeo Geometry) (graph : DrainageGraph) (outlet : GeoCoord)
  (selectedLevel : Option Level) (config : ResolverConfig)

/-- `decode_wkb`. -/
def decodeWkb (wkb : List UInt8) : Except WkbDecodeError Geometry :=
  (geo.toGeo wkb).mapError .decodeFailed

/-- The nearest point of a geometry with its distance. -/
def snapNearestPoint (geom : Geometry) : Option (Double × GeoCoord) :=
  (geo.closestPoint geom outlet).map fun nearest =>
    (localMetreDistance geo.cos geo.sqrt outlet nearest, nearest)

/-- The candidates scored so far and the geometries that failed. -/
structure SnapScores where
  scored : List ScoredCandidate
  decodeFailures : ℕ
  deriving DecidableEq

/-- The body of the scoring loop. A distance that is `NaN` passes the radius. -/
def scoreTarget (scores : SnapScores) (target : SnapTarget) : SnapScores :=
  if selectedLevel.any fun level => levelOf graph target.unitId ≠ some level then scores
  else
    match decodeWkb geo target.geometry with
    | .error _ => { scores with decodeFailures := scores.decodeFailures + 1 }
    | .ok geom =>
      match snapNearestPoint geo outlet geom with
      | none => { scores with decodeFailures := scores.decodeFailures + 1 }
      | some (distanceM, nearestCoord) =>
        if config.searchRadius.metres.lt distanceM.toF64 then scores
        else { scores with scored := scores.scored ++ [⟨target, distanceM, nearestCoord⟩] }

/-- The ranker of a config. -/
def ResolverConfig.ranker : ConfiguredVectorCandidateRanker :=
  ⟨config.snapStrategy, config.distanceToleranceM⟩

/-- The result for a winner among a number of targets. -/
def vectorResolution (total : ℕ) (winner : ScoredCandidate) : OutletResolution :=
  .vectorPoint winner.target.unitId outlet winner.nearestCoord {
    strategy := config.snapStrategy
    snapId := winner.target.id
    distanceM := winner.distanceM
    weight := winner.target.weight
    mainstemStatus := winner.target.stemRole
    candidatesConsidered := total }

/-- `resolve_via_snap_store`. -/
def resolveViaSnapStore (reader : SnapReader) (store : SnapStore) :
    Except OutletResolutionError OutletResolution := do
  let bbox ← searchBbox geo.cos reader.boundingBox outlet config.searchRadius.metres
  let candidates ← (store.queryByBbox reader bbox).mapError .datasetRead
  if candidates = [] then
    .error (.noSnapCandidates outlet config.searchRadius)
  else
    let scores := candidates.foldl (scoreTarget geo graph outlet selectedLevel config) ⟨[], 0⟩
    if scores.scored = [] then
      if 0 < scores.decodeFailures ∧ scores.decodeFailures = candidates.length then
        .error (.allGeometriesCorrupt outlet scores.decodeFailures)
      else .error (.noSnapCandidates outlet config.searchRadius)
    else
      match config.ranker.choice scores.scored with
      | none => .error (internalResolverInconsistency
          "vector ranker called with no scored candidates")
      | some winner => .ok (vectorResolution outlet config candidates.length winner)

/-! ## Qualified candidates -/

/-- A target scores a candidate that is at the level and not beyond the radius. -/
structure Qualifies (c : ScoredCandidate) : Prop where
  level : ∀ level, selectedLevel = some level → levelOf graph c.target.unitId = some level
  score : ∃ geom, decodeWkb geo c.target.geometry = .ok geom ∧
    snapNearestPoint geo outlet geom = some (c.distanceM, c.nearestCoord)
  radius : config.searchRadius.metres.lt c.distanceM.toF64 = false

/-- The candidate that the loop adds for a target. -/
def qualifiedCandidate (target : SnapTarget) : Option ScoredCandidate :=
  (scoreTarget geo graph outlet selectedLevel config ⟨[], 0⟩ target).scored.head?

variable {geo graph outlet selectedLevel config}

theorem any_level_iff {unitId : UnitId} :
    (selectedLevel.any fun level => levelOf graph unitId ≠ some level) = true ↔
      ¬∀ level, selectedLevel = some level → levelOf graph unitId = some level := by
  cases selectedLevel <;> simp

theorem scored_scoreTarget (scores : SnapScores) (target : SnapTarget) :
    (scoreTarget geo graph outlet selectedLevel config scores target).scored =
      scores.scored ++ (qualifiedCandidate geo graph outlet selectedLevel config target).toList := by
  unfold qualifiedCandidate scoreTarget
  split
  · simp
  · split
    · simp
    · split
      · simp
      · split <;> simp

theorem scored_foldl (targets : List SnapTarget) (scores : SnapScores) :
    (targets.foldl (scoreTarget geo graph outlet selectedLevel config) scores).scored =
      scores.scored ++
        targets.filterMap (qualifiedCandidate geo graph outlet selectedLevel config) := by
  induction targets generalizing scores with
  | nil => simp
  | cons target targets ih =>
    rw [List.foldl_cons, ih, scored_scoreTarget, List.append_assoc]
    cases hone : qualifiedCandidate geo graph outlet selectedLevel config target with
    | none => rw [List.filterMap_cons_none hone, Option.toList_none, List.nil_append]
    | some c => rw [List.filterMap_cons_some hone, Option.toList_some, List.singleton_append]

theorem qualifiedCandidate_eq_some_iff {target : SnapTarget} {c : ScoredCandidate} :
    qualifiedCandidate geo graph outlet selectedLevel config target = some c ↔
      c.target = target ∧ Qualifies geo graph outlet selectedLevel config c := by
  unfold qualifiedCandidate scoreTarget
  constructor
  · intro h
    split at h
    · cases h
    · rename_i hlevel
      rw [any_level_iff, not_not] at hlevel
      split at h
      · cases h
      · rename_i geom hgeom
        split at h
        · cases h
        · rename_i distanceM nearestCoord hnearest
          split at h
          · cases h
          · rename_i hradius
            cases h
            exact ⟨rfl, hlevel, ⟨geom, hgeom, hnearest⟩, Bool.eq_false_iff.2 hradius⟩
  · rintro ⟨rfl, hlevel, ⟨geom, hgeom, hnearest⟩, hradius⟩
    rw [if_neg (fun hany => any_level_iff.1 hany hlevel), hgeom]
    simp only [hnearest, hradius]
    rfl

variable {reader : SnapReader} {store : SnapStore} {bbox : UnitBox} {targets : List SnapTarget}

/-- A resolution is the choice among the qualified candidates. -/
theorem resolveViaSnapStore_of_query
    (hbbox : searchBbox geo.cos reader.boundingBox outlet config.searchRadius.metres = .ok bbox)
    (hquery : store.queryByBbox reader bbox = .ok targets) {resolution : OutletResolution} :
    resolveViaSnapStore geo graph outlet selectedLevel config reader store = .ok resolution ↔
      ∃ winner, config.ranker.choice (targets.filterMap
          (qualifiedCandidate geo graph outlet selectedLevel config)) = some winner ∧
        vectorResolution outlet config targets.length winner = resolution := by
  have hscored : (targets.foldl (scoreTarget geo graph outlet selectedLevel config) ⟨[], 0⟩).scored =
      targets.filterMap (qualifiedCandidate geo graph outlet selectedLevel config) :=
    (scored_foldl targets ⟨[], 0⟩).trans (List.nil_append _)
  have hnil := config.ranker.choice_nil
  simp only [resolveViaSnapStore, hbbox, hquery, ok_bind, Except.mapError, hscored]
  by_cases htargets : targets = []
  · simp [htargets, hnil]
  · rw [if_neg htargets]
    by_cases hempty : targets.filterMap
        (qualifiedCandidate geo graph outlet selectedLevel config) = []
    · rw [if_pos hempty, hempty, hnil]
      split <;> simp
    · rw [if_neg hempty]
      cases config.ranker.choice (targets.filterMap
          (qualifiedCandidate geo graph outlet selectedLevel config)) <;> simp

/-- Every resolution has a candidate that qualifies behind it. -/
theorem qualifies_of_resolveViaSnapStore {resolution : OutletResolution}
    (h : resolveViaSnapStore geo graph outlet selectedLevel config reader store = .ok resolution) :
    ∃ bbox targets winner,
      searchBbox geo.cos reader.boundingBox outlet config.searchRadius.metres = .ok bbox ∧
        store.queryByBbox reader bbox = .ok targets ∧ winner.target ∈ targets ∧
        Qualifies geo graph outlet selectedLevel config winner ∧
        resolution = vectorResolution outlet config targets.length winner := by
  have hsteps := h
  unfold resolveViaSnapStore at hsteps
  obtain ⟨bbox, hbbox, hsteps⟩ := bind_eq_ok hsteps
  obtain ⟨targets, hmapped, -⟩ := bind_eq_ok hsteps
  have hquery := mapError_eq_ok_iff.1 hmapped
  obtain ⟨winner, hchoice, rfl⟩ := (resolveViaSnapStore_of_query hbbox hquery).1 h
  obtain ⟨target, htarget, hqualified⟩ :=
    List.mem_filterMap.1 (ConfiguredVectorCandidateRanker.mem_of_choice hchoice)
  obtain ⟨rfl, hqualifies⟩ := qualifiedCandidate_eq_some_iff.1 hqualified
  exact ⟨bbox, targets, winner, hbbox, hquery, htarget, hqualifies, rfl⟩

theorem Qualifies.within_radius {c : ScoredCandidate}
    (h : Qualifies geo graph outlet selectedLevel config c) (hnan : c.distanceM.isNan = false) :
    c.distanceM.toF64.le config.searchRadius.metres = true :=
  F64.le_of_lt_eq_false (F64.isNan_ofFormat (not_lt.1 (of_decide_eq_false hnan)))
    (F64.isNan_of_isFinite config.searchRadius.valid.1) h.radius

/-- The qualified candidates can be ranked when there is one and none has a `NaN`. -/
theorem rankable_qualified (hids : (targets.map (·.id)).Nodup)
    (hnan : ∀ c : ScoredCandidate, c.target ∈ targets →
      Qualifies geo graph outlet selectedLevel config c →
        c.distanceM.isNan = false ∧ c.target.weight.isNan = false)
    (hsome : ∃ c : ScoredCandidate, c.target ∈ targets ∧
      Qualifies geo graph outlet selectedLevel config c) :
    Rankable (targets.filterMap (qualifiedCandidate geo graph outlet selectedLevel config)) := by
  have hmem : ∀ c ∈ targets.filterMap (qualifiedCandidate geo graph outlet selectedLevel config),
      c.target ∈ targets ∧ Qualifies geo graph outlet selectedLevel config c := by
    intro c hc
    obtain ⟨target, htarget, hqualified⟩ := List.mem_filterMap.1 hc
    obtain ⟨rfl, hqualifies⟩ := qualifiedCandidate_eq_some_iff.1 hqualified
    exact ⟨htarget, hqualifies⟩
  refine ⟨?_, ?_, ?_, ?_⟩
  · obtain ⟨c, hc, hqualifies⟩ := hsome
    exact List.ne_nil_of_mem (List.mem_filterMap.2
      ⟨c.target, hc, qualifiedCandidate_eq_some_iff.2 ⟨rfl, hqualifies⟩⟩)
  · refine List.pairwise_map.2 ((List.pairwise_map.1 hids).filterMap _ ?_)
    intro a a' hne c hc c' hc'
    obtain ⟨rfl, -⟩ := qualifiedCandidate_eq_some_iff.1 hc
    obtain ⟨rfl, -⟩ := qualifiedCandidate_eq_some_iff.1 hc'
    exact hne
  · exact fun c hc => (hnan c (hmem c hc).1 (hmem c hc).2).1
  · exact fun c hc => (hnan c (hmem c hc).1 (hmem c hc).2).2

/-- Where a target qualifies a unit is returned: that of the choice among those that do. -/
theorem resolveViaSnapStore_returns
    (hbbox : searchBbox geo.cos reader.boundingBox outlet config.searchRadius.metres = .ok bbox)
    (hquery : store.queryByBbox reader bbox = .ok targets) (hids : (targets.map (·.id)).Nodup)
    (hnan : ∀ c : ScoredCandidate, c.target ∈ targets →
      Qualifies geo graph outlet selectedLevel config c →
        c.distanceM.isNan = false ∧ c.target.weight.isNan = false)
    (hsome : ∃ c : ScoredCandidate, c.target ∈ targets ∧
      Qualifies geo graph outlet selectedLevel config c) :
    ∃ resolution,
      resolveViaSnapStore geo graph outlet selectedLevel config reader store = .ok resolution := by
  obtain ⟨winner, hchoice, -⟩ := config.ranker.rank_chooses (rankable_qualified hids hnan hsome)
  exact ⟨_, (resolveViaSnapStore_of_query hbbox hquery).2 ⟨winner, hchoice, rfl⟩⟩

end

/-! ## The ranking -/

/-- **Vector ranking.** The choice is the winner among the competing candidates, whatever their order.
A resolution at a level is a unit of the level and has a candidate within the radius; there is one when
a target qualifies. -/
theorem vectorRanking :
    (∀ (ranker : ConfiguredVectorCandidateRanker) (candidates : List ScoredCandidate),
      Rankable candidates → ∃ winner, ranker.Chooses candidates winner ∧
        ∀ order : List ScoredCandidate, order.Perm candidates → ranker.choice order = some winner) ∧
    ∀ (Geometry : Type) (geo : SnapGeo Geometry) (graph : DrainageGraph) (outlet : GeoCoord)
      (level : Level) (config : ResolverConfig) (reader : SnapReader) (store : SnapStore)
      (bbox : UnitBox) (targets : List SnapTarget),
      searchBbox geo.cos reader.boundingBox outlet config.searchRadius.metres = .ok bbox →
      store.queryByBbox reader bbox = .ok targets →
      (∀ resolution,
        resolveViaSnapStore geo graph outlet (some level) config reader store = .ok resolution →
        levelOf graph resolution.unitId = some level ∧
        ∃ winner : ScoredCandidate, winner.target ∈ targets ∧
          resolution = vectorResolution outlet config targets.length winner ∧
          Qualifies geo graph outlet (some level) config winner ∧
          (winner.distanceM.isNan = false →
            winner.distanceM.toF64.le config.searchRadius.metres = true)) ∧
      ((targets.map (·.id)).Nodup →
        (∀ c : ScoredCandidate, c.target ∈ targets →
          Qualifies geo graph outlet (some level) config c →
            c.distanceM.isNan = false ∧ c.target.weight.isNan = false) →
        (∃ c : ScoredCandidate, c.target ∈ targets ∧
          Qualifies geo graph outlet (some level) config c) →
        ∃ resolution,
          resolveViaSnapStore geo graph outlet (some level) config reader store =
            .ok resolution) := by
  refine ⟨?_, ?_⟩
  · intro ranker candidates h
    obtain ⟨winner, hchoice, hwinner⟩ := ranker.rank_chooses h
    refine ⟨winner, hwinner, ?_⟩
    intro order hperm
    rw [ranker.choice_of_perm h hperm, hchoice]
  · intro Geometry geo graph outlet level config reader store bbox targets hbbox hquery
    refine ⟨?_, resolveViaSnapStore_returns hbbox hquery⟩
    intro resolution h
    obtain ⟨box, found, winner, hbox, hfound, hmem, hqualifies, rfl⟩ :=
      qualifies_of_resolveViaSnapStore h
    obtain rfl := Except.ok.inj (hbbox.symm.trans hbox)
    obtain rfl := Except.ok.inj (hquery.symm.trans hfound)
    exact ⟨hqualifies.level level rfl, winner, hmem, rfl, hqualifies, hqualifies.within_radius⟩

/-- The two points, each its own closest point. The cosine is that of one degree. -/
def pointGeo : SnapGeo SnapGeometry where
  toGeo := pointReader.toGeo
  closestPoint
    | .point ⟨.finite 1, .finite 1⟩, _ => some ⟨0x3FF0000000000000, 0x3FF0000000000000⟩
    | .point ⟨.finite 2, .finite 2⟩, _ => some ⟨0x4000000000000000, 0x4000000000000000⟩
    | _, _ => none
  cos _ := .ofBits 0x3FEFFEC097F5AF8A
  sqrt x := if x = .finite 0 then ⟨false, 0⟩ else ⟨false, 0x7FF8000000000000⟩

def pointGraph : DrainageGraph := ⟨[⟨7, 2, []⟩], by decide⟩

def pointOutlet : GeoCoord := ⟨0x3FF0000000000000, 0x3FF0000000000000⟩

/-- A thousand metres around the outlet. -/
def pointBox : UnitBox :=
  ⟨⟨false, 0x3F7DB331⟩, ⟨false, 0x3F7DAF21⟩, ⟨false, 0x3F812667⟩, ⟨false, 0x3F812870⟩⟩

def nearTarget : SnapTarget := pointTarget 1 one32 wkbOne

/-- The target at a distance, under an id. -/
def pointCandidate (id : ℤ) (distanceM : Double) : ScoredCandidate :=
  ⟨{ nearTarget with id }, distanceM, pointOutlet⟩

theorem rankable_points :
    Rankable [pointCandidate 2 ⟨false, 0⟩, pointCandidate 1 ⟨false, 0x4000000000000000⟩] :=
  ⟨by decide, by decide, by decide +kernel, by decide +kernel⟩

/-- Two candidates within the tolerance of one metre, and one beyond it. -/
def bandCandidates : List ScoredCandidate :=
  [pointCandidate 3 ⟨false, 0⟩, pointCandidate 2 ⟨false, 0x3FF0000000000000⟩,
    pointCandidate 1 ⟨false, 0x4000000000000000⟩]

theorem rankable_band : Rankable bandCandidates :=
  ⟨by decide, by decide, by decide +kernel, by decide +kernel⟩

def distanceFirst : ConfiguredVectorCandidateRanker :=
  (ResolverConfig.new.withSnapStrategy .distanceFirst).ranker

theorem qualifies_nearTarget {c : ScoredCandidate} (hc : c.target ∈ [nearTarget])
    (h : Qualifies pointGeo pointGraph pointOutlet (some 2) .new c) : c = pointCandidate 1 ⟨false, 0⟩ := by
  obtain ⟨target, distanceM, nearestCoord⟩ := c
  obtain rfl : target = nearTarget := List.mem_singleton.1 hc
  obtain ⟨geom, hgeom, hnearest⟩ := h.score
  have hpoint : decodeWkb pointGeo nearTarget.geometry = .ok (.point ⟨.finite 1, .finite 1⟩) := by
    decide +kernel
  obtain rfl := Except.ok.inj (hpoint.symm.trans hgeom)
  have hscore : snapNearestPoint pointGeo pointOutlet (.point ⟨.finite 1, .finite 1⟩) =
      some (⟨false, 0⟩, pointOutlet) := by decide +kernel
  cases hscore.symm.trans hnearest
  rfl

/-- Equal weights, with the nearer point first; the smaller id within the tolerance; and the first point
resolved at the level of its unit. -/
theorem vectorRanking_points :
    (∃ winner, ResolverConfig.new.ranker.Chooses
        [pointCandidate 2 ⟨false, 0⟩, pointCandidate 1 ⟨false, 0x4000000000000000⟩] winner ∧
      ResolverConfig.new.ranker.choice
        [pointCandidate 1 ⟨false, 0x4000000000000000⟩, pointCandidate 2 ⟨false, 0⟩] = some winner) ∧
    (distanceFirst.Chooses bandCandidates (pointCandidate 2 ⟨false, 0x3FF0000000000000⟩) ∧
      distanceFirst.choice bandCandidates.reverse =
        some (pointCandidate 2 ⟨false, 0x3FF0000000000000⟩)) ∧
    ∃ resolution, resolveViaSnapStore pointGeo pointGraph pointOutlet (some 2) .new pointReader
        pointStore = .ok resolution ∧ levelOf pointGraph resolution.unitId = some 2 := by
  refine ⟨?_, ?_, ?_⟩
  · obtain ⟨winner, hwinner, horder⟩ := vectorRanking.1 ResolverConfig.new.ranker _ rankable_points
    exact ⟨winner, hwinner, horder _ (List.Perm.swap ..)⟩
  · obtain ⟨winner, hwinner, horder⟩ := vectorRanking.1 distanceFirst _ rankable_band
    have hchoice : distanceFirst.choice bandCandidates =
        some (pointCandidate 2 ⟨false, 0x3FF0000000000000⟩) := by decide +kernel
    obtain rfl := Option.some.inj ((horder _ (List.Perm.refl _)).symm.trans hchoice)
    exact ⟨hwinner, horder _ (List.reverse_perm _)⟩
  · obtain ⟨hlevel, hreturns⟩ := vectorRanking.2 _ pointGeo pointGraph pointOutlet 2 .new pointReader
      pointStore pointBox [nearTarget] (by decide +kernel) (by decide +kernel)
    have hnear : qualifiedCandidate pointGeo pointGraph pointOutlet (some 2) .new nearTarget =
        some (pointCandidate 1 ⟨false, 0⟩) := by decide +kernel
    obtain ⟨resolution, hresolution⟩ := hreturns (by decide)
      (fun c hc h => qualifies_nearTarget hc h ▸ ⟨by decide +kernel, by decide +kernel⟩)
      ⟨pointCandidate 1 ⟨false, 0⟩, by decide,
        (qualifiedCandidate_eq_some_iff.1 hnear).2⟩
    exact ⟨resolution, hresolution, (hlevel resolution hresolution).1⟩

end Pourpoint
