import Pourpoint.Catchment.Queries
import Pourpoint.Resolver.Outlet
import Mathlib.Data.Prod.Lex

/-!
# Resolution by containment

`resolve_via_pip` queries the catchments around the outlet and keeps the units at the selected level
whose polygon contains the outlet, or touches it when none contains it. Several such hits are sorted: the
larger upstream area first and a missing one last, then the larger area, then the lower id. The order is
linear as ids differ, so the winner is the same in whatever order the units come.

Why the winner won is worked out from the first two of the sorted hits, but not with the comparison of
the sort: upstream areas are compared with the `!=` of floats. The reported reason is the criterion on
which the two differ unless their upstream areas are zeros of opposite sign, which the sort tells apart
and `!=` does not, or one `NaN` (`pip_resolves_iff`).
-/

namespace Pourpoint

open Library OrderDual

/-! ## The order of hits -/

/-- Upstream areas, the larger first and a missing one last. -/
def upstreamAreaOrder : Option F32 → Option F32 → Ordering
  | some x, some y => y.totalCmp x
  | some _, none => .lt
  | none, some _ => .gt
  | none, none => .eq

/-- The comparison of the sort. -/
def pipOrder (a b : CatchmentUnit) : Ordering :=
  (upstreamAreaOrder a.upstreamArea b.upstreamArea).then <|
    (b.area.totalCmp a.area).then (compare a.id b.id)

/-- The comparison is not `Greater`. -/
def PipBefore (a b : CatchmentUnit) : Prop := (pipOrder a b).isLE = true

instance : DecidableRel PipBefore := fun a b => inferInstanceAs (Decidable ((pipOrder a b).isLE = true))

/-- The place of an upstream area. -/
def upstreamKey (unit : CatchmentUnit) : WithBot ℤ := unit.upstreamArea.map F32.totalKey

/-- The declared order, the first unit the least. -/
def precedence (unit : CatchmentUnit) : (WithBot ℤ)ᵒᵈ ×ₗ ℤᵒᵈ ×ₗ ℤ :=
  toLex (toDual (upstreamKey unit), toLex (toDual unit.area.totalKey, unit.id))

theorem upstreamAreaOrder_eq (a b : CatchmentUnit) :
    upstreamAreaOrder a.upstreamArea b.upstreamArea = compare (upstreamKey b) (upstreamKey a) := by
  unfold upstreamKey
  cases a.upstreamArea with
  | none =>
    cases b.upstreamArea with
    | none => exact (compare_eq_iff_eq.2 rfl).symm
    | some y => exact (compare_gt_iff_gt.2 (WithBot.bot_lt_coe _)).symm
  | some x =>
    cases b.upstreamArea with
    | none => exact (compare_lt_iff_lt.2 (WithBot.bot_lt_coe _)).symm
    | some y =>
      show compare y.totalKey x.totalKey = compare (y.totalKey : WithBot ℤ) (x.totalKey : WithBot ℤ)
      rcases lt_trichotomy y.totalKey x.totalKey with h | h | h
      · rw [compare_lt_iff_lt.2 h, compare_lt_iff_lt.2 (WithBot.coe_lt_coe.2 h)]
      · rw [compare_eq_iff_eq.2 h, compare_eq_iff_eq.2 (congrArg _ h)]
      · rw [compare_gt_iff_gt.2 h, compare_gt_iff_gt.2 (WithBot.coe_lt_coe.2 h)]

theorem pipBefore_iff {a b : CatchmentUnit} : PipBefore a b ↔ precedence a ≤ precedence b := by
  rw [← not_lt, PipBefore, ← Ordering.ne_gt_iff_isLE, not_iff_not, pipOrder, upstreamAreaOrder_eq]
  simp only [F32.totalCmp, Ordering.then_eq_gt, compare_gt_iff_gt, compare_eq_iff_eq, precedence,
    Prod.Lex.toLex_lt_toLex, toDual_lt_toDual, toDual_inj]

theorem precedence_injOn {units : List CatchmentUnit} (hids : (units.map (·.id)).Nodup)
    {a b : CatchmentUnit} (ha : a ∈ units) (hb : b ∈ units) (h : precedence a = precedence b) :
    a = b := by
  simp only [precedence, toLex_inj, Prod.mk.injEq] at h
  exact List.inj_on_of_nodup_map hids ha hb h.2.2

instance : Std.Total PipBefore where
  total a b := by
    rw [pipBefore_iff, pipBefore_iff]
    exact le_total _ _

instance : IsTrans CatchmentUnit PipBefore where
  trans a b c := by
    rw [pipBefore_iff, pipBefore_iff, pipBefore_iff]
    exact le_trans

/-! ## The reported reason -/

/-- `==` of optional floats. -/
def optionEq : Option F32 → Option F32 → Bool
  | some x, some y => x.eq y
  | none, none => true
  | _, _ => false

/-- The rule that is said to break the tie. -/
def pipTieBreak (first second : CatchmentUnit) : PipTieBreak :=
  if !optionEq first.upstreamArea second.upstreamArea then .highestUpstreamArea
  else if first.area.totalCmp second.area ≠ .eq then .highestLocalArea
  else .lowestUnitId

/-! ## Resolution -/

/-- What containment rests on: the decoder of `geozero`, the tests of `geo` on multi-polygons and the
cosine of `f64`. -/
structure PipGeo (Polygon : Type) where
  toGeo : List UInt8 → Except String (GeoGeometry Polygon)
  contains : List Polygon → GeoCoord → Bool
  intersects : List Polygon → GeoCoord → Bool
  cos : F64 → F64

section

variable {Polygon : Type} (geo : PipGeo Polygon) (outlet : GeoCoord) (selectedLevel : Option Level)

/-- `decode_wkb_multi_polygon` of the geometry of a unit. -/
def decodedUnit (unit : CatchmentUnit) : Option (CatchmentUnit × List Polygon) :=
  (decodeWkbMultiPolygonBytes geo.toGeo unit.geometry).toOption.map (unit, ·)

/-- The units at the selected level, with their polygons. -/
def decodedUnits (candidates : List CatchmentUnit) : List (CatchmentUnit × List Polygon) :=
  let decodedAllLevels := candidates.filterMap (decodedUnit geo)
  match selectedLevel with
  | some level => decodedAllLevels.filter (·.1.level = level)
  | none => decodedAllLevels

/-- The two phases. -/
def pipHits (decoded : List (CatchmentUnit × List Polygon)) : List CatchmentUnit :=
  let hits := (decoded.filter fun unit => geo.contains unit.2 outlet).map (·.1)
  if hits = [] then (decoded.filter fun unit => geo.intersects unit.2 outlet).map (·.1) else hits

/-- The result for a winner among a number of decoded units. -/
def containmentResolution (considered : ℕ) (winner : CatchmentUnit) (tieBreak : Option PipTieBreak) :
    OutletResolution :=
  .unitContainment winner.id outlet ⟨considered, tieBreak⟩

/-- Steps 3 to 10 of `resolve_via_pip`. Sorting changes nothing for less than two hits. -/
def resolvePip (candidates : List CatchmentUnit) : Except OutletResolutionError OutletResolution :=
  if candidates = [] then .error (.outsideAllCatchments outlet)
  else
    let decodeFailures := (candidates.filter fun unit => (decodedUnit geo unit).isNone).length
    let decoded := decodedUnits geo selectedLevel candidates
    match (pipHits geo outlet decoded).insertionSort PipBefore with
    | [] =>
      if 0 < decodeFailures ∧ decodeFailures = candidates.length then
        .error (.allGeometriesCorrupt outlet decodeFailures)
      else .error (.outsideAllCatchments outlet)
    | [winner] => .ok (containmentResolution outlet decoded.length winner none)
    | winner :: second :: _ =>
      .ok (containmentResolution outlet decoded.length winner (some (pipTieBreak winner second)))

/-- `PIP_BUFFER_M`. -/
def pipBufferM : F64 := .finite 100

/-- `resolve_via_pip`, over the bbox query of the catchment store. -/
def resolveViaPip (boundingBox : F32 → F32 → F32 → F32 → Option String)
    (queryByBbox : UnitBox → Except SessionError (List CatchmentUnit)) :
    Except OutletResolutionError OutletResolution := do
  let bbox ← searchBbox geo.cos boundingBox outlet pipBufferM
  let candidates ← (queryByBbox bbox).mapError fun e => .datasetRead (.session e)
  resolvePip geo outlet selectedLevel candidates

end

/-! ## Hits -/

section

variable {Polygon : Type} (geo : PipGeo Polygon) (outlet : GeoCoord) (selectedLevel : Option Level)
  (candidates : List CatchmentUnit)

/-- A unit at the level whose polygons pass a test. -/
structure Passes (test : List Polygon → GeoCoord → Bool) (unit : CatchmentUnit) : Prop where
  mem : unit ∈ candidates
  level : ∀ level, selectedLevel = some level → unit.level = level
  test : ∃ polygons, decodeWkbMultiPolygonBytes geo.toGeo unit.geometry = .ok polygons ∧
    test polygons outlet = true

/-- The unit contains the outlet or, when none does, touches it. -/
def IsHit (unit : CatchmentUnit) : Prop :=
  Passes geo outlet selectedLevel candidates geo.contains unit ∨
    (¬∃ other, Passes geo outlet selectedLevel candidates geo.contains other) ∧
      Passes geo outlet selectedLevel candidates geo.intersects unit

variable {geo outlet selectedLevel candidates}

theorem mem_decodedUnits {unit : CatchmentUnit} {polygons : List Polygon} :
    (unit, polygons) ∈ decodedUnits geo selectedLevel candidates ↔ unit ∈ candidates ∧
      (∀ level, selectedLevel = some level → unit.level = level) ∧
      decodeWkbMultiPolygonBytes geo.toGeo unit.geometry = .ok polygons := by
  have hdecoded : (unit, polygons) ∈ candidates.filterMap (decodedUnit geo) ↔ unit ∈ candidates ∧
      decodeWkbMultiPolygonBytes geo.toGeo unit.geometry = .ok polygons := by
    rw [List.mem_filterMap]
    simp only [decodedUnit, Option.map_eq_some_iff, toOption_eq_some_iff, Prod.mk.injEq]
    constructor
    · rintro ⟨other, hmem, found, hfound, rfl, rfl⟩
      exact ⟨hmem, hfound⟩
    · rintro ⟨hmem, hfound⟩
      exact ⟨unit, hmem, polygons, hfound, rfl, rfl⟩
  unfold decodedUnits
  cases selectedLevel with
  | none => simpa using hdecoded
  | some level =>
    simp only [List.mem_filter, hdecoded, decide_eq_true_iff, Option.some.injEq, forall_eq']
    tauto

theorem mem_filter_decodedUnits {test : List Polygon → GeoCoord → Bool} {unit : CatchmentUnit} :
    unit ∈ ((decodedUnits geo selectedLevel candidates).filter fun unit => test unit.2 outlet).map
      (·.1) ↔ Passes geo outlet selectedLevel candidates test unit := by
  rw [List.mem_map]
  constructor
  · rintro ⟨⟨other, polygons⟩, hmem, rfl⟩
    obtain ⟨hdecoded, htest⟩ := List.mem_filter.1 hmem
    obtain ⟨hcandidate, hlevel, hpolygons⟩ := mem_decodedUnits.1 hdecoded
    exact ⟨hcandidate, hlevel, polygons, hpolygons, htest⟩
  · rintro ⟨hcandidate, hlevel, polygons, hpolygons, htest⟩
    exact ⟨(unit, polygons),
      List.mem_filter.2 ⟨mem_decodedUnits.2 ⟨hcandidate, hlevel, hpolygons⟩, htest⟩, rfl⟩

theorem mem_pipHits {unit : CatchmentUnit} :
    unit ∈ pipHits geo outlet (decodedUnits geo selectedLevel candidates) ↔
      IsHit geo outlet selectedLevel candidates unit := by
  unfold pipHits IsHit
  by_cases hnil : ((decodedUnits geo selectedLevel candidates).filter
      fun unit => geo.contains unit.2 outlet).map (·.1) = []
  · have hnone : ¬∃ other, Passes geo outlet selectedLevel candidates geo.contains other := by
      rintro ⟨other, hother⟩
      rw [← mem_filter_decodedUnits, hnil] at hother
      exact absurd hother List.not_mem_nil
    rw [if_pos hnil, mem_filter_decodedUnits]
    exact ⟨fun h => Or.inr ⟨hnone, h⟩, fun h => h.elim (fun hc => absurd ⟨unit, hc⟩ hnone) And.right⟩
  · obtain ⟨other, hother⟩ := List.exists_mem_of_ne_nil _ hnil
    rw [if_neg hnil, mem_filter_decodedUnits]
    exact ⟨Or.inl, fun h => h.elim id fun hnot =>
      absurd ⟨other, mem_filter_decodedUnits.1 hother⟩ hnot.1⟩

theorem sublist_decoded (candidates : List CatchmentUnit) :
    ((candidates.filterMap (decodedUnit geo)).map (·.1)).Sublist candidates := by
  induction candidates with
  | nil => exact List.Sublist.slnil
  | cons unit candidates ih =>
    cases hone : decodedUnit geo unit with
    | none =>
      rw [List.filterMap_cons_none hone]
      exact ih.cons unit
    | some found =>
      obtain ⟨polygons, -, rfl⟩ := Option.map_eq_some_iff.1 hone
      rw [List.filterMap_cons_some hone]
      exact ih.cons_cons unit

/-- The hits are candidates in their order. -/
theorem sublist_pipHits :
    (pipHits geo outlet (decodedUnits geo selectedLevel candidates)).Sublist candidates := by
  have hdecoded : ((decodedUnits geo selectedLevel candidates).map (·.1)).Sublist candidates := by
    unfold decodedUnits
    cases selectedLevel with
    | none => exact sublist_decoded candidates
    | some level => exact (List.filter_sublist.map _).trans (sublist_decoded candidates)
  have htest : ∀ test : CatchmentUnit × List Polygon → Bool,
      (((decodedUnits geo selectedLevel candidates).filter test).map (·.1)).Sublist candidates :=
    fun test => (List.filter_sublist.map _).trans hdecoded
  unfold pipHits
  dsimp only
  split
  · exact htest _
  · exact htest _

/-- The hits depend on the candidates up to order. -/
theorem resolvePip_of_perm {order : List CatchmentUnit} (hids : (candidates.map (·.id)).Nodup)
    (hperm : order.Perm candidates) :
    resolvePip geo outlet selectedLevel order = resolvePip geo outlet selectedLevel candidates := by
  have hdecoded : (decodedUnits geo selectedLevel order).Perm
      (decodedUnits geo selectedLevel candidates) := by
    unfold decodedUnits
    cases selectedLevel with
    | none => exact hperm.filterMap _
    | some level => exact (hperm.filterMap _).filter _
  have hhits : (pipHits geo outlet (decodedUnits geo selectedLevel order)).Perm
      (pipHits geo outlet (decodedUnits geo selectedLevel candidates)) := by
    have hcontains := (hdecoded.filter fun unit => geo.contains unit.2 outlet).map (·.1)
    unfold pipHits
    by_cases hnil : ((decodedUnits geo selectedLevel candidates).filter
        fun unit => geo.contains unit.2 outlet).map (·.1) = []
    · rw [if_pos hnil, if_pos (List.Perm.eq_nil (hnil ▸ hcontains))]
      exact (hdecoded.filter _).map _
    · rw [if_neg hnil, if_neg fun h => hnil (List.Perm.nil_eq (by rwa [h] at hcontains)).symm]
      exact hcontains
  have hsorted : (pipHits geo outlet (decodedUnits geo selectedLevel order)).insertionSort PipBefore =
      (pipHits geo outlet (decodedUnits geo selectedLevel candidates)).insertionSort PipBefore := by
    refine List.Perm.eq_of_pairwise ?_ (List.pairwise_insertionSort PipBefore _)
      (List.pairwise_insertionSort PipBefore _)
      ((List.perm_insertionSort PipBefore _).trans
        (hhits.trans (List.perm_insertionSort PipBefore _).symm))
    intro a b ha hb hab hba
    have hmem : ∀ unit ∈ (pipHits geo outlet (decodedUnits geo selectedLevel
        candidates)).insertionSort PipBefore, unit ∈ candidates := by
      intro unit hunit
      exact sublist_pipHits.subset ((List.mem_insertionSort PipBefore).1 hunit)
    have ha' := hhits.mem_iff.1 ((List.mem_insertionSort PipBefore).1 ha)
    exact precedence_injOn hids (sublist_pipHits.subset ha') (hmem b hb)
      ((pipBefore_iff.1 hab).antisymm (pipBefore_iff.1 hba))
  have hfailures := (hperm.filter fun unit => (decodedUnit geo unit).isNone).length_eq
  by_cases hnil : candidates = []
  · subst hnil
    rw [hperm.eq_nil]
  · have horder : order ≠ [] := fun h => hnil (List.Perm.nil_eq (h ▸ hperm)).symm
    simp only [resolvePip, if_neg hnil, if_neg horder, hsorted, hfailures, hdecoded.length_eq,
      hperm.length_eq]

end

/-! ## The declared order and the reason -/

/-- The unit comes before every other of a set. -/
structure IsFirst (among : CatchmentUnit → Prop) (unit : CatchmentUnit) : Prop where
  mem : among unit
  before : ∀ other, among other → other ≠ unit → precedence unit < precedence other

theorem IsFirst.unique {among : CatchmentUnit → Prop} {a b : CatchmentUnit} (ha : IsFirst among a)
    (hb : IsFirst among b) : a = b := by
  by_contra hne
  exact (ha.before b hb.mem (Ne.symm hne)).not_gt (hb.before a ha.mem hne)

/-- The criterion is the first on which two units differ. -/
def Decides : PipTieBreak → CatchmentUnit → CatchmentUnit → Prop
  | .highestUpstreamArea, a, b => a.upstreamArea ≠ b.upstreamArea
  | .highestLocalArea, a, b => a.upstreamArea = b.upstreamArea ∧ a.area ≠ b.area
  | .lowestUnitId, a, b => a.upstreamArea = b.upstreamArea ∧ a.area = b.area ∧ a.id ≠ b.id

/-- The two upstream areas are a zero and a negative zero, or one `NaN`. -/
def Confused (a b : CatchmentUnit) : Prop :=
  (a.upstreamArea = some ⟨false, 0⟩ ∧ b.upstreamArea = some ⟨true, 0⟩) ∨
    ∃ x : F32, x.isNan = true ∧ a.upstreamArea = some x ∧ b.upstreamArea = some x

theorem F32.opposite_zeros {x y : F32} (heq : x.eq y = true) (hne : x ≠ y) :
    x.magnitude = 0 ∧ y.magnitude = 0 ∧ x.negative ≠ y.negative := by
  obtain ⟨-, -, hkey⟩ := F32.eq_iff.1 heq
  obtain ⟨nx, mx⟩ := x
  obtain ⟨ny, my⟩ := y
  unfold F32.numericKey at hkey
  cases nx <;> cases ny <;> simp only [Bool.false_eq_true, if_false, if_true] at hkey
  · exact absurd (congrArg _ (Fin.ext (by omega))) hne
  · exact ⟨Fin.ext (by simp; omega), Fin.ext (by simp; omega), Bool.false_ne_true⟩
  · exact ⟨Fin.ext (by simp; omega), Fin.ext (by simp; omega), Bool.false_ne_true.symm⟩
  · exact absurd (congrArg _ (Fin.ext (by omega))) hne

theorem F32.eq_self_iff {x : F32} : x.eq x = true ↔ x.isNan = false := by
  rw [F32.eq_iff]
  exact ⟨And.left, fun h => ⟨h, h, rfl⟩⟩

/-- Zeros of opposite sign are in the order of `total_cmp`. -/
theorem F32.eq_zeros_of_totalKey_le {x y : F32} (heq : x.eq y = true) (hne : x ≠ y)
    (hkey : y.totalKey ≤ x.totalKey) : x = ⟨false, 0⟩ ∧ y = ⟨true, 0⟩ := by
  obtain ⟨hx, hy, hsign⟩ := F32.opposite_zeros heq hne
  obtain ⟨nx, mx⟩ := x
  obtain ⟨ny, my⟩ := y
  obtain rfl : mx = 0 := hx
  obtain rfl : my = 0 := hy
  cases nx <;> cases ny
  · exact absurd rfl hsign
  · exact ⟨rfl, rfl⟩
  · exact absurd hkey (by decide)
  · exact absurd rfl hsign

/-- `==` of upstream areas tells whether they are the same, except for areas that are confused. -/
theorem optionEq_iff {a b : CatchmentUnit} (hlt : precedence a < precedence b) :
    (optionEq a.upstreamArea b.upstreamArea = true ↔ a.upstreamArea = b.upstreamArea) ↔
      ¬Confused a b := by
  have hle : upstreamKey b ≤ upstreamKey a := by
    rw [precedence, precedence, Prod.Lex.toLex_lt_toLex] at hlt
    rcases hlt with h | h
    · exact (toDual_lt_toDual.1 h).le
    · exact (toDual_inj.1 h.1).symm.le
  unfold upstreamKey at hle
  unfold Confused
  cases ha : a.upstreamArea with
  | none => cases hb : b.upstreamArea <;> simp [optionEq]
  | some x =>
    cases hb : b.upstreamArea with
    | none => simp [optionEq]
    | some y =>
      rw [ha, hb] at hle
      have hkey : y.totalKey ≤ x.totalKey := WithBot.coe_le_coe.1 hle
      simp only [optionEq, Option.some.injEq]
      by_cases hxy : x = y
      · subst hxy
        have hzeros : ¬(x = ⟨false, 0⟩ ∧ x = ⟨true, 0⟩) := by
          rintro ⟨rfl, h⟩
          cases h
        simp [F32.eq_self_iff, hzeros]
      · constructor
        · rintro h (⟨rfl, rfl⟩ | ⟨z, -, rfl, rfl⟩)
          · exact hxy (h.1 (by decide))
          · exact hxy rfl
        · intro h
          refine ⟨fun heq => absurd (Or.inl (F32.eq_zeros_of_totalKey_le heq hxy hkey)) h, ?_⟩
          intro heq
          exact absurd heq hxy

/-- The reported reason is the first difference exactly when the upstream areas are not confused. -/
theorem decides_pipTieBreak_iff {a b : CatchmentUnit} (hlt : precedence a < precedence b) :
    Decides (pipTieBreak a b) a b ↔ ¬Confused a b := by
  rw [← optionEq_iff hlt]
  have harea : a.area.totalCmp b.area = .eq ↔ a.area = b.area :=
    compare_eq_iff_eq.trans F32.totalKey_injective.eq_iff
  have hid : a.upstreamArea = b.upstreamArea → a.area = b.area → a.id ≠ b.id := by
    intro hupstream harea hid
    refine hlt.ne ?_
    unfold precedence upstreamKey
    rw [hupstream, harea, hid]
  unfold pipTieBreak
  by_cases heq : optionEq a.upstreamArea b.upstreamArea = true
  · rw [heq, Bool.not_true, if_neg Bool.false_ne_true]
    by_cases hsame : a.area = b.area
    · rw [if_neg (not_not.2 (harea.2 hsame))]
      exact ⟨fun h => iff_of_true rfl h.1, fun h => ⟨h.1 rfl, hsame, hid (h.1 rfl) hsame⟩⟩
    · rw [if_pos (mt harea.1 hsame)]
      exact ⟨fun h => iff_of_true rfl h.1, fun h => ⟨h.1 rfl, hsame⟩⟩
  · rw [Bool.not_eq_true] at heq
    rw [heq, Bool.not_false, if_pos rfl]
    exact ⟨fun h => iff_of_false Bool.false_ne_true h, fun h hsame => Bool.false_ne_true (h.2 hsame)⟩

/-! ## What resolution returns -/

section

variable {Polygon : Type} (geo : PipGeo Polygon) (outlet : GeoCoord) (selectedLevel : Option Level)
  (boundingBox : F32 → F32 → F32 → F32 → Option String)

/-- Resolution when the store returns some candidates. -/
def resolveAmong (candidates : List CatchmentUnit) : Except OutletResolutionError OutletResolution :=
  resolveViaPip geo outlet selectedLevel boundingBox fun _ => .ok candidates

/-- The other hits. -/
def IsHitBesides (candidates : List CatchmentUnit) (winner unit : CatchmentUnit) : Prop :=
  IsHit geo outlet selectedLevel candidates unit ∧ unit ≠ winner

/-- The winner is the first of the hits and does not depend on the order of the candidates, and the
reason, which is given when there are several, is the first difference to the one behind. -/
structure ResolvesAsDeclared (candidates : List CatchmentUnit) : Prop where
  of_perm : ∀ order : List CatchmentUnit, order.Perm candidates →
    resolveAmong geo outlet selectedLevel boundingBox order =
      resolveAmong geo outlet selectedLevel boundingBox candidates
  fails : (¬∃ unit, IsHit geo outlet selectedLevel candidates unit) →
    ∃ e, resolveAmong geo outlet selectedLevel boundingBox candidates = .error e
  returns : (∃ unit, IsHit geo outlet selectedLevel candidates unit) →
    ∃ winner considered tieBreak, IsFirst (IsHit geo outlet selectedLevel candidates) winner ∧
      resolveAmong geo outlet selectedLevel boundingBox candidates =
        .ok (containmentResolution outlet considered winner tieBreak) ∧
      ((¬∃ unit, IsHitBesides geo outlet selectedLevel candidates winner unit) → tieBreak = none) ∧
      ∀ second, IsFirst (IsHitBesides geo outlet selectedLevel candidates winner) second →
        ∃ reason, tieBreak = some reason ∧ Decides reason winner second

variable {geo outlet selectedLevel boundingBox} {candidates : List CatchmentUnit} {bbox : UnitBox}

theorem resolveAmong_eq (hbbox : searchBbox geo.cos boundingBox outlet pipBufferM = .ok bbox)
    (candidates : List CatchmentUnit) : resolveAmong geo outlet selectedLevel boundingBox candidates =
      resolvePip geo outlet selectedLevel candidates := by
  rw [resolveAmong, resolveViaPip, hbbox]
  rfl

/-- The sorted hits. -/
def sortedHits (geo : PipGeo Polygon) (outlet : GeoCoord) (selectedLevel : Option Level)
    (candidates : List CatchmentUnit) : List CatchmentUnit :=
  (pipHits geo outlet (decodedUnits geo selectedLevel candidates)).insertionSort PipBefore

theorem mem_sortedHits {unit : CatchmentUnit} :
    unit ∈ sortedHits geo outlet selectedLevel candidates ↔
      IsHit geo outlet selectedLevel candidates unit :=
  (List.mem_insertionSort PipBefore).trans mem_pipHits

/-- Sorted hits are in strict order, as their ids differ. -/
theorem pairwise_sortedHits (hids : (candidates.map (·.id)).Nodup) :
    (sortedHits geo outlet selectedLevel candidates).Pairwise
      fun a b => precedence a < precedence b := by
  have hle : (sortedHits geo outlet selectedLevel candidates).Pairwise PipBefore :=
    List.pairwise_insertionSort PipBefore _
  have hnodup : (sortedHits geo outlet selectedLevel candidates).Nodup :=
    (List.perm_insertionSort PipBefore _).nodup_iff.2
      (sublist_pipHits.nodup (List.Nodup.of_map _ hids))
  have hmem : ∀ unit ∈ sortedHits geo outlet selectedLevel candidates, unit ∈ candidates :=
    fun unit hunit => sublist_pipHits.subset ((List.mem_insertionSort PipBefore).1 hunit)
  refine (hle.and hnodup).imp_of_mem ?_
  intro a b ha hb h
  exact lt_of_le_of_ne (pipBefore_iff.1 h.1)
    fun heq => h.2 (precedence_injOn hids (hmem a ha) (hmem b hb) heq)

theorem isFirst_of_sortedHits (hids : (candidates.map (·.id)).Nodup) {winner : CatchmentUnit}
    {rest : List CatchmentUnit}
    (hsorted : sortedHits geo outlet selectedLevel candidates = winner :: rest) :
    IsFirst (IsHit geo outlet selectedLevel candidates) winner := by
  have hpairwise : (sortedHits geo outlet selectedLevel candidates).Pairwise
      fun a b => precedence a < precedence b := pairwise_sortedHits hids
  rw [hsorted, List.pairwise_cons] at hpairwise
  refine ⟨mem_sortedHits.1 (hsorted ▸ List.mem_cons_self), ?_⟩
  intro other hother hne
  rw [← mem_sortedHits, hsorted, List.mem_cons] at hother
  exact hpairwise.1 other (hother.resolve_left hne)

theorem isFirst_besides_of_sortedHits (hids : (candidates.map (·.id)).Nodup)
    {winner second : CatchmentUnit} {rest : List CatchmentUnit}
    (hsorted : sortedHits geo outlet selectedLevel candidates = winner :: second :: rest) :
    IsFirst (IsHitBesides geo outlet selectedLevel candidates winner) second := by
  have hpairwise : (sortedHits geo outlet selectedLevel candidates).Pairwise
      fun a b => precedence a < precedence b := pairwise_sortedHits hids
  rw [hsorted, List.pairwise_cons, List.pairwise_cons] at hpairwise
  obtain ⟨hwinner, hsecond, -⟩ := hpairwise
  have hmem : second ∈ sortedHits geo outlet selectedLevel candidates := by
    rw [hsorted]
    exact List.mem_cons_of_mem _ List.mem_cons_self
  refine ⟨⟨mem_sortedHits.1 hmem, fun h => (hwinner second List.mem_cons_self).ne (h ▸ rfl)⟩, ?_⟩
  intro other hother hne
  have hin := mem_sortedHits.2 hother.1
  rw [hsorted, List.mem_cons, List.mem_cons] at hin
  exact hsecond other ((hin.resolve_left hother.2).resolve_left hne)

theorem resolvePip_of_nil (hsorted : sortedHits geo outlet selectedLevel candidates = []) :
    ∃ e, resolvePip geo outlet selectedLevel candidates = .error e := by
  unfold sortedHits at hsorted
  unfold resolvePip
  dsimp only
  rw [hsorted]
  split
  · exact ⟨_, rfl⟩
  · dsimp only
    split
    · exact ⟨_, rfl⟩
    · exact ⟨_, rfl⟩

/-- The first of the sorted hits is returned. -/
theorem resolvePip_of_cons {winner : CatchmentUnit} {rest : List CatchmentUnit}
    (hsorted : sortedHits geo outlet selectedLevel candidates = winner :: rest) :
    resolvePip geo outlet selectedLevel candidates =
      .ok (containmentResolution outlet (decodedUnits geo selectedLevel candidates).length winner
        (rest.head?.map (pipTieBreak winner))) := by
  have hne : candidates ≠ [] := by
    rintro rfl
    have hmem : winner ∈ sortedHits geo outlet selectedLevel [] := hsorted ▸ List.mem_cons_self
    exact absurd (sublist_pipHits.subset ((List.mem_insertionSort PipBefore).1 hmem))
      List.not_mem_nil
  unfold sortedHits at hsorted
  simp only [resolvePip, if_neg hne, hsorted]
  cases rest <;> rfl

/-- The reason that is reported with the winner is the declared one. -/
theorem ResolvesAsDeclared.decides {winner second : CatchmentUnit} {considered : ℕ}
    {reason : PipTieBreak} (h : ResolvesAsDeclared geo outlet selectedLevel boundingBox candidates)
    (hfirst : IsFirst (IsHit geo outlet selectedLevel candidates) winner)
    (hsecond : IsFirst (IsHitBesides geo outlet selectedLevel candidates winner) second)
    (hresult : resolveAmong geo outlet selectedLevel boundingBox candidates =
      .ok (containmentResolution outlet considered winner (some reason))) :
    Decides reason winner second := by
  obtain ⟨found, considered', tieBreak, hfound, hok, -, hreason⟩ := h.returns ⟨winner, hfirst.mem⟩
  obtain rfl := hfirst.unique hfound
  obtain ⟨declared, rfl, hdecides⟩ := hreason second hsecond
  have hsame := hresult.symm.trans hok
  simp only [containmentResolution, Except.ok.injEq, OutletResolution.unitContainment.injEq,
    ContainmentResolutionProvenance.mk.injEq, Option.some.injEq] at hsame
  rw [hsame.2.2.2]
  exact hdecides

/-- **Containment resolution.** The first of the hits is returned, and all is as declared exactly when
the first two do not have confused upstream areas. -/
theorem resolveViaPip_declared_iff
    (hbbox : searchBbox geo.cos boundingBox outlet pipBufferM = .ok bbox)
    (hids : (candidates.map (·.id)).Nodup) :
    (∀ winner, IsFirst (IsHit geo outlet selectedLevel candidates) winner →
      ∃ considered tieBreak, resolveAmong geo outlet selectedLevel boundingBox candidates =
        .ok (containmentResolution outlet considered winner tieBreak)) ∧
    (ResolvesAsDeclared geo outlet selectedLevel boundingBox candidates ↔
      ∀ winner second, IsFirst (IsHit geo outlet selectedLevel candidates) winner →
        IsFirst (IsHitBesides geo outlet selectedLevel candidates winner) second →
          ¬Confused winner second) := by
  have hperm : ∀ order : List CatchmentUnit, order.Perm candidates →
      resolveAmong geo outlet selectedLevel boundingBox order =
        resolveAmong geo outlet selectedLevel boundingBox candidates := by
    intro order horder
    rw [resolveAmong_eq hbbox, resolveAmong_eq hbbox, resolvePip_of_perm hids horder]
  cases hsorted : sortedHits geo outlet selectedLevel candidates with
  | nil =>
    have hnone : ¬∃ unit, IsHit geo outlet selectedLevel candidates unit := by
      rintro ⟨unit, hunit⟩
      rw [← mem_sortedHits, hsorted] at hunit
      exact absurd hunit List.not_mem_nil
    refine ⟨fun winner h => absurd ⟨winner, h.mem⟩ hnone, iff_of_true ?_ ?_⟩
    · refine ⟨hperm, fun _ => ?_, fun h => absurd h hnone⟩
      rw [resolveAmong_eq hbbox]
      exact resolvePip_of_nil hsorted
    · exact fun winner _ h => absurd ⟨winner, h.mem⟩ hnone
  | cons winner rest =>
    have hfirst := isFirst_of_sortedHits hids hsorted
    have hresult := (resolveAmong_eq hbbox candidates).trans (resolvePip_of_cons hsorted)
    refine ⟨fun other h => ?_, ?_⟩
    · obtain rfl := hfirst.unique h
      exact ⟨_, _, hresult⟩
    cases rest with
    | nil =>
      have halone : ¬∃ unit, IsHitBesides geo outlet selectedLevel candidates winner unit := by
        rintro ⟨unit, hunit, hne⟩
        rw [← mem_sortedHits, hsorted, List.mem_singleton] at hunit
        exact hne hunit
      refine iff_of_true ⟨hperm, fun h => absurd ⟨winner, hfirst.mem⟩ h, fun _ => ?_⟩ ?_
      · exact ⟨winner, _, none, hfirst, hresult, fun _ => rfl,
          fun second h => absurd ⟨second, h.mem⟩ halone⟩
      · intro other second hother hsecond
        obtain rfl := hfirst.unique hother
        exact absurd ⟨second, hsecond.mem⟩ halone
    | cons second rest =>
      have hsecond := isFirst_besides_of_sortedHits hids hsorted
      have hlt := hfirst.before second hsecond.mem.1 hsecond.mem.2
      have hiff := decides_pipTieBreak_iff hlt
      constructor
      · intro hdeclared other third hother hthird
        obtain rfl := hfirst.unique hother
        obtain rfl := hsecond.unique hthird
        exact hiff.1 (hdeclared.decides hfirst hsecond hresult)
      · intro hcond
        have hdecides := hiff.2 (hcond winner second hfirst hsecond)
        refine ⟨hperm, fun h => absurd ⟨winner, hfirst.mem⟩ h, fun _ => ?_⟩
        refine ⟨winner, _, _, hfirst, hresult, fun h => absurd ⟨second, hsecond.mem⟩ h, ?_⟩
        intro third hthird
        obtain rfl := hsecond.unique hthird
        exact ⟨_, rfl, hdecides⟩

end

/-- The tests of `geo` on the triangle. The cosine is that of a quarter of a degree. -/
def trianglePipGeo : PipGeo (List (ℤ × ℤ)) where
  toGeo := triangleToGeo
  contains polygons point :=
    match polygons, point.lonValue, point.latValue with
    | [[(0, 0), (1, 0), (0, 1), (0, 0)]], .finite x, .finite y => 0 < x && 0 < y && x + y < 1
    | _, _, _ => false
  intersects polygons point :=
    match polygons, point.lonValue, point.latValue with
    | [[(0, 0), (1, 0), (0, 1), (0, 0)]], .finite x, .finite y => 0 ≤ x && 0 ≤ y && x + y ≤ 1
    | _, _, _ => false
  cos _ := .ofBits 0x3FEFFFEC0960384E

def triangleOutlet : GeoCoord := ⟨0x3FD0000000000000, 0x3FD0000000000000⟩

/-- The triangle as a unit. -/
def overlappingUnit (id : UnitId) (upstreamArea : Option F32) (area : F32) : CatchmentUnit where
  id
  level := 0
  parentId := none
  area
  upstreamArea
  outlet := ⟨0x3FE0000000000000, 0x3FE0000000000000⟩
  bbox := triangleBox
  geometry := triangleWkb
  sourceId := none
  levelLabel := none

theorem searchBbox_triangleOutlet : ∃ bbox, searchBbox trianglePipGeo.cos
    acceptingHfxUnit.boundingBox triangleOutlet pipBufferM = .ok bbox := ⟨_, rfl⟩

/-- Two units, one of them with an upstream area. -/
def overlappingUnits : List CatchmentUnit :=
  [overlappingUnit 9 none ⟨false, 0x40000000⟩,
    overlappingUnit 7 (some ⟨false, 0x3F800000⟩) ⟨false, 0x3F000000⟩]

theorem resolveViaPip_declared_iff_triangles :
    (∀ winner, IsFirst (IsHit trianglePipGeo triangleOutlet (some 0) overlappingUnits) winner →
      ∃ considered tieBreak,
        resolveAmong trianglePipGeo triangleOutlet (some 0) acceptingHfxUnit.boundingBox
            overlappingUnits = .ok (containmentResolution triangleOutlet considered winner tieBreak)) ∧
    (ResolvesAsDeclared trianglePipGeo triangleOutlet (some 0) acceptingHfxUnit.boundingBox
        overlappingUnits ↔
      ∀ winner second, IsFirst (IsHit trianglePipGeo triangleOutlet (some 0) overlappingUnits) winner →
        IsFirst (IsHitBesides trianglePipGeo triangleOutlet (some 0) overlappingUnits winner) second →
          ¬Confused winner second) :=
  resolveViaPip_declared_iff searchBbox_triangleOutlet.choose_spec (by decide)

/-- Upstream areas of zero, one with a sign. The smaller local area wins and is said to be the larger. -/
def zeroUnits : List CatchmentUnit :=
  [overlappingUnit 7 (some ⟨false, 0⟩) ⟨false, 0x3F000000⟩,
    overlappingUnit 9 (some ⟨true, 0⟩) ⟨false, 0x40000000⟩]

theorem not_resolvesAsDeclared :
    ¬∀ (Polygon : Type) (geo : PipGeo Polygon) (outlet : GeoCoord) (selectedLevel : Option Level)
      (boundingBox : F32 → F32 → F32 → F32 → Option String) (bbox : UnitBox)
      (candidates : List CatchmentUnit),
      searchBbox geo.cos boundingBox outlet pipBufferM = .ok bbox →
      (candidates.map (·.id)).Nodup →
        ResolvesAsDeclared geo outlet selectedLevel boundingBox candidates := by
  intro h
  have hids : (zeroUnits.map (·.id)).Nodup := by decide
  have hsorted : sortedHits trianglePipGeo triangleOutlet (some 0) zeroUnits = zeroUnits := by
    decide +kernel
  have hresult := (resolveAmong_eq searchBbox_triangleOutlet.choose_spec zeroUnits).trans
    (resolvePip_of_cons hsorted)
  have hfirst := isFirst_of_sortedHits hids hsorted
  have hsecond := isFirst_besides_of_sortedHits hids hsorted
  have hdecides := (h _ _ _ _ _ _ _ searchBbox_triangleOutlet.choose_spec hids).decides hfirst hsecond
    hresult
  have hlocal : pipTieBreak (overlappingUnit 7 (some ⟨false, 0⟩) ⟨false, 0x3F000000⟩)
      (overlappingUnit 9 (some ⟨true, 0⟩) ⟨false, 0x40000000⟩) = .highestLocalArea := by decide
  rw [hlocal] at hdecides
  exact absurd hdecides.1 (by decide)

end Pourpoint
