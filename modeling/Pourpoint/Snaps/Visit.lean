import Pourpoint.Snaps.Pruning

/-!
# Scoped visits

A visit reads the row groups whose boxes may meet the scope and calls back for each row whose geometry
does. The test of a box is padded by one float step on each side, so no row whose supplied bounds are
within one step of its geometry is in a group that is left out: the calls are those of a scan of the
whole file (`SnapStore.visit_visits`).
-/

namespace Pourpoint

open Library

/-! ## What a visit has to do -/

/-- The decoded geometry of a row. -/
def SnapRow.decoded (reader : SnapReader) (row : SnapRow) : Option SnapGeometry :=
  row.geometry.bind fun wkb => (reader.toGeo wkb).toOption

/-- The geometry of a row meets the scope. -/
def SnapScope.meetsRow (reader : SnapReader) (scope : SnapScope) (row : SnapRow) : Bool :=
  (row.decoded reader).any fun geometry => scope.intersects reader geometry

/-- A target of a visit holds the cells of its row. It has no strict box. -/
structure SnapTargetRow.ReadFrom (reader : SnapReader) (row : SnapRow) (found : SnapTargetRow) :
    Prop where
  id : row.id = some found.target.id
  unitId : row.unitId = some found.target.unitId
  weight : row.weight = some found.target.weight
  stemRole : validStemRole reader row.stemRole = some found.target.stemRole
  bbox : found.target.bbox = none
  geometry : row.geometry = some found.target.geometry
  supplied : row.bbox = found.bbox.map .ofBounds

namespace SnapStore

/-- The calls are those for the rows in order, each once: for all of them when the visit completes, and up
to the call that fails when a call fails. -/
structure Visits {E S : Type} (reader : SnapReader) (callback : S → SnapTargetRow → Except E S)
    (rows : List SnapRow) (s : S) (visited : Visited E S) : Prop where
  reads : List.Forall₂ (SnapTargetRow.ReadFrom reader) (rows.take visited.1.length) visited.1
  complete : ∀ s', visited.2 = .ok s' →
    visited.1.length = rows.length ∧ visited.1.foldlM callback s = .ok s'
  stopped : ∀ e, visited.2 = .error (.callback e) → ∃ before last s',
    visited.1 = before ++ [last] ∧ before.foldlM callback s = .ok s' ∧ callback s' last = .error e

end SnapStore

/-- Each side of supplied bounds is within one float step of the side of a rectangle. -/
structure WithinOneStep (bounds : SnapBounds) (rect : F64Rect) : Prop where
  xmin : bounds.xmin.nextDown.toF64.le rect.min.x = true ∧ rect.min.x.le bounds.xmin.nextUp.toF64 = true
  ymin : bounds.ymin.nextDown.toF64.le rect.min.y = true ∧ rect.min.y.le bounds.ymin.nextUp.toF64 = true
  xmax : bounds.xmax.nextDown.toF64.le rect.max.x = true ∧ rect.max.x.le bounds.xmax.nextUp.toF64 = true
  ymax : bounds.ymax.nextDown.toF64.le rect.max.y = true ∧ rect.max.y.le bounds.ymax.nextUp.toF64 = true

/-! ## One row -/

section

variable {E S : Type} {reader : SnapReader} {callback : S → SnapTargetRow → Except E S}
  {scope : SnapScope} {s : S}

theorem toGeo_of_validGeometry {wkb : List UInt8} {geometry : SnapGeometry}
    (h : validGeometry reader wkb = some geometry) : reader.toGeo wkb = .ok geometry := by
  rw [validGeometry, toOption_eq_some_iff, validateSnapGeometry] at h
  cases hgeo : reader.toGeo wkb with
  | error reason =>
    rw [hgeo] at h
    cases h
  | ok decoded =>
    rw [hgeo] at h
    dsimp only at h
    split_ifs at h
    refine congrArg Except.ok ?_
    cases decoded with
    | point coord => exact Except.ok.inj h
    | other typeName coords => cases h
    | lineString coords =>
      dsimp only at h
      split_ifs at h
      exact Except.ok.inj h

theorem bbox_of_validBounds {bbox : Option BboxLeaves} {supplied : Option SnapBounds}
    (h : validBounds reader bbox = some supplied) : bbox = supplied.map .ofBounds := by
  rw [validBounds, toOption_eq_some_iff] at h
  unfold suppliedBounds at h
  split at h
  · obtain rfl := Except.ok.inj h
    rfl
  · rw [← toOption_eq_some_iff, toOption_map, Option.map_eq_some_iff] at h
    obtain ⟨bounds, hbounds, rfl⟩ := h
    rw [toOption_eq_some_iff, checkSnapBounds] at hbounds
    split_ifs at hbounds
    · cases hbounds
    · obtain rfl := Except.ok.inj hbounds
      rfl
  · cases h

/-- A valid row is kept when its geometry meets the scope. -/
theorem rowTarget?_geometry {row : SnapRow} {kept : Option SnapTargetRow}
    (h : rowTarget? reader (.geometry scope) row = some kept) :
    scope.meetsRow reader row = kept.isSome ∧ ∀ found ∈ kept, found.ReadFrom reader row := by
  simp only [rowTarget?, Option.bind_eq_bind, Option.bind_eq_some_iff] at h
  obtain ⟨id, hid, unitId, hunit, weight, hweight, wkb, hwkb, -, -, geometry, hgeometry, supplied,
    hsupplied, box, hbox, h⟩ := h
  have hdecoded : row.decoded reader = some geometry := by
    rw [SnapRow.decoded, hwkb, Option.bind_some, toGeo_of_validGeometry hgeometry]
    rfl
  have hmeets : scope.meetsRow reader row = scope.intersects reader geometry := by
    rw [SnapScope.meetsRow, hdecoded]
    rfl
  have hmatches : filterMatches reader (.geometry scope) box geometry =
      scope.intersects reader geometry := rfl
  obtain rfl := Option.some.inj hbox
  rw [hmeets]
  rw [hmatches] at h
  by_cases hscope : scope.intersects reader geometry = true
  · simp only [hscope, Bool.not_true, Bool.false_eq_true, if_false, Option.bind_eq_some_iff,
      Option.some.injEq] at h
    obtain ⟨-, -, -, -, -, -, role, hrole, rfl⟩ := h
    refine ⟨hscope, fun found hfound => ?_⟩
    obtain rfl := Option.mem_some_iff.1 hfound
    exact ⟨hid, hunit, hweight, hrole, rfl, hwkb, bbox_of_validBounds hsupplied⟩
  · simp only [hscope, Bool.not_false, if_true, Option.some.injEq] at h
    subst h
    refine ⟨Bool.eq_false_of_not_eq_true hscope, fun found hfound => ?_⟩
    exact absurd hfound (Option.not_mem_none found)

/-- A batch gives the targets of the rows that meet the scope, in order. -/
theorem forall₂_of_extractBatch {batch : List SnapRow} {n : ℕ} {targets : List SnapTargetRow}
    (h : extractSnapTargetsFromBatch reader (.geometry scope) batch n = .ok targets) :
    List.Forall₂ (SnapTargetRow.ReadFrom reader) (batch.filter (scope.meetsRow reader)) targets := by
  rw [← toOption_eq_some_iff, toOption_extractBatch, mapM_map_flatten_eq_some_iff] at h
  obtain ⟨hvalid, rfl⟩ := h
  induction batch with
  | nil => exact .nil
  | cons row batch ih =>
    have ih := ih fun row hrow => hvalid row (List.mem_cons_of_mem _ hrow)
    obtain ⟨list, hlist⟩ := Option.isSome_iff_exists.1 (hvalid row List.mem_cons_self)
    rw [List.flatMap_cons, hlist]
    obtain ⟨kept, hkept, rfl⟩ := Option.map_eq_some_iff.1 hlist
    obtain ⟨hmeets, hread⟩ := rowTarget?_geometry hkept
    cases kept with
    | none =>
      rw [List.filter_cons_of_neg (by simp [hmeets])]
      exact ih
    | some found =>
      rw [List.filter_cons_of_pos (by simp [hmeets])]
      exact .cons (hread found rfl) ih

/-! ## The loops -/

namespace SnapStore

theorem Visits.nil (s : S) : Visits reader callback [] s ([], .ok s) where
  reads := .nil
  complete _ h := ⟨rfl, congrArg Except.ok (Except.ok.inj h)⟩
  stopped _ h := nomatch h

/-- A read that fails makes no call. -/
theorem Visits.read_error (rows : List SnapRow) (e : SnapReadError) :
    Visits reader callback rows s ([], .error (.read e)) where
  reads := .nil
  complete _ h := nomatch h
  stopped _ h := nomatch h

theorem Visits.length_le {rows : List SnapRow} {visited : Visited E S}
    (h : Visits reader callback rows s visited) : visited.1.length ≤ rows.length := by
  have hlength := h.reads.length_eq
  rw [List.length_take] at hlength
  omega

/-- Two parts of a visit, one after the other. -/
theorem Visits.andThen {rows₁ rows₂ : List SnapRow} {first : Visited E S} {rest : S → Visited E S}
    (h₁ : Visits reader callback rows₁ s first)
    (h₂ : ∀ s', first.2 = .ok s' → Visits reader callback rows₂ s' (rest s')) :
    Visits reader callback (rows₁ ++ rows₂) s (first.andThen rest) := by
  obtain ⟨calls, result⟩ := first
  cases result with
  | error e =>
    refine ⟨?_, (fun _ h => nomatch h), h₁.stopped⟩
    show List.Forall₂ _ ((rows₁ ++ rows₂).take calls.length) calls
    rw [List.take_append_of_le_length h₁.length_le]
    exact h₁.reads
  | ok s' =>
    have h₂ := h₂ s' rfl
    obtain ⟨hlength, hfold⟩ := h₁.complete s' rfl
    have hreads := h₁.reads
    rw [hlength, List.take_length] at hreads
    refine ⟨?_, fun t ht => ?_, fun e he => ?_⟩
    · show List.Forall₂ _ ((rows₁ ++ rows₂).take (calls ++ (rest s').1).length) (calls ++ (rest s').1)
      rw [List.length_append, hlength, List.take_length_add_append]
      exact List.rel_append hreads h₂.reads
    · obtain ⟨hlength', hfold'⟩ := h₂.complete t ht
      refine ⟨?_, ?_⟩
      · show (calls ++ (rest s').1).length = _
        rw [List.length_append, List.length_append, hlength, hlength']
      · show (calls ++ (rest s').1).foldlM callback s = _
        rw [List.foldlM_append, hfold]
        exact hfold'
    · obtain ⟨before, last, t, hcalls, hbefore, hlast⟩ := h₂.stopped e he
      refine ⟨calls ++ before, last, t, ?_, ?_, hlast⟩
      · show calls ++ (rest s').1 = _
        rw [hcalls, List.append_assoc]
      · rw [List.foldlM_append, hfold]
        exact hbefore

/-- The calls for the targets of a batch. -/
theorem visits_callEach {rows : List SnapRow} {targets : List SnapTargetRow}
    (h : List.Forall₂ (SnapTargetRow.ReadFrom reader) rows targets) (s : S) :
    Visits reader callback rows s (callEach callback targets s) := by
  induction h generalizing s with
  | nil => exact Visits.nil s
  | @cons row found rows targets hread _ ih =>
    rw [callEach]
    cases hcall : callback s found with
    | error e =>
      refine ⟨.cons hread .nil, (fun _ h => nomatch h), fun e' he => ?_⟩
      obtain rfl : e = e' := by
        injection he with he
        injection he
      exact ⟨[], found, s, rfl, rfl, hcall⟩
    | ok s' =>
      have hone : Visits reader callback [row] s ([found], .ok s') := by
        refine ⟨.cons hread .nil, fun t ht => ⟨rfl, ?_⟩, fun e he => nomatch he⟩
        obtain rfl := Except.ok.inj ht
        rw [List.foldlM_cons, hcall]
        rfl
      refine hone.andThen fun t ht => ?_
      obtain rfl := Except.ok.inj ht
      exact ih s'

theorem visits_batches (batches : List (List SnapRow)) (offset : ℕ) (s : S) :
    Visits reader callback (batches.flatten.filter (scope.meetsRow reader)) s
      (visitBatches reader scope callback batches offset s) := by
  induction batches generalizing offset s with
  | nil => exact Visits.nil s
  | cons batch batches ih =>
    rw [visitBatches]
    cases hextract : extractSnapTargetsFromBatch reader (.geometry scope) batch offset with
    | error e => exact Visits.read_error _ e
    | ok targets =>
      rw [List.flatten_cons, List.filter_append]
      exact (visits_callEach (forall₂_of_extractBatch hextract) s).andThen fun s' _ => ih _ s'

theorem visits_rowGroups (store : SnapStore) (starts : List (ℕ × ℕ)) (s : S) :
    Visits reader callback ((starts.flatMap fun start => partAt store.file.parts start.1).filter
      (scope.meetsRow reader)) s (store.visitRowGroups reader scope callback starts s) := by
  induction starts generalizing s with
  | nil => exact Visits.nil s
  | cons start starts ih =>
    obtain ⟨index, position⟩ := start
    rw [visitRowGroups]
    cases hget : store.file.rowGroups[index]? with
    | none => exact Visits.read_error _ _
    | some rowGroup =>
      rw [List.flatMap_cons, List.filter_append, partAt_parts hget,
        ← rowGroup.flatten_batches 8192]
      exact (visits_batches _ _ s).andThen fun s' _ => ih s'

/-! ## Pruning -/

/-- A box around the bounds of a row may meet what the row meets. -/
theorem mayIntersect_of_covers {box : UnitBox} {bounds : SnapBounds} {rect : F64Rect}
    {extent : SnapExtent} (hcovers : CoversBounds box bounds) (hwithin : WithinOneStep bounds rect)
    (hmeets : rect.intersectInclusive extent.rect = true) :
    (SnapScope.bbox extent).mayIntersect box = true := by
  simp only [F64Rect.intersectInclusive, Bool.and_eq_true] at hmeets
  obtain ⟨⟨⟨hwest, heast⟩, hsouth⟩, hnorth⟩ := hmeets
  have hminx : box.minx.nextDown.toF64.le rect.min.x = true :=
    F64.le_trans (F32.toF64_le (F32.nextDown_le hcovers.xmin)) hwithin.xmin.1
  have hminy : box.miny.nextDown.toF64.le rect.min.y = true :=
    F64.le_trans (F32.toF64_le (F32.nextDown_le hcovers.ymin)) hwithin.ymin.1
  have hmaxx : rect.max.x.le box.maxx.nextUp.toF64 = true :=
    F64.le_trans hwithin.xmax.2 (F32.toF64_le (F32.nextUp_le hcovers.xmax))
  have hmaxy : rect.max.y.le box.maxy.nextUp.toF64 = true :=
    F64.le_trans hwithin.ymax.2 (F32.toF64_le (F32.nextUp_le hcovers.ymax))
  simp only [SnapScope.mayIntersect, Bool.and_eq_true]
  exact ⟨⟨⟨F64.le_trans hminx hwest, F64.le_trans heast hmaxx⟩, F64.le_trans hminy hsouth⟩,
    F64.le_trans hnorth hmaxy⟩

theorem numbers_of_withinOneStep {bounds : SnapBounds} {rect : F64Rect}
    (h : WithinOneStep bounds rect) : bounds.Numbers := by
  have hnumber : ∀ {x : F32} {y : F64}, y.le x.nextUp.toF64 = true → x.isNan = false := by
    intro x y hle
    by_contra hnan
    have hright := F64.isNan_right_of_le hle
    rw [F32.toF64_of_isNan (F32.isNan_nextUp (Bool.eq_true_of_not_eq_false hnan))] at hright
    cases hright
  exact ⟨hnumber h.xmin.2, hnumber h.ymin.2, hnumber h.xmax.2, hnumber h.ymax.2⟩

/-- **Scoped visits.** The supplied bounds of a row are within one step of its geometry; then the calls of
a visit are those for the rows of the file that meet the scope. -/
theorem visit_visits {file : SnapFile} {store : SnapStore} (hopen : openObject reader file = .ok store)
    (htrue : ∀ rowGroup ∈ file.rowGroups, rowGroup.StatisticsTrue)
    (hgeo : ∀ geometry rect, reader.intersects geometry rect = true →
      ∃ bound, reader.boundingRect geometry = some bound ∧ bound.intersectInclusive rect = true)
    (hwithin : ∀ row ∈ file.rows, ∀ bounds, row.bbox = some (.ofBounds bounds) →
      ∀ geometry, row.decoded reader = some geometry →
        ∀ bound, reader.boundingRect geometry = some bound → WithinOneStep bounds bound)
    (scope : SnapScope) (callback : S → SnapTargetRow → Except E S) (s : S) :
    Visits reader callback (file.rows.filter (scope.meetsRow reader)) s
      (store.visit reader scope callback s) := by
  obtain rfl := file_of_openObject hopen
  have hselected := candidates_eq_filter_range hopen scope.mayIntersect
  have hrows : (((store.candidates scope.mayIntersect).zip (partStarts
      (store.candidates scope.mayIntersect) store.file.rowCounts 0 0)).flatMap fun start =>
        partAt store.file.parts start.1).filter (scope.meetsRow reader) =
      store.file.rows.filter (scope.meetsRow reader) := by
    have hlengths : store.file.rowCounts.length = store.file.parts.length := by
      rw [SnapFile.rowCounts, List.length_map, length_parts]
    rw [← List.flatMap_map Prod.fst (partAt store.file.parts),
      map_fst_zip_partStarts hlengths hselected]
    refine filter_selectedParts _ hselected ?_
    intro i hi row hrow
    by_contra hmeets
    have hmeets := Bool.eq_true_of_not_eq_false hmeets
    obtain ⟨rowGroup, hmem, hrow, box, hbox, hmisses⟩ := pruned_of_notMem_candidates hopen hi hrow
    cases scope with
    | all => exact hmisses rfl
    | bbox extent =>
      obtain ⟨geometry, hdecoded, hintersects⟩ := (Option.any_eq_true _ _).1 hmeets
      obtain ⟨bound, hbound, hrect⟩ := hgeo geometry extent.rect hintersects
      obtain ⟨bounds, hbounds⟩ := bounds_of_groupBox (htrue _ hmem) hbox hrow
      have hfile : row ∈ store.file.rows :=
        List.mem_flatten.2 ⟨_, List.mem_map_of_mem hmem, hrow⟩
      have hone := hwithin row hfile bounds hbounds geometry hdecoded bound hbound
      have hcovers := coversBounds_of_groupBox (htrue _ hmem) hbox hrow hbounds
        (numbers_of_withinOneStep hone)
      exact hmisses (mayIntersect_of_covers hcovers hone hrect)
  have hvisits : Visits reader callback _ s (store.visit reader scope callback s) :=
    visits_rowGroups store ((store.candidates scope.mayIntersect).zip
      (partStarts (store.candidates scope.mayIntersect) store.file.rowCounts 0 0)) s
  rwa [hrows] at hvisits

end SnapStore

end

/-! ### The second point -/

/-- An extent around the second point. -/
def pointExtent : SnapExtent :=
  ⟨.finite (3 / 2), .finite (3 / 2), .finite (5 / 2), .finite (5 / 2), by decide +kernel⟩

theorem pointReader_intersects (geometry : SnapGeometry) (rect : F64Rect)
    (h : pointReader.intersects geometry rect = true) :
    ∃ bound, pointReader.boundingRect geometry = some bound ∧ bound.intersectInclusive rect = true := by
  cases geometry with
  | point coord => exact ⟨pointRect coord, rfl, h⟩
  | lineString coords => cases h
  | other typeName coords => cases h

theorem pointFile_withinOneStep : ∀ row ∈ pointFile.rows, ∀ bounds,
    row.bbox = some (.ofBounds bounds) → ∀ geometry, row.decoded pointReader = some geometry →
      ∀ bound, pointReader.boundingRect geometry = some bound → WithinOneStep bounds bound := by
  have hstep : ∀ {v : F32} {n : F64} {bounds : SnapBounds} {bound : F64Rect},
      v.nextDown.toF64.le n = true → n.le v.nextUp.toF64 = true →
      some (BboxLeaves.mk (some v) (some v) (some v) (some v)) = some (.ofBounds bounds) →
      pointReader.boundingRect (.point ⟨n, n⟩) = some bound → WithinOneStep bounds bound := by
    intro v n bounds bound hdown hup hbounds hbound
    obtain rfl : pointRect ⟨n, n⟩ = bound := Option.some.inj hbound
    obtain ⟨xmin, ymin, xmax, ymax⟩ := bounds
    simp only [BboxLeaves.ofBounds, Option.some.injEq, BboxLeaves.mk.injEq] at hbounds
    obtain ⟨rfl, rfl, rfl, rfl⟩ := hbounds
    exact ⟨⟨hdown, hup⟩, ⟨hdown, hup⟩, ⟨hdown, hup⟩, ⟨hdown, hup⟩⟩
  intro row hrow bounds hbounds geometry hdecoded bound hbound
  have hrows : pointFile.rows = [pointRow 1 one32 wkbOne, pointRow 2 two32 wkbTwo] := rfl
  rw [hrows, List.mem_cons, List.mem_singleton] at hrow
  obtain rfl | rfl := hrow
  · have hone : (pointRow 1 one32 wkbOne).decoded pointReader = some (.point ⟨.finite 1, .finite 1⟩) := by
      decide +kernel
    obtain rfl := Option.some.inj (hone.symm.trans hdecoded)
    exact hstep (by decide +kernel) (by decide +kernel) hbounds hbound
  · have htwo : (pointRow 2 two32 wkbTwo).decoded pointReader = some (.point ⟨.finite 2, .finite 2⟩) := by
      decide +kernel
    obtain rfl := Option.some.inj (htwo.symm.trans hdecoded)
    exact hstep (by decide +kernel) (by decide +kernel) hbounds hbound

/-- The visit that collects snap ids. -/
theorem visit_visits_points :
    SnapStore.Visits pointReader (fun ids found => (.ok (ids ++ [found.target.id]) : Except String _))
      [pointRow 2 two32 wkbTwo] [] (pointStore.visit pointReader (.bbox pointExtent)
        (fun ids found => .ok (ids ++ [found.target.id])) []) := by
  have hrows : pointFile.rows.filter ((SnapScope.bbox pointExtent).meetsRow pointReader) =
      [pointRow 2 two32 wkbTwo] := by decide +kernel
  have hvisits := SnapStore.visit_visits openObject_pointFile pointFile_statisticsTrue
    pointReader_intersects pointFile_withinOneStep (.bbox pointExtent)
    (fun ids found => (.ok (ids ++ [found.target.id]) : Except String _)) []
  rwa [hrows] at hvisits

end Pourpoint
