import Pourpoint.Snaps.Store

/-!
# What a read of a snap file gives

The value of `extract_snap_targets_from_batch` without its error texts: `rowTarget?` decides for one row
whether it is valid and what the filter keeps of it, so that a batch, a row group and a selection of row
groups give the targets of their rows in order (`toOption_readTargets`). The targets of the rows that
pass are `SnapTargetRow.ReadFrom` them.
-/

namespace Pourpoint

open Library

section

variable (reader : SnapReader)

/-! ## One row -/

/-- The geometry of a row that passes validation. -/
def validGeometry (wkb : List UInt8) : Option SnapGeometry :=
  (validateSnapGeometry reader wkb 0).toOption

/-- The supplied bounds of a row that passes validation. -/
def validBounds (bbox : Option BboxLeaves) : Option (Option SnapBounds) :=
  (suppliedBounds reader bbox 0).toOption

/-- The box of a row that has a valid one. -/
def validBox (filter : SnapRowFilter) (supplied : Option SnapBounds) (geometry : SnapGeometry) :
    Option (Option UnitBox) :=
  (rowBox reader filter supplied geometry 0).toOption

/-- The stem role of a row that passes validation. -/
def validStemRole : Option String → Option (Option StemRole)
  | none => some none
  | some value => (reader.stemRole value).map some

/-- What the filter keeps of a row, `none` when the row is not valid. -/
def rowTarget? (filter : SnapRowFilter) (row : SnapRow) : Option (Option SnapTargetRow) := do
  let id ← row.id
  let unitId ← row.unitId
  let weight ← row.weight
  let wkb ← row.geometry
  guard (reader.wkbGeometry wkb = none)
  let geometry ← validGeometry reader wkb
  let supplied ← validBounds reader row.bbox
  let box ← validBox reader filter supplied geometry
  if !filterMatches reader filter box geometry then
    some none
  else
    guard (reader.snapId id = none)
    guard (reader.unitId unitId = none)
    guard (reader.weight weight = none)
    let stemRole ← validStemRole reader row.stemRole
    some (some ⟨⟨id, unitId, weight, stemRole, box, wkb⟩, supplied⟩)

end

variable {reader : SnapReader}

@[simp]
theorem toOption_requireCell {α : Type} (name : String) (n : ℕ) (cell : Option α) :
    (requireCell name n cell).toOption = cell := by
  cases cell <;> rfl

@[simp]
theorem toOption_checkCell (label : String) (n : ℕ) (error : Option String) :
    (checkCell label n error).toOption = guard (error = none) := by
  cases error <;> rfl

@[simp]
theorem toOption_invalidSnapRow {α : Type} (n : ℕ) (reason : String) :
    (invalidSnapRow n reason : Except SnapReadError α).toOption = none := rfl

@[simp]
theorem toOption_validateSnapGeometry (wkb : List UInt8) (n : ℕ) :
    (validateSnapGeometry reader wkb n).toOption = validGeometry reader wkb := by
  simp only [validGeometry, validateSnapGeometry]
  cases reader.toGeo wkb with
  | error reason => rfl
  | ok geometry =>
    dsimp only
    split_ifs
    · rfl
    · cases geometry with
      | point coord => rfl
      | other typeName coords => rfl
      | lineString coords =>
        dsimp only
        split_ifs <;> rfl

theorem toOption_checkSnapBounds (bounds : SnapBounds) (n m : ℕ) :
    (checkSnapBounds reader bounds n).toOption = (checkSnapBounds reader bounds m).toOption := by
  unfold checkSnapBounds
  split_ifs <;> rfl

@[simp]
theorem toOption_suppliedBounds (bbox : Option BboxLeaves) (n : ℕ) :
    (suppliedBounds reader bbox n).toOption = validBounds reader bbox := by
  unfold validBounds suppliedBounds
  split
  · rfl
  · rw [toOption_map, toOption_map, toOption_checkSnapBounds]
  · rfl

theorem toOption_snapBbox (bounds : SnapBounds) (n m : ℕ) :
    (snapBbox reader bounds n).toOption = (snapBbox reader bounds m).toOption := by
  unfold snapBbox
  dsimp only
  split <;> rfl

@[simp]
theorem toOption_rowBox (filter : SnapRowFilter) (supplied : Option SnapBounds)
    (geometry : SnapGeometry) (n : ℕ) :
    (rowBox reader filter supplied geometry n).toOption =
      validBox reader filter supplied geometry := by
  unfold validBox rowBox
  cases filter with
  | geometry scope => rfl
  | boundingBox query =>
    cases supplied with
    | some bounds =>
      dsimp only
      rw [toOption_map, toOption_map, toOption_snapBbox]
    | none =>
      simp only [toOption_map, bboxFromSnapGeometry]
      cases reader.boundingRect geometry with
      | none => rfl
      | some rect => exact congrArg (Option.map some) (toOption_snapBbox _ n 0)

@[simp]
theorem toOption_readStemRole (cell : Option String) (n : ℕ) :
    (readStemRole reader cell n).toOption = validStemRole reader cell := by
  cases cell with
  | none => rfl
  | some value =>
    simp only [readStemRole, validStemRole]
    cases reader.stemRole value <;> rfl

theorem toOption_extractSnapTarget (filter : SnapRowFilter) (row : SnapRow) (n : ℕ) :
    (extractSnapTarget reader filter row n).toOption = rowTarget? reader filter row := by
  simp only [extractSnapTarget, rowTarget?, toOption_bind, toOption_requireCell, toOption_checkCell,
    toOption_validateSnapGeometry, toOption_suppliedBounds, toOption_rowBox,
    apply_ite Except.toOption, toOption_readStemRole, toOption_ok]
  rfl

/-! ## Batches and row groups -/

/-- What the filter keeps of a row, as a list of at most one target. -/
def rowTargets? (reader : SnapReader) (filter : SnapRowFilter) (row : SnapRow) :
    Option (List SnapTargetRow) :=
  (rowTarget? reader filter row).map Option.toList

theorem map_reduceOption_mapM {α β : Type} (f : α → Option (Option β)) (l : List α) :
    (l.mapM f).map List.reduceOption = (l.mapM fun a => (f a).map Option.toList).map List.flatten := by
  have hflat : List.reduceOption = List.flatMap (Option.toList : Option β → List β) := by
    funext l
    exact List.filterMap_eq_flatMap_toList id l
  rw [hflat, mapM_map_flatMap]

theorem toOption_extractBatch (filter : SnapRowFilter) (batch : List SnapRow) (n : ℕ) :
    (extractSnapTargetsFromBatch reader filter batch n).toOption =
      (batch.mapM (rowTargets? reader filter)).map List.flatten := by
  have hrows : ((batch.zipIdx n).mapM fun row => extractSnapTarget reader filter row.1 row.2).toOption =
      batch.mapM (rowTarget? reader filter) := by
    rw [toOption_mapM, ← mapM_fst_zipIdx _ batch n]
    exact mapM_congr fun row _ => toOption_extractSnapTarget filter row.1 row.2
  show _ = (batch.mapM fun row => (rowTarget? reader filter row).map Option.toList).map List.flatten
  rw [← map_reduceOption_mapM, ← hrows, extractSnapTargetsFromBatch, toOption_bind]
  exact Option.map_eq_bind.symm

namespace SnapStore

variable {store : SnapStore}

theorem length_parts (file : SnapFile) : file.parts.length = file.rowGroups.length :=
  List.length_map _

theorem partAt_parts {file : SnapFile} {i : ℕ} {rowGroup : SnapRowGroup}
    (h : file.rowGroups[i]? = some rowGroup) : partAt file.parts i = rowGroup.rows := by
  rw [partAt, SnapFile.parts, List.getElem?_map, h]
  rfl

theorem toOption_readRowGroup {ε β : Type} {size : ℕ} {missing : ℕ → ε}
    {extract : List SnapRow → ℕ → Except ε (List β)} {f : SnapRow → Option (List β)}
    (hextract : ∀ batch n, (extract batch n).toOption = (batch.mapM f).map List.flatten)
    {i : ℕ} (hi : i < store.file.rowGroups.length) (start : ℕ) :
    (store.readRowGroup size missing extract i start).toOption =
      ((partAt store.file.parts i).mapM f).map List.flatten := by
  have hget := List.getElem?_eq_getElem hi
  rw [readRowGroup, hget, partAt_parts hget]
  dsimp only
  rw [toOption_readChunks hextract, SnapRowGroup.flatten_batches]

theorem toOption_readSelected {ε β : Type} {size : ℕ} {missing : ℕ → ε}
    {extract : List SnapRow → ℕ → Except ε (List β)} {f : SnapRow → Option (List β)}
    (hextract : ∀ batch n, (extract batch n).toOption = (batch.mapM f).map List.flatten)
    {selected : List ℕ}
    (hselected : selected = (List.range store.file.parts.length).filter (· ∈ selected)) :
    (readParts (store.readRowGroup size missing extract) selected store.file.rowCounts).toOption =
      ((selected.flatMap (partAt store.file.parts)).mapM f).map List.flatten := by
  refine toOption_readParts ?_ hselected ?_
  · rw [SnapFile.rowCounts, List.length_map, length_parts]
  · intro i hi start
    rw [hselected, List.mem_filter, List.mem_range, length_parts] at hi
    exact toOption_readRowGroup hextract hi.1 start

end SnapStore

end Pourpoint
