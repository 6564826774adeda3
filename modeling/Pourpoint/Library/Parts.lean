import Pourpoint.Library.Sorted
import Pourpoint.Library.Success

/-!
# Lists stored in parts

A list is stored as a list of parts. A reader selects parts by their indices and reads each of them in
chunks, with the position of the chunk in the whole list. When what a chunk gives is decided item by
item, reading the selected parts is a loop over their items (`toOption_readParts`), and parts that
contribute nothing can be left out (`flatMap_selectedParts`).
-/

namespace Library

section

variable {ε α β : Type}

/-- The chunks of a part in order, each with its position. -/
def readChunks (extract : List α → ℕ → Except ε (List β)) : List (List α) → ℕ → Except ε (List β)
  | [], _ => .ok []
  | chunk :: chunks, position => do
    let found ← extract chunk position
    let rest ← readChunks extract chunks (position + chunk.length)
    .ok (found ++ rest)

/-- The position at which each selected part starts, from the lengths of the parts. -/
def partStarts (selected : List ℕ) : List ℕ → ℕ → ℕ → List ℕ
  | [], _, _ => []
  | length :: lengths, index, position =>
    (if index ∈ selected then [position] else []) ++
      partStarts selected lengths (index + 1) (position + length)

/-- The selected parts in order. -/
def readParts (read : ℕ → ℕ → Except ε (List β)) (selected : List ℕ) (lengths : List ℕ) :
    Except ε (List β) := do
  let results ← (selected.zip (partStarts selected lengths 0 0)).mapM fun start =>
    read start.1 start.2
  .ok results.flatten

/-- The part at an index, empty when there is none. -/
def partAt (parts : List (List α)) (index : ℕ) : List α := parts[index]?.getD []

variable {extract : List α → ℕ → Except ε (List β)} {f : α → Option (List β)}

theorem mapM_fst_zipIdx {δ : Type} (g : α → Option δ) (l : List α) (n : ℕ) :
    ((l.zipIdx n).mapM fun x => g x.1) = l.mapM g := by
  have h := List.mapM_map (m := Option) (f := Prod.fst) (g := g) (l := l.zipIdx n)
  rw [List.zipIdx_map_fst] at h
  exact h.symm

theorem toOption_readChunks
    (hextract : ∀ chunk position, (extract chunk position).toOption =
      (chunk.mapM f).map List.flatten)
    (chunks : List (List α)) (position : ℕ) :
    (readChunks extract chunks position).toOption = (chunks.flatten.mapM f).map List.flatten := by
  induction chunks generalizing position with
  | nil => rfl
  | cons chunk chunks ih =>
    rw [readChunks, toOption_bind, hextract, List.flatten_cons, List.mapM_append]
    simp only [toOption_bind, ih, toOption_ok]
    cases chunk.mapM f with
    | none => rfl
    | some bs =>
      cases chunks.flatten.mapM f with
      | none => rfl
      | some bss => simp

theorem exists_of_readChunks {chunks : List (List α)} {position : ℕ} {found : List β}
    (h : readChunks extract chunks position = .ok found) {chunk : List α} (hchunk : chunk ∈ chunks) :
    ∃ start out, extract chunk start = .ok out := by
  induction chunks generalizing position found with
  | nil => exact absurd hchunk List.not_mem_nil
  | cons first chunks ih =>
    obtain ⟨out, hfirst, h⟩ := bind_eq_ok_iff.1 h
    obtain ⟨rest, hrest, -⟩ := bind_eq_ok_iff.1 h
    rcases List.mem_cons.1 hchunk with rfl | hchunk
    · exact ⟨position, out, hfirst⟩
    · exact ih hrest hchunk

theorem length_partStarts (selected lengths : List ℕ) (index position : ℕ) :
    (partStarts selected lengths index position).length =
      ((List.range' index lengths.length).filter (· ∈ selected)).length := by
  induction lengths generalizing index position with
  | nil => rfl
  | cons length lengths ih =>
    rw [partStarts, List.length_append, ih, List.length_cons, List.range'_succ]
    by_cases hmem : index ∈ selected
    · simp [hmem, Nat.add_comm]
    · simp [hmem]

theorem map_fst_zip_partStarts {selected lengths : List ℕ} {n : ℕ} (hlengths : lengths.length = n)
    (hselected : selected = (List.range n).filter (· ∈ selected)) :
    (selected.zip (partStarts selected lengths 0 0)).map Prod.fst = selected := by
  refine List.map_fst_zip ?_
  rw [length_partStarts, hlengths, ← List.range_eq_range', ← hselected]

/-- **Reading.** The selected parts give their items in order, each read once. -/
theorem toOption_readParts {read : ℕ → ℕ → Except ε (List β)} {parts : List (List α)}
    {selected lengths : List ℕ} (hlengths : lengths.length = parts.length)
    (hselected : selected = (List.range parts.length).filter (· ∈ selected))
    (hread : ∀ i ∈ selected, ∀ position, (read i position).toOption =
      ((partAt parts i).mapM f).map List.flatten) :
    (readParts read selected lengths).toOption =
      ((selected.flatMap (partAt parts)).mapM f).map List.flatten := by
  have hpart : ∀ start ∈ selected.zip (partStarts selected lengths 0 0),
      (read start.1 start.2).toOption = ((partAt parts start.1).mapM f).map List.flatten :=
    fun start hstart => hread start.1 (List.of_mem_zip hstart).1 start.2
  have hfst := List.mapM_map (m := Option) (f := Prod.fst)
    (g := fun i => ((partAt parts i).mapM f).map List.flatten)
    (l := selected.zip (partStarts selected lengths 0 0))
  rw [map_fst_zip_partStarts hlengths hselected] at hfst
  rw [readParts, toOption_bind, toOption_mapM, mapM_congr hpart]
  show Option.bind (List.mapM ((fun i => ((partAt parts i).mapM f).map List.flatten) ∘ Prod.fst) _)
    _ = _
  rw [← hfst, ← mapM_map_flatten]
  exact Option.map_eq_bind.symm

theorem exists_of_readParts {read : ℕ → ℕ → Except ε (List β)} {selected lengths : List ℕ} {n : ℕ}
    (hlengths : lengths.length = n) (hselected : selected = (List.range n).filter (· ∈ selected))
    {found : List β} (h : readParts read selected lengths = .ok found) {i : ℕ} (hi : i ∈ selected) :
    ∃ start out, read i start = .ok out := by
  obtain ⟨results, hresults, -⟩ := bind_eq_ok_iff.1 h
  rw [← toOption_eq_some_iff, toOption_mapM] at hresults
  rw [← map_fst_zip_partStarts hlengths hselected] at hi
  obtain ⟨start, hstart, rfl⟩ := List.mem_map.1 hi
  obtain ⟨out, hout⟩ := Option.isSome_iff_exists.1 ((mapM_eq_some_iff.1 hresults).1 start hstart)
  exact ⟨start.2, out, toOption_eq_some_iff.1 hout⟩

end

section

variable {α δ : Type} {parts : List (List α)}

theorem flatten_eq_flatMap_partAt (parts : List (List α)) :
    parts.flatten = (List.range parts.length).flatMap (partAt parts) := by
  have hmap : parts = (List.range parts.length).map (partAt parts) := by
    refine List.ext_getElem (by simp) ?_
    intro i hi _
    simp [partAt, hi]
  rw [List.flatMap_def, ← hmap]

theorem mem_flatten_of_mem_partAt {i : ℕ} {a : α} (h : a ∈ partAt parts i) : a ∈ parts.flatten := by
  unfold partAt at h
  cases hget : parts[i]? with
  | none =>
    rw [hget] at h
    exact absurd h List.not_mem_nil
  | some part =>
    rw [hget] at h
    exact List.mem_flatten.2 ⟨part, List.mem_of_getElem? hget, h⟩

/-- Parts that contribute nothing can be left out. -/
theorem flatMap_selectedParts (g : α → List δ) {selected : List ℕ}
    (hselected : selected = (List.range parts.length).filter (· ∈ selected))
    (hothers : ∀ i, i ∉ selected → ∀ a ∈ partAt parts i, g a = []) :
    (selected.flatMap (partAt parts)).flatMap g = parts.flatten.flatMap g := by
  have hskip : ∀ l : List ℕ, ((l.filter (· ∈ selected)).flatMap fun i =>
      (partAt parts i).flatMap g) = l.flatMap fun i => (partAt parts i).flatMap g := by
    intro l
    induction l with
    | nil => rfl
    | cons i l ih =>
      by_cases hi : i ∈ selected
      · rw [List.filter_cons_of_pos (by simpa using hi), List.flatMap_cons, ih, List.flatMap_cons]
      · have hnil : (partAt parts i).flatMap g = [] := List.flatMap_eq_nil_iff.2 (hothers i hi)
        rw [List.filter_cons_of_neg (by simpa using hi), ih, List.flatMap_cons, hnil,
          List.nil_append]
  have hall := hskip (List.range parts.length)
  rw [← hselected] at hall
  rw [flatten_eq_flatMap_partAt, List.flatMap_assoc, List.flatMap_assoc, hall]

/-- Parts without elements that pass a test can be left out. -/
theorem filter_selectedParts (p : α → Bool) {selected : List ℕ}
    (hselected : selected = (List.range parts.length).filter (· ∈ selected))
    (hothers : ∀ i, i ∉ selected → ∀ a ∈ partAt parts i, p a = false) :
    (selected.flatMap (partAt parts)).filter p = parts.flatten.filter p := by
  have hfilter : ∀ l : List α, l.filter p = l.flatMap fun a => [a].filter p := by
    intro l
    rw [← List.filter_flatMap, List.flatMap_singleton']
  rw [hfilter, hfilter]
  refine flatMap_selectedParts _ hselected fun i hi a ha => ?_
  rw [List.filter_cons_of_neg (by simp [hothers i hi a ha]), List.filter_nil]

/-- A part that is left out and contributes something is missed. -/
theorem length_flatMap_selectedParts_lt (g : α → List δ) {selected : List ℕ}
    (hselected : selected = (List.range parts.length).filter (· ∈ selected)) {i : ℕ}
    (hi : i < parts.length) (hnot : i ∉ selected) {a : α} (ha : a ∈ partAt parts i) (hg : g a ≠ []) :
    ((selected.flatMap (partAt parts)).flatMap g).length < (parts.flatten.flatMap g).length := by
  have hle : ∀ l : List ℕ, ((l.filter (· ∈ selected)).flatMap fun i =>
      (partAt parts i).flatMap g).length ≤ (l.flatMap fun i => (partAt parts i).flatMap g).length :=
    fun l => (List.filter_sublist.flatMap _).length_le
  have hpart : 0 < ((partAt parts i).flatMap g).length := by
    refine List.length_pos_iff.2 fun hnil => hg ?_
    exact List.flatMap_eq_nil_iff.1 hnil a ha
  obtain ⟨before, after, hsplit⟩ := List.append_of_mem (List.mem_range.2 hi)
  have hbefore := hle before
  have hafter := hle after
  rw [flatten_eq_flatMap_partAt, List.flatMap_assoc, List.flatMap_assoc, hselected, hsplit,
    List.filter_append, List.filter_cons_of_neg (by simpa using hnot)]
  simp only [List.flatMap_append, List.flatMap_cons, List.length_append] at *
  omega

end

/-- Entries made from indexed elements have different indices. -/
theorem nodup_map_index {α β : Type} {f : α × ℕ → Option β} {key : β → ℕ}
    (hkey : ∀ x b, f x = some b → key b = x.2) (l : List α) :
    ((l.zipIdx.filterMap f).map key).Nodup := by
  have hsub : ∀ xs : List (α × ℕ), ((xs.filterMap f).map key).Sublist (xs.map (·.2)) := by
    intro xs
    induction xs with
    | nil => exact List.Sublist.slnil
    | cons x xs ih =>
      cases hfx : f x with
      | none =>
        rw [List.filterMap_cons_none hfx]
        exact ih.cons _
      | some b =>
        rw [List.filterMap_cons_some hfx, List.map_cons, List.map_cons, hkey x b hfx]
        exact ih.cons_cons _
  refine List.Nodup.sublist (hsub _) ?_
  rw [List.zipIdx_map_snd]
  exact List.nodup_range'

theorem insertionSort_eq_filter_range {l : List ℕ} {n : ℕ} (hnodup : l.Nodup)
    (hlt : ∀ i ∈ l, i < n) :
    l.insertionSort (· ≤ ·) = (List.range n).filter (· ∈ l.insertionSort (· ≤ ·)) := by
  have hperm := List.perm_insertionSort (· ≤ ·) l
  have hsorted : (l.insertionSort (· ≤ ·)).Pairwise (· < ·) := by
    have hle := List.pairwise_insertionSort (· ≤ ·) l
    have hne := (hperm.nodup_iff.2 hnodup)
    exact (hle.and hne).imp fun h => lt_of_le_of_ne h.1 h.2
  refine hsorted.eq_of_mem_iff (List.pairwise_lt_range.filter _) ?_
  intro i
  rw [List.mem_filter, List.mem_range, decide_eq_true_iff]
  exact ⟨fun h => ⟨hlt i (hperm.mem_iff.1 h), h⟩, fun h => h.2⟩

end Library
