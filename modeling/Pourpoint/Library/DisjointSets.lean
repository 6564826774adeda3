import Mathlib.Tactic

/-!
# Disjoint sets by parents

Disjoint sets of the indexes of a list that gives every index its parent. A root is its own parent, and
the set of an index is named by the root above it. A list in which every index has a root stays one when an
index is given its grandparent as its parent (`IsForest.halve`) and when a root is put below another one
(`IsForest.link`). No index is deeper than the list is long (`Ascends.lt_length`).
-/

namespace Library

variable {parents : List ℕ} {d e i j r s : ℕ}

/-- The root `r` is `d` steps above `i`. -/
inductive Ascends (parents : List ℕ) : ℕ → ℕ → ℕ → Prop
  | root {r : ℕ} : parents[r]? = some r → Ascends parents 0 r r
  | step {d i parent r : ℕ} : parents[i]? = some parent → parent ≠ i → Ascends parents d parent r →
      Ascends parents (d + 1) i r

/-- The set of `i` is named by `r`. -/
def Represents (parents : List ℕ) (i r : ℕ) : Prop := ∃ d, Ascends parents d i r

/-- Both lead to one root. -/
def SameSet (parents : List ℕ) (i j : ℕ) : Prop := ∃ r, Represents parents i r ∧ Represents parents j r

/-- Every index has a root. -/
def IsForest (parents : List ℕ) : Prop := ∀ i < parents.length, ∃ r, Represents parents i r

/-! ## Roots -/

theorem Ascends.index_lt (h : Ascends parents d i r) : i < parents.length := by
  cases h with
  | root h => exact (List.getElem?_eq_some_iff.1 h).1
  | step h _ _ => exact (List.getElem?_eq_some_iff.1 h).1

theorem Ascends.isRoot (h : Ascends parents d i r) : parents[r]? = some r := by
  induction h with
  | root h => exact h
  | step _ _ _ ih => exact ih

/-- The root and the depth of an index are determined. -/
theorem Ascends.unique (h : Ascends parents d i r) (h' : Ascends parents e i s) : d = e ∧ r = s := by
  induction h generalizing e s with
  | root hroot =>
    cases h' with
    | root _ => exact ⟨rfl, rfl⟩
    | step hparent hne _ => exact absurd (Option.some.inj (hparent.symm.trans hroot)) hne
  | step hparent hne _ ih =>
    cases h' with
    | root hroot => exact absurd (Option.some.inj (hparent.symm.trans hroot)) hne
    | step hparent' _ h' =>
      obtain rfl := Option.some.inj (hparent.symm.trans hparent')
      obtain ⟨rfl, rfl⟩ := ih h'
      exact ⟨rfl, rfl⟩

theorem Represents.unique (h : Represents parents i r) (h' : Represents parents i s) : r = s := by
  obtain ⟨d, hd⟩ := h
  obtain ⟨e, he⟩ := h'
  exact (hd.unique he).2

theorem Represents.isRoot (h : Represents parents i r) : parents[r]? = some r := by
  obtain ⟨d, hd⟩ := h
  exact hd.isRoot

theorem represents_root (h : parents[r]? = some r) : Represents parents r r := ⟨0, .root h⟩

theorem Ascends.parent (h : Ascends parents d i r) :
    ∃ parent e, parents[i]? = some parent ∧ e ≤ d ∧ Ascends parents e parent r := by
  cases h with
  | root hroot => exact ⟨_, 0, hroot, le_rfl, .root hroot⟩
  | @step d _ parent _ hparent _ hascends => exact ⟨parent, d, hparent, Nat.le_succ d, hascends⟩

theorem represents_iff_sameSet (h : Represents parents j r) :
    Represents parents i r ↔ SameSet parents i j := by
  constructor
  · intro hi
    exact ⟨r, hi, h⟩
  · rintro ⟨s, hi, hj⟩
    rwa [h.unique hj]

theorem Ascends.exists_of_le (h : Ascends parents d i r) (he : e ≤ d) : ∃ j, Ascends parents e j r := by
  induction h with
  | root hroot =>
    obtain rfl := Nat.le_zero.1 he
    exact ⟨_, .root hroot⟩
  | step hparent hne hascends ih =>
    rcases Nat.le_succ_iff.1 he with he | rfl
    · exact ih he
    · exact ⟨_, .step hparent hne hascends⟩

/-- **No index is deeper than the list is long**: the indexes on the way up have different depths. -/
theorem Ascends.lt_length (h : Ascends parents d i r) : d < parents.length := by
  choose! index hindex using fun e (he : e ≤ d) => h.exists_of_le he
  have hmaps : ∀ e ∈ Finset.range (d + 1), index e ∈ Finset.range parents.length := by
    intro e he
    rw [Finset.mem_range, Nat.lt_succ_iff] at he
    exact Finset.mem_range.2 (hindex e he).index_lt
  have hinj : Set.InjOn index (Finset.range (d + 1)) := by
    intro e he e' he' heq
    simp only [Finset.coe_range, Set.mem_Iio, Nat.lt_succ_iff] at he he'
    exact ((hindex e he).unique (heq ▸ hindex e' he')).1
  simpa using Finset.card_le_card_of_injOn index hmaps hinj

/-! ## Changes of parents -/

theorem IsForest.congr {parents' : List ℕ} (h : IsForest parents)
    (hlength : parents'.length = parents.length)
    (hkeep : ∀ i r, Represents parents i r → Represents parents' i r) :
    IsForest parents' ∧ ∀ i r, Represents parents' i r ↔ Represents parents i r := by
  refine ⟨fun i hi => ?_, fun i r => ⟨fun hr => ?_, hkeep i r⟩⟩
  · obtain ⟨r, hr⟩ := h i (hlength ▸ hi)
    exact ⟨r, hkeep i r hr⟩
  · obtain ⟨d, hd⟩ := hr
    obtain ⟨s, hs⟩ := h i (hlength ▸ hd.index_lt)
    rwa [Represents.unique ⟨d, hd⟩ (hkeep i s hs)]

/-- The grandparent in the place of the parent makes nothing deeper. -/
theorem Ascends.halve {node parent grandparent : ℕ} (hnode : parents[node]? = some parent)
    (hne : parent ≠ node) (hparent : parents[parent]? = some grandparent) (h : Ascends parents d i r) :
    ∃ e ≤ d, Ascends (parents.set node grandparent) e i r := by
  have hlt : node < parents.length := (List.getElem?_eq_some_iff.1 hnode).1
  have hset : (parents.set node grandparent)[node]? = some grandparent := List.getElem?_set_self hlt
  have hother : ∀ {k}, k ≠ node → (parents.set node grandparent)[k]? = parents[k]? :=
    fun hk => List.getElem?_set_ne hk.symm
  induction d using Nat.strong_induction_on generalizing i with
  | _ d ih =>
    cases h with
    | root hroot =>
      have hk : r ≠ node := by
        rintro rfl
        exact hne (Option.some.inj (hnode.symm.trans hroot))
      exact ⟨0, le_rfl, .root ((hother hk).trans hroot)⟩
    | @step d _ above _ habove habovene hascends =>
      by_cases hk : i = node
      · subst hk
        obtain rfl := Option.some.inj (hnode.symm.trans habove)
        cases hascends with
        | root hroot =>
          obtain rfl := Option.some.inj (hparent.symm.trans hroot)
          exact ⟨1, le_rfl, .step hset hne (.root ((hother hne).trans hroot))⟩
        | @step d _ above _ habove' hne' hascends' =>
          obtain rfl := Option.some.inj (hparent.symm.trans habove')
          obtain ⟨e, he, he'⟩ := ih d (by omega) hascends'
          refine ⟨e + 1, by omega, .step hset ?_ he'⟩
          -- An index is not its own grandparent: it would have two depths.
          rintro rfl
          have hdepth := (hascends'.unique (.step hnode hne (.step hparent hne' hascends'))).1
          omega
      · obtain ⟨e, he, he'⟩ := ih d (by omega) hascends
        exact ⟨e + 1, by omega, .step ((hother hk).trans habove) habovene he'⟩

/-- **Path halving** keeps the sets. -/
theorem IsForest.halve (h : IsForest parents) {node parent grandparent : ℕ}
    (hnode : parents[node]? = some parent) (hne : parent ≠ node)
    (hparent : parents[parent]? = some grandparent) :
    IsForest (parents.set node grandparent) ∧
      ∀ i r, Represents (parents.set node grandparent) i r ↔ Represents parents i r := by
  refine h.congr List.length_set ?_
  rintro i r ⟨d, hd⟩
  obtain ⟨e, -, he⟩ := hd.halve hnode hne hparent
  exact ⟨e, he⟩

/-- A root below another root. -/
theorem Represents.link {a b : ℕ} (ha : parents[a]? = some a) (hb : parents[b]? = some b) (hab : a ≠ b)
    (h : Represents parents i r) : Represents (parents.set b a) i (if r = b then a else r) := by
  have hset : (parents.set b a)[b]? = some a :=
    List.getElem?_set_self (List.getElem?_eq_some_iff.1 hb).1
  have hother : ∀ {k}, k ≠ b → (parents.set b a)[k]? = parents[k]? :=
    fun hk => List.getElem?_set_ne hk.symm
  obtain ⟨d, hd⟩ := h
  induction hd with
  | @root r hroot =>
    split_ifs with hr
    · subst hr
      exact ⟨1, .step hset hab (.root ((hother hab).trans ha))⟩
    · exact ⟨0, .root ((hother hr).trans hroot)⟩
  | @step d i parent r hparent hne _ ih =>
    have hi : i ≠ b := by
      rintro rfl
      exact hne (Option.some.inj (hparent.symm.trans hb))
    obtain ⟨e, he⟩ := ih
    exact ⟨e + 1, .step ((hother hi).trans hparent) hne he⟩

/-- **A link** joins two sets. -/
theorem IsForest.link (h : IsForest parents) {a b : ℕ} (ha : parents[a]? = some a)
    (hb : parents[b]? = some b) (hab : a ≠ b) :
    IsForest (parents.set b a) ∧ ∀ i < parents.length, ∀ j < parents.length,
      (SameSet (parents.set b a) i j ↔ SameSet parents i j ∨
        (Represents parents i a ∧ Represents parents j b) ∨
        (Represents parents i b ∧ Represents parents j a)) := by
  refine ⟨fun i hi => ?_, fun i hi j hj => ?_⟩
  · obtain ⟨r, hr⟩ := h i (List.length_set ▸ hi)
    exact ⟨_, hr.link ha hb hab⟩
  · obtain ⟨r, hr⟩ := h i hi
    obtain ⟨s, hs⟩ := h j hj
    have hname : ∀ {k t u}, Represents parents k t → (Represents parents k u ↔ t = u) :=
      fun ht => ⟨fun hu => ht.unique hu, fun htu => htu ▸ ht⟩
    have hsame : ∀ {parents : List ℕ} {k l t u}, Represents parents k t → Represents parents l u →
        (SameSet parents k l ↔ t = u) := by
      intro parents k l t u ht hu
      constructor
      · rintro ⟨v, hv, hv'⟩
        rw [ht.unique hv, hu.unique hv']
      · rintro rfl
        exact ⟨t, ht, hu⟩
    rw [hsame (hr.link ha hb hab) (hs.link ha hb hab), hsame hr hs, hname hr, hname hs, hname hr,
      hname hs]
    grind

theorem represents_range {n : ℕ} (hi : i < n) : Represents (List.range n) i i :=
  represents_root (List.getElem?_range hi)

end Library
