import Mathlib.Data.List.Basic
import Mathlib.Tactic

/-!
# What a fallible computation returns

`toOption` forgets which error a computation fails with. It commutes with sequencing, so the value of a
loop over a list is that of the loop without error texts, and `mapM_eq_some_iff` reads it off: a loop
returns exactly when every step does, and then it returns their values in order.
-/

namespace Library

variable {ε ε' α β γ : Type}

@[simp]
theorem toOption_ok (a : α) : (Except.ok a : Except ε α).toOption = some a := rfl

@[simp]
theorem toOption_error (e : ε) : (Except.error e : Except ε α).toOption = none := rfl

@[simp]
theorem toOption_pure (a : α) : (pure a : Except ε α).toOption = some a := rfl

@[simp]
theorem toOption_mapError (f : ε → ε') (x : Except ε α) : (x.mapError f).toOption = x.toOption := by
  cases x <;> rfl

@[simp]
theorem toOption_bind (x : Except ε α) (f : α → Except ε β) :
    (x >>= f).toOption = x.toOption.bind fun a => (f a).toOption := by
  cases x <;> rfl

@[simp]
theorem toOption_map (f : α → β) (x : Except ε α) : (f <$> x).toOption = x.toOption.map f := by
  cases x <;> rfl

theorem toOption_eq_some_iff {x : Except ε α} {a : α} : x.toOption = some a ↔ x = .ok a := by
  cases x with
  | error e => simp
  | ok b => simp

theorem bind_eq_ok_iff {x : Except ε α} {f : α → Except ε β} {b : β} :
    (x >>= f) = .ok b ↔ ∃ a, x = .ok a ∧ f a = .ok b := by
  cases x with
  | error e =>
    show Except.error e = .ok b ↔ _
    simp
  | ok a =>
    show f a = .ok b ↔ _
    simp

theorem mapError_eq_ok_iff {f : ε → ε'} {x : Except ε α} {a : α} : x.mapError f = .ok a ↔ x = .ok a := by
  rw [← toOption_eq_some_iff, toOption_mapError, toOption_eq_some_iff]

theorem exists_mapM {f : α → Except ε β} {l : List α} (h : ∀ a ∈ l, ∃ b, f a = .ok b) :
    ∃ bs, l.mapM f = .ok bs := by
  induction l with
  | nil => exact ⟨[], rfl⟩
  | cons a l ih =>
    obtain ⟨b, hb⟩ := h a List.mem_cons_self
    obtain ⟨bs, hbs⟩ := ih fun c hc => h c (List.mem_cons_of_mem _ hc)
    rw [List.mapM_cons]
    exact ⟨b :: bs, bind_eq_ok_iff.2 ⟨b, hb, bind_eq_ok_iff.2 ⟨bs, hbs, rfl⟩⟩⟩

theorem toOption_mapM (f : α → Except ε β) (l : List α) :
    (l.mapM f).toOption = l.mapM fun a => (f a).toOption := by
  induction l with
  | nil => rfl
  | cons a l ih =>
    rw [List.mapM_cons, List.mapM_cons, toOption_bind]
    simp only [toOption_bind, toOption_pure, ih]
    rfl

/-- A loop returns exactly when every step does, and returns their values in order. -/
theorem mapM_eq_some_iff {f : α → Option β} {l : List α} {bs : List β} :
    l.mapM f = some bs ↔ (∀ a ∈ l, (f a).isSome) ∧ l.filterMap f = bs := by
  induction l generalizing bs with
  | nil => simp
  | cons a l ih =>
    rw [List.mapM_cons]
    cases hfa : f a with
    | none => simp [hfa]
    | some b =>
      rw [List.filterMap_cons_some hfa]
      show ((l.mapM f).bind fun bs => some (b :: bs)) = some bs ↔ _
      rw [Option.bind_eq_some_iff]
      constructor
      · intro h
        obtain ⟨rest, hrest, heq⟩ := h
        obtain ⟨hall, rfl⟩ := ih.1 hrest
        refine ⟨?_, Option.some.inj heq⟩
        intro c hc
        rcases List.mem_cons.1 hc with rfl | hc
        · simp [hfa]
        · exact hall c hc
      · intro h
        obtain ⟨hall, heq⟩ := h
        exact ⟨_, ih.2 ⟨fun c hc => hall c (List.mem_cons_of_mem _ hc), rfl⟩, congrArg some heq⟩

theorem mapM_of_isSome {f : α → Option β} {l : List α} (h : ∀ a ∈ l, (f a).isSome) :
    l.mapM f = some (l.filterMap f) :=
  mapM_eq_some_iff.2 ⟨h, rfl⟩

/-- Loops in loops: the inner lists can be joined first. -/
theorem mapM_map_flatten (f : α → Option (List β)) (g : γ → List α) (l : List γ) :
    (l.mapM fun c => ((g c).mapM f).map List.flatten).map List.flatten =
      ((l.flatMap g).mapM f).map List.flatten := by
  induction l with
  | nil => rfl
  | cons c l ih =>
    rw [List.flatMap_cons, List.mapM_append, List.mapM_cons]
    cases (g c).mapM f with
    | none => rfl
    | some bs =>
      have hcons : ∀ x : Option (List (List β)), (x.bind fun bss => some (bs.flatten :: bss)).map
          List.flatten = (x.map List.flatten).map (bs.flatten ++ ·) := by
        intro x
        cases x with
        | none => rfl
        | some bss => simp
      show (Option.bind (l.mapM _) fun bss => some (bs.flatten :: bss)).map List.flatten = _
      rw [hcons, ih]
      cases (l.flatMap g).mapM f with
      | none => rfl
      | some bss => simp

/-- A loop whose values are taken apart afterwards. -/
theorem mapM_map_flatMap (f : α → Option β) (g : β → List γ) (l : List α) :
    (l.mapM f).map (List.flatMap g) = (l.mapM fun a => (f a).map g).map List.flatten := by
  induction l with
  | nil => rfl
  | cons a l ih =>
    rw [List.mapM_cons, List.mapM_cons]
    cases f a with
    | none => rfl
    | some b =>
      have hcons : ∀ x : Option (List (List γ)), (x.bind fun css => some (g b :: css)).map
          List.flatten = (x.map List.flatten).map (g b ++ ·) := by
        intro x
        cases x with
        | none => rfl
        | some css => simp
      show _ = (Option.bind (l.mapM _) fun css => some (g b :: css)).map List.flatten
      rw [hcons, ← ih]
      cases l.mapM f with
      | none => rfl
      | some bs => rfl

theorem mapM_congr {f g : α → Option β} {l : List α} (h : ∀ a ∈ l, f a = g a) :
    l.mapM f = l.mapM g := by
  induction l with
  | nil => rfl
  | cons a l ih =>
    rw [List.mapM_cons, List.mapM_cons, h a List.mem_cons_self,
      ih fun b hb => h b (List.mem_cons_of_mem _ hb)]

/-- The same for a loop whose steps return lists. -/
theorem mapM_map_flatten_eq_some_iff {f : α → Option (List β)} {l : List α} {bs : List β} :
    (l.mapM f).map List.flatten = some bs ↔
      (∀ a ∈ l, (f a).isSome) ∧ (l.flatMap fun a => (f a).getD []) = bs := by
  have hflatten : ∀ l : List α, (l.filterMap f).flatten = l.flatMap fun a => (f a).getD [] := by
    intro l
    induction l with
    | nil => rfl
    | cons a l ih =>
      cases hfa : f a with
      | none => simp [hfa, ih]
      | some b => simp [hfa, ih]
  rw [Option.map_eq_some_iff, ← hflatten]
  constructor
  · intro h
    obtain ⟨bss, hbss, rfl⟩ := h
    obtain ⟨hall, rfl⟩ := mapM_eq_some_iff.1 hbss
    exact ⟨hall, rfl⟩
  · intro h
    exact ⟨_, mapM_of_isSome h.1, h.2⟩

/-! ## Lists related element by element -/

theorem exists_forall₂ {R : α → β → Prop} {l : List α} (h : ∀ a ∈ l, ∃ b, R a b) :
    ∃ l', List.Forall₂ R l l' := by
  induction l with
  | nil => exact ⟨[], .nil⟩
  | cons a l ih =>
    obtain ⟨b, hb⟩ := h a List.mem_cons_self
    obtain ⟨l', hl'⟩ := ih fun a ha => h a (List.mem_cons_of_mem _ ha)
    exact ⟨b :: l', .cons hb hl'⟩

theorem exists_of_forall₂ {R : α → β → Prop} {l : List α} {l' : List β}
    (h : List.Forall₂ R l l') {a : α} (ha : a ∈ l) : ∃ b ∈ l', R a b := by
  induction h with
  | nil => exact absurd ha List.not_mem_nil
  | cons hhead _ ih =>
    rcases List.mem_cons.1 ha with rfl | ha
    · exact ⟨_, List.mem_cons_self, hhead⟩
    · obtain ⟨b, hb, hR⟩ := ih ha
      exact ⟨b, List.mem_cons_of_mem _ hb, hR⟩

/-- A loop returns the values of its steps. -/
theorem mapM_eq_ok_iff_forall₂ {f : α → Except ε β} {l : List α} {bs : List β} :
    l.mapM f = .ok bs ↔ List.Forall₂ (fun a b => f a = .ok b) l bs := by
  induction l generalizing bs with
  | nil =>
    rw [List.mapM_nil, List.forall₂_nil_left_iff]
    constructor
    · intro h
      cases h
      rfl
    · rintro rfl
      rfl
  | cons a l ih =>
    rw [List.mapM_cons]
    simp only [bind_eq_ok_iff, ih]
    constructor
    · rintro ⟨b, hb, rest, hrest, h⟩
      cases h
      exact .cons hb hrest
    · intro h
      cases h with
      | cons hb hrest => exact ⟨_, hb, _, hrest, rfl⟩

/-- A loop that reads parts related to lists reads their concatenation. -/
theorem forall₂_flatten_of_mapM {ι : Type} {R : α → β → Prop} {f : ι → Except ε (List β)}
    {g : ι → List α} (h : ∀ i bs, f i = .ok bs → List.Forall₂ R (g i) bs) {l : List ι}
    {bss : List (List β)} (hrun : l.mapM f = .ok bss) : List.Forall₂ R (l.flatMap g) bss.flatten := by
  induction l generalizing bss with
  | nil =>
    cases hrun
    exact .nil
  | cons i l ih =>
    rw [List.mapM_cons] at hrun
    obtain ⟨bs, hbs, hrun⟩ := bind_eq_ok_iff.1 hrun
    obtain ⟨rest, hrest, hrun⟩ := bind_eq_ok_iff.1 hrun
    cases hrun
    rw [List.flatMap_cons, List.flatten_cons]
    exact List.rel_append (h i bs hbs) (ih hrest)

end Library
