import Mathlib.Tactic

/-!
# Runs of a partial step function

A system is a step function `step : S → A → Option S`, `none` where the action is not enabled. A run is
a list of actions. `Guarded ok` are the runs in which every step meets the condition `ok` in the state
before it; a property that guarded steps keep holds in the states that guarded runs reach.
-/

namespace Pourpoint

variable {S A : Type} {step : S → A → Option S} {ok : S → A → Prop}

/-- The state that a run reaches. -/
def run (step : S → A → Option S) : S → List A → Option S
  | s, [] => some s
  | s, a :: as => (step s a).bind fun s' => run step s' as

/-- Every step of the run meets the condition in the state before it. -/
def Guarded (step : S → A → Option S) (ok : S → A → Prop) : S → List A → Prop
  | _, [] => True
  | s, a :: as => ok s a ∧ ∀ s', step s a = some s' → Guarded step ok s' as

instance instDecidableGuarded [∀ s a, Decidable (ok s a)] :
    ∀ (s : S) (as : List A), Decidable (Guarded step ok s as)
  | _, [] => isTrue trivial
  | s, a :: as =>
    match h : step s a with
    | none => decidable_of_iff (ok s a) (by simp [Guarded, h])
    | some s' =>
      have := instDecidableGuarded s' as
      decidable_of_iff (ok s a ∧ Guarded step ok s' as) (by simp [Guarded, h])

theorem run_cons_eq_some {s t : S} {a : A} {as : List A} (h : run step s (a :: as) = some t) :
    ∃ s', step s a = some s' ∧ run step s' as = some t :=
  Option.bind_eq_some_iff.1 h

/-- **Invariants.** What guarded steps keep holds in every state that a guarded run reaches. -/
theorem run_invariant {Inv : S → Prop}
    (hstep : ∀ s a s', Inv s → ok s a → step s a = some s' → Inv s') {as : List A} {s t : S}
    (hs : Inv s) (hok : Guarded step ok s as) (hrun : run step s as = some t) : Inv t := by
  induction as generalizing s with
  | nil =>
    cases hrun
    exact hs
  | cons a as ih =>
    obtain ⟨s', hs', hrest⟩ := run_cons_eq_some hrun
    exact ih (hstep s a s' hs hok.1 hs') (hok.2 s' hs') hrest

theorem run_append {s t : S} {as bs : List A} (h : run step s as = some t) :
    run step s (as ++ bs) = run step t bs := by
  induction as generalizing s with
  | nil =>
    cases h
    rfl
  | cons a as ih =>
    obtain ⟨s', hs', hrest⟩ := run_cons_eq_some h
    show (step s a).bind _ = _
    rw [hs']
    exact ih hrest

/-- A guarded run is guarded up to each of its states and from there on. -/
theorem guarded_append {s t : S} {as bs : List A} (h : Guarded step ok s (as ++ bs))
    (hrun : run step s as = some t) : Guarded step ok s as ∧ Guarded step ok t bs := by
  induction as generalizing s with
  | nil =>
    cases hrun
    exact ⟨trivial, h⟩
  | cons a as ih =>
    obtain ⟨s', hs', hrest⟩ := run_cons_eq_some hrun
    have hsplit := ih (h.2 s' hs') hrest
    refine ⟨⟨h.1, ?_⟩, hsplit.2⟩
    intro s'' hs''
    rw [hs'] at hs''
    cases hs''
    exact hsplit.1

end Pourpoint
