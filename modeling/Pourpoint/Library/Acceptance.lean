import Mathlib.Data.List.Perm.Basic
import Mathlib.Tactic

/-!
# Loops that accept items one by one

A loop goes through a list with a state, and each turn makes a result of its item or refuses it. Suppose
the state stands for the entries accepted so far, and an item is accepted exactly when it makes an entry
that is compatible with all of them (`Accepts`). Then the loop runs through exactly when every item makes
an entry and the entries are pairwise compatible (`Accepts.runs_iff`). For a symmetric compatibility this
does not depend on the order of the items (`Accepts.runs_perm`).
-/

namespace Library

variable {σ α β ε : Type*}

/-- The loop runs through the items, ends in a state and collects the results of its turns. -/
inductive Runs (Step : σ → α → σ → β → Prop) : σ → List α → σ → List β → Prop
  | nil {s : σ} : Runs Step s [] s []
  | cons {s s' t : σ} {a : α} {b : β} {as : List α} {bs : List β} (head : Step s a s' b)
      (tail : Runs Step s' as t bs) : Runs Step s (a :: as) t (b :: bs)

/-- `Tracks s es` says that the state stands for the accepted entries `es`. -/
structure Accepts (Step : σ → α → σ → β → Prop) (Tracks : σ → List ε → Prop) (Makes : α → ε → Prop)
    (result : ε → β) (Compat : ε → ε → Prop) : Prop where
  accepted : ∀ {s es a s' b}, Tracks s es → Step s a s' b →
    ∃ e, Makes a e ∧ result e = b ∧ (∀ f ∈ es, Compat f e) ∧ Tracks s' (es ++ [e])
  accepts : ∀ {s es a e}, Tracks s es → Makes a e → (∀ f ∈ es, Compat f e) →
    ∃ s', Step s a s' (result e) ∧ Tracks s' (es ++ [e])

namespace Accepts

variable {Step : σ → α → σ → β → Prop} {Tracks : σ → List ε → Prop} {Makes : α → ε → Prop}
  {result : ε → β} {Compat : ε → ε → Prop}

/-- Compatible entries are accepted one after the other. -/
theorem runs_of_compat (h : Accepts Step Tracks Makes result Compat) {s : σ} {es : List ε}
    (htracks : Tracks s es) {as : List α} {new : List ε} (hmakes : List.Forall₂ Makes as new)
    (hold : ∀ f ∈ es, ∀ e ∈ new, Compat f e) (hnew : new.Pairwise Compat) :
    ∃ t, Runs Step s as t (new.map result) ∧ Tracks t (es ++ new) := by
  induction hmakes generalizing s es with
  | nil => exact ⟨s, .nil, by rwa [List.append_nil]⟩
  | @cons a e as new hmake hmakes ih =>
    obtain ⟨hhead, htail⟩ := List.pairwise_cons.1 hnew
    obtain ⟨s', hstep, htracks'⟩ := h.accepts htracks hmake fun f hf => hold f hf e List.mem_cons_self
    have hold' : ∀ f ∈ es ++ [e], ∀ e' ∈ new, Compat f e' := by
      intro f hf e' he'
      rcases List.mem_append.1 hf with hf | hf
      · exact hold f hf e' (List.mem_cons_of_mem _ he')
      · rw [List.mem_singleton.1 hf]
        exact hhead e' he'
    obtain ⟨t, hruns, ht⟩ := ih htracks' hold' htail
    exact ⟨t, .cons hstep hruns, by rwa [List.append_cons]⟩

/-- What is accepted was compatible. -/
theorem exists_of_runs (h : Accepts Step Tracks Makes result Compat) {s t : σ} {es : List ε}
    (htracks : Tracks s es) {as : List α} {bs : List β} (hruns : Runs Step s as t bs) :
    ∃ new, List.Forall₂ Makes as new ∧ (∀ f ∈ es, ∀ e ∈ new, Compat f e) ∧ new.Pairwise Compat ∧
      bs = new.map result ∧ Tracks t (es ++ new) := by
  induction hruns generalizing es with
  | nil => exact ⟨[], .nil, by simp, .nil, rfl, by rwa [List.append_nil]⟩
  | cons head tail ih =>
    obtain ⟨e, hmake, rfl, hcompat, htracks'⟩ := h.accepted htracks head
    obtain ⟨new, hmakes, hold, hnew, rfl, ht⟩ := ih htracks'
    refine ⟨e :: new, .cons hmake hmakes, ?_, ?_, rfl, by rwa [List.append_cons]⟩
    · intro f hf e' he'
      rcases List.mem_cons.1 he' with rfl | he'
      · exact hcompat f hf
      · exact hold f (List.mem_append_left _ hf) e' he'
    · exact List.pairwise_cons.2 ⟨fun e' he' => hold e (by simp) e' he', hnew⟩

/-- **The loop runs through** exactly when each item makes an entry and the entries are compatible. -/
theorem runs_iff (h : Accepts Step Tracks Makes result Compat) {s : σ} (hstart : Tracks s [])
    {as : List α} {bs : List β} : (∃ t, Runs Step s as t bs) ↔
      ∃ new, List.Forall₂ Makes as new ∧ new.Pairwise Compat ∧ bs = new.map result := by
  constructor
  · rintro ⟨t, hruns⟩
    obtain ⟨new, hmakes, -, hnew, hresult, -⟩ := h.exists_of_runs hstart hruns
    exact ⟨new, hmakes, hnew, hresult⟩
  · rintro ⟨new, hmakes, hnew, rfl⟩
    obtain ⟨t, hruns, -⟩ := h.runs_of_compat hstart hmakes (by simp) hnew
    exact ⟨t, hruns⟩

/-- **The order of the items does not matter**, up to the order of the results. -/
theorem runs_perm (h : Accepts Step Tracks Makes result Compat)
    (hsymm : ∀ e f, Compat e f → Compat f e) {s : σ} (hstart : Tracks s []) {as as' : List α}
    (hperm : as.Perm as') {bs : List β} (hruns : ∃ t, Runs Step s as t bs) :
    ∃ bs', (∃ t, Runs Step s as' t bs') ∧ bs.Perm bs' := by
  obtain ⟨new, hmakes, hnew, rfl⟩ := (h.runs_iff hstart).1 hruns
  obtain ⟨new', hmakes', hsame⟩ := List.perm_comp_forall₂ hperm.symm hmakes
  have hnew' : new'.Pairwise Compat := (hsame.symm.pairwise_iff fun h => hsymm _ _ h).1 hnew
  exact ⟨_, (h.runs_iff hstart).2 ⟨new', hmakes', hnew', rfl⟩, hsame.symm.map result⟩

end Accepts

end Library
