import Mathlib.Tactic

/-!
# Executions that may abort

The source aborts where an `unwrap` fails, an index or a slice is out of range, or checked machine
arithmetic overflows. A model of such code returns `Exec α`; a loop of the source is a recursion on
fuel, and running out of it is one more way to abort. A function is shown to be total by proving
that it returns `ok`.
-/

namespace Pourpoint

/-- The ways an execution stops without a value. -/
inductive Panic where
  | unwrapNone
  | outOfBounds
  | overflow
  | divisionByZero
  | zeroChunkSize
  | assertion
  | outOfFuel
  deriving DecidableEq, Repr

abbrev Exec := Except Panic

/-- `Option::unwrap`. -/
def unwrap {α : Type} : Option α → Exec α
  | some a => .ok a
  | none => .error .unwrapNone

@[simp] theorem unwrap_some {α : Type} (a : α) : unwrap (some a) = .ok a := rfl

theorem bind_eq_ok {ε α β : Type} {x : Except ε α} {f : α → Except ε β} {b : β}
    (h : (x >>= f) = .ok b) : ∃ a, x = .ok a ∧ f a = .ok b := by
  cases x with
  | error e => cases h
  | ok a => exact ⟨a, rfl, h⟩

@[simp] theorem ok_bind {ε α β : Type} (a : α) (f : α → Except ε β) :
    ((.ok a : Except ε α) >>= f) = f a := rfl

@[simp] theorem error_bind {ε α β : Type} (e : ε) (f : α → Except ε β) :
    ((.error e : Except ε α) >>= f) = .error e := rfl

theorem exists_mapM_eq_ok {α β : Type} {f : α → Exec β} {P : α → β → Prop} (l : List α)
    (h : ∀ a ∈ l, ∃ b, f a = .ok b ∧ P a b) : ∃ bs, l.mapM f = .ok bs ∧ List.Forall₂ P l bs := by
  induction l with
  | nil => exact ⟨[], rfl, .nil⟩
  | cons a l ih =>
    obtain ⟨b, hb, hP⟩ := h a (by simp)
    obtain ⟨bs, hbs, hPs⟩ := ih fun a ha => h a (by simp [ha])
    refine ⟨b :: bs, ?_, .cons hP hPs⟩
    rw [List.mapM_cons, hb, ok_bind, hbs]
    rfl

theorem mapM_eq_ok_map {ε α β : Type} {f : α → Except ε β} {g : α → β} {l : List α}
    (h : ∀ a ∈ l, f a = .ok (g a)) : l.mapM f = .ok (l.map g) := by
  induction l with
  | nil => rfl
  | cons a l ih =>
    rw [List.mapM_cons, h a List.mem_cons_self, ok_bind,
      ih fun b hb => h b (List.mem_cons_of_mem _ hb), ok_bind]
    rfl

end Pourpoint
