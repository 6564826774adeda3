import Mathlib.Tactic

/-!
# Computations that log their requests

A `Traced` computation asks an environment for things of type `R`, returns a value or an error of type
`ε`, or aborts with a reason of type `P`. What it asked for is kept in every case. `Traced.Safe` is the
rule of sequence for it: nothing aborts, and every request has a property.
-/

namespace Library

/-- The requests, in order, and how the computation ended. -/
structure Traced (R P ε α : Type) where
  log : List R
  outcome : Except P (Except ε α)

namespace Traced

variable {R P ε α β : Type}

/-- A computation that asks for nothing. -/
def lift (x : Except P (Except ε α)) : Traced R P ε α := ⟨[], x⟩

/-- A request and its answer. -/
def request (requests : List R) (answer : Except ε α) : Traced R P ε α := ⟨requests, .ok answer⟩

/-- Continue with a value. -/
def andThen (x : Traced R P ε α) (f : α → Traced R P ε β) : Traced R P ε β :=
  match x.outcome with
  | .ok (.ok a) => ⟨x.log ++ (f a).log, (f a).outcome⟩
  | .ok (.error e) => ⟨x.log, .ok (.error e)⟩
  | .error p => ⟨x.log, .error p⟩

instance : Monad (Traced R P ε) where
  pure a := ⟨[], .ok (.ok a)⟩
  bind := andThen

instance : MonadLift (ExceptT ε (Except P)) (Traced R P ε) where
  monadLift x := lift x.run

section Bind

variable {x : Traced R P ε α} {f : α → Traced R P ε β}

theorem bind_of_ok {a : α} (h : x.outcome = .ok (.ok a)) :
    x >>= f = ⟨x.log ++ (f a).log, (f a).outcome⟩ := by
  show andThen x f = _
  rw [andThen, h]

theorem bind_of_error {e : ε} (h : x.outcome = .ok (.error e)) :
    x >>= f = ⟨x.log, .ok (.error e)⟩ := by
  show andThen x f = _
  rw [andThen, h]

theorem bind_of_abort {p : P} (h : x.outcome = .error p) : x >>= f = ⟨x.log, .error p⟩ := by
  show andThen x f = _
  rw [andThen, h]

/-- A value of a sequence comes from values of its parts. -/
theorem bind_outcome_eq_ok {b : β} (h : (x >>= f).outcome = .ok (.ok b)) :
    ∃ a, x.outcome = .ok (.ok a) ∧ (f a).outcome = .ok (.ok b) := by
  cases hx : x.outcome with
  | error p =>
    rw [bind_of_abort hx] at h
    cases h
  | ok result =>
    cases result with
    | error e =>
      rw [bind_of_error hx] at h
      cases h
    | ok a =>
      rw [bind_of_ok hx] at h
      exact ⟨a, rfl, h⟩

theorem bind_outcome_eq_ok_iff {b : β} :
    (x >>= f).outcome = .ok (.ok b) ↔
      ∃ a, x.outcome = .ok (.ok a) ∧ (f a).outcome = .ok (.ok b) := by
  refine ⟨bind_outcome_eq_ok, ?_⟩
  rintro ⟨a, ha, hb⟩
  rw [bind_of_ok ha]
  exact hb

end Bind

/-- Nothing aborts, every request is inside, and a value that is returned has the property. -/
structure Safe (inside : R → Prop) (x : Traced R P ε α) (Q : α → Prop) : Prop where
  log_inside : ∀ r ∈ x.log, inside r
  returns : ∃ result, x.outcome = .ok result ∧ ∀ a, result = .ok a → Q a

section Rules

variable {inside : R → Prop} {Q : α → Prop} {x : Traced R P ε α}

theorem safe_pure {a : α} (h : Q a) : Safe inside (pure a : Traced R P ε α) Q where
  log_inside := fun _ hr => nomatch hr
  returns := by
    refine ⟨.ok a, rfl, ?_⟩
    intro b hb
    cases hb
    exact h

theorem safe_lift {y : Except P (Except ε α)} (h : ∃ result, y = .ok result ∧ ∀ a, result = .ok a → Q a) :
    Safe inside (lift y) Q where
  log_inside := fun _ hr => nomatch hr
  returns := h

theorem safe_request {requests : List R} {answer : Except ε α} (hin : ∀ r ∈ requests, inside r)
    (h : ∀ a, answer = .ok a → Q a) : Safe inside (request requests answer : Traced R P ε α) Q where
  log_inside := hin
  returns := ⟨answer, rfl, h⟩

theorem Safe.mono {Q' : α → Prop} (hx : Safe inside x Q) (h : ∀ a, Q a → Q' a) : Safe inside x Q' where
  log_inside := hx.log_inside
  returns := by
    obtain ⟨result, hresult, hQ⟩ := hx.returns
    exact ⟨result, hresult, fun a ha => h a (hQ a ha)⟩

/-- The rule of sequence. The second part may use that the first returned the value. -/
theorem safe_bind {Q' : β → Prop} {f : α → Traced R P ε β} (hx : Safe inside x Q)
    (hf : ∀ a, x.outcome = .ok (.ok a) → Q a → Safe inside (f a) Q') : Safe inside (x >>= f) Q' := by
  obtain ⟨result, hresult, hQ⟩ := hx.returns
  cases result with
  | error e =>
    rw [bind_of_error hresult]
    exact ⟨hx.log_inside, .error e, rfl, fun _ h => nomatch h⟩
  | ok a =>
    have hrest := hf a hresult (hQ a rfl)
    rw [bind_of_ok hresult]
    refine ⟨?_, hrest.returns⟩
    intro r hr
    rcases List.mem_append.1 hr with hr | hr
    · exact hx.log_inside r hr
    · exact hrest.log_inside r hr

end Rules

end Traced

end Library
