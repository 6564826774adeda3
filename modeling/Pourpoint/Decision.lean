import Pourpoint.Machine

/-!
# Checks that decide a condition

`Decides x P Q` says that the code `x` does not abort, that it returns a value exactly when `P` holds,
and that this value has the property `Q`. A check that is made of checks in sequence decides the
conjunction of their conditions, and a loop decides that the condition of its turn holds of every item.

`Settles x Q E` says of both outcomes what they are: `Q` holds of a value and `E` of an error.
-/

namespace Pourpoint.Fallible

variable {ε α β : Type}

/-- The code returns a value, which has the property `Q`, exactly when `P` holds, and otherwise an
error. -/
def Decides (x : Fallible ε α) (P : Prop) (Q : α → Prop) : Prop :=
  (P ∧ Returns x Q) ∨ (¬P ∧ ∃ e, x.run = .ok (.error e))

namespace Decides

variable {P R : Prop} {Q : α → Prop} {S : β → Prop} {x : Fallible ε α}

theorem of_iff (h : Decides x P Q) (hiff : P ↔ R) : Decides x R Q := by
  rwa [Decides, ← hiff]

theorem mono {Q' : α → Prop} (h : Decides x P Q) (hQ : ∀ a, Q a → Q' a) : Decides x P Q' := by
  rcases h with ⟨hP, a, ha, hQa⟩ | h
  · exact Or.inl ⟨hP, a, ha, hQ a hQa⟩
  · exact Or.inr h

theorem and_safe {Q' : α → Prop} (h : Decides x P Q) (hsafe : Safe x Q') :
    Decides x P fun a => Q a ∧ Q' a := by
  rcases h with ⟨hP, a, ha, hQ⟩ | h
  · obtain ⟨r, hr, hQ'⟩ := hsafe
    exact Or.inl ⟨hP, a, ha, hQ, hQ' a (Except.ok.inj (hr.symm.trans ha))⟩
  · exact Or.inr h

theorem safe (h : Decides x P Q) : Safe x Q := by
  rcases h with ⟨-, h⟩ | ⟨-, e, he⟩
  · exact h.safe
  · refine ⟨.error e, he, ?_⟩
    intro a ha
    cases ha

/-- The code returns a value exactly when the condition holds. -/
theorem exists_run_iff (h : Decides x P Q) : (∃ a, x.run = .ok (.ok a)) ↔ P := by
  rcases h with ⟨hP, a, ha, -⟩ | ⟨hP, e, he⟩
  · exact iff_of_true ⟨a, ha⟩ hP
  · refine iff_of_false ?_ hP
    simp [he]

/-- What the code returns has the property. -/
theorem of_run (h : Decides x P Q) {a : α} (ha : x.run = .ok (.ok a)) : P ∧ Q a := by
  rcases h with ⟨hP, b, hb, hQ⟩ | ⟨-, e, he⟩
  · rw [hb] at ha
    cases ha
    exact ⟨hP, hQ⟩
  · rw [he] at ha
    cases ha

end Decides

section

variable {P R : Prop} {Q : α → Prop} {S : β → Prop} {x : Fallible ε α} {e : ε}

theorem decides_pure {a : α} (h : Q a) : Decides (pure a : Fallible ε α) True Q :=
  Or.inl ⟨trivial, returns_pure h⟩

theorem decides_fail : Decides (fail e : Fallible ε α) False Q := Or.inr ⟨id, e, rfl⟩

theorem decides_failIf {c : Prop} [Decidable c] :
    Decides (failIf c e : Fallible ε Unit) (¬c) fun _ => True := by
  unfold failIf
  by_cases hc : c
  · rw [if_pos hc]
    exact Or.inr ⟨not_not.2 hc, e, rfl⟩
  · rw [if_neg hc]
    exact Or.inl ⟨hc, returns_pure trivial⟩

theorem decides_bind {f : α → Fallible ε β} (hx : Decides x P Q)
    (hf : ∀ a, P → Q a → Decides (f a) R S) : Decides (x >>= f) (P ∧ R) S := by
  rcases hx with ⟨hP, a, ha, hQ⟩ | ⟨hP, e, he⟩
  · rcases hf a hP hQ with ⟨hR, b, hb, hS⟩ | ⟨hR, e, he⟩
    · exact Or.inl ⟨⟨hP, hR⟩, b, (bind_run_of_ok ha f).trans hb, hS⟩
    · exact Or.inr ⟨fun h => hR h.2, e, (bind_run_of_ok ha f).trans he⟩
  · exact Or.inr ⟨fun h => hP h.1, e, bind_run_of_error he f⟩

theorem decides_lift_bind {y : Exec α} {a : α} (hy : y = .ok a) {f : α → Fallible ε β}
    (h : Decides (f a) R S) : Decides ((liftM y : Fallible ε α) >>= f) R S := by
  rw [hy]
  exact h

theorem decides_failIf_bind {c : Prop} [Decidable c] {f : Unit → Fallible ε β}
    (h : ¬c → Decides (f ()) R S) : Decides (failIf c e >>= f) (¬c ∧ R) S :=
  decides_bind decides_failIf fun _ hc _ => h hc

theorem decides_forM {C : α → Prop} {f : α → Fallible ε Unit} {l : List α}
    (h : ∀ a ∈ l, Decides (f a) (C a) fun _ => True) :
    Decides (l.forM f) (∀ a ∈ l, C a) fun _ => True := by
  induction l with
  | nil => exact (decides_pure trivial).of_iff (by simp)
  | cons a l ih =>
    have htail := ih fun b hb => h b (List.mem_cons_of_mem _ hb)
    refine (decides_bind (h a List.mem_cons_self) fun _ _ _ => htail).of_iff ?_
    rw [List.forall_mem_cons]

theorem decides_foldlM_append {C : α → Prop} {I : List α → β → Prop} {f : β → α → Fallible ε β}
    {l : List α} {b : β} {before : List α} (hb : I before b)
    (h : ∀ before b, ∀ a ∈ l, I before b → Decides (f b a) (C a) (I (before ++ [a]))) :
    Decides (l.foldlM f b) (∀ a ∈ l, C a) (I (before ++ l)) := by
  induction l generalizing b before with
  | nil =>
    refine (decides_pure ?_).of_iff (by simp)
    rwa [List.append_nil]
  | cons a l ih =>
    rw [List.foldlM_cons, List.append_cons]
    refine (decides_bind (h before b a List.mem_cons_self hb) fun b' _ hb' => ?_).of_iff
      List.forall_mem_cons.symm
    exact ih hb' fun before b c hc => h before b c (List.mem_cons_of_mem _ hc)

theorem decides_foldlM {C : α → Prop} (I : List α → β → Prop) {f : β → α → Fallible ε β} {l : List α}
    {b : β} (hb : I [] b)
    (h : ∀ before b, ∀ a ∈ l, I before b → Decides (f b a) (C a) (I (before ++ [a]))) :
    Decides (l.foldlM f b) (∀ a ∈ l, C a) (I l) :=
  decides_foldlM_append hb h

end

/-! ## Both outcomes -/

/-- The code does not abort; the value or the error that it returns has the property. -/
def Settles (x : Fallible ε α) (Q : α → Prop) (E : ε → Prop) : Prop :=
  (∃ a, x.run = .ok (.ok a) ∧ Q a) ∨ ∃ e, x.run = .ok (.error e) ∧ E e

section

variable {Q : α → Prop} {S : β → Prop} {E : ε → Prop}

theorem settles_pure {a : α} (h : Q a) : Settles (pure a : Fallible ε α) Q E := Or.inl ⟨a, rfl, h⟩

theorem settles_mapError {δ : Type} {f : δ → ε} {x : Except δ α} (hok : ∀ a, x = .ok a → Q a)
    (herror : ∀ e, x = .error e → E (f e)) : Settles (mapError f x) Q E := by
  cases x with
  | ok a => exact Or.inl ⟨a, rfl, hok a rfl⟩
  | error e => exact Or.inr ⟨f e, rfl, herror e rfl⟩

theorem settles_bind {x : Fallible ε α} {f : α → Fallible ε β} (hx : Settles x Q E)
    (hf : ∀ a, Q a → Settles (f a) S E) : Settles (x >>= f) S E := by
  rcases hx with ⟨a, ha, hQ⟩ | ⟨e, he, hE⟩
  · rw [Settles, bind_run_of_ok ha]
    exact hf a hQ
  · exact Or.inr ⟨e, bind_run_of_error he f, hE⟩

end

end Pourpoint.Fallible
