import Mathlib.Data.List.Forall2

/-!
Results that may be refusals: what came before a result, if there is one.
-/
namespace MachineCode

section Results

variable {ε ε' α β : Type}

theorem map_eq_ok {f : α → β} {x : Except ε α} {y : β} (h : x.map f = .ok y) :
    ∃ a, x = .ok a ∧ f a = y := by
  cases x with
  | error e => cases h
  | ok a => exact ⟨a, rfl, Except.ok.inj h⟩

theorem bind_eq_ok {x : Except ε α} {f : α → Except ε β} {y : β} (h : (x >>= f) = .ok y) :
    ∃ a, x = .ok a ∧ f a = .ok y := by
  cases x with
  | error e => cases h
  | ok a => exact ⟨a, rfl, h⟩

theorem ok_bind (a : α) (f : α → Except ε β) : (Except.ok a >>= f) = f a := rfl

theorem mapError_ok (a : α) (f : ε → ε') : (Except.ok a : Except ε α).mapError f = .ok a := rfl

theorem mapError_eq_ok {x : Except ε α} {f : ε → ε'} {a : α} (h : x.mapError f = .ok a) :
    x = .ok a := by
  cases x with
  | error e => cases h
  | ok b => exact congrArg Except.ok (Except.ok.inj h)

theorem exists_eq_ok {x : Except ε α} {p : α → Bool} (h : x.toOption.any p = true) :
    ∃ a, x = .ok a ∧ p a = true := by
  cases x with
  | error e => cases h
  | ok a => exact ⟨a, rfl, h⟩

theorem eq_error_of_toOption {x : Except ε α} (h : x.toOption = none) : ∃ e, x = .error e := by
  cases x with
  | error e => exact ⟨e, rfl⟩
  | ok a => cases h

theorem eq_ok_of_toOption {x : Except ε α} {a : α} (h : x.toOption = some a) : x = .ok a := by
  cases x with
  | error e => cases h
  | ok b => exact congrArg Except.ok (Option.some.inj h)

theorem ok_of_unless {c : Prop} [Decidable c] {e : ε} {x y : α}
    (h : (if c then Except.error e else Except.ok x) = Except.ok y) : ¬ c ∧ x = y := by
  by_cases hc : c
  · rw [if_pos hc] at h
    cases h
  · rw [if_neg hc] at h
    exact ⟨hc, Except.ok.inj h⟩

theorem ok_of_when {c : Prop} [Decidable c] {e : ε} {x y : α}
    (h : (if c then Except.ok x else Except.error e) = Except.ok y) : c ∧ x = y := by
  by_cases hc : c
  · rw [if_pos hc] at h
    exact ⟨hc, Except.ok.inj h⟩
  · rw [if_neg hc] at h
    cases h

theorem eq_ok_of_choice {p q : Prop} [Decidable p] [Decidable q] {x y z : α} {e : ε}
    (h : (if p then Except.ok x else if q then Except.ok y else Except.error e) = Except.ok z) :
    p ∧ x = z ∨ q ∧ y = z := by
  by_cases hp : p
  · rw [if_pos hp] at h
    exact Or.inl ⟨hp, Except.ok.inj h⟩
  · rw [if_neg hp] at h
    exact Or.inr (ok_of_when h)

theorem eq_ok_of_guard {c : Prop} [Decidable c] {e : ε} {x : Except ε α} {y : α}
    (h : (if c then Except.error e else x) = Except.ok y) : ¬ c ∧ x = .ok y := by
  by_cases hc : c
  · rw [if_pos hc] at h
    cases h
  · rw [if_neg hc] at h
    exact ⟨hc, h⟩

end Results

end MachineCode
