import Mathlib.Tactic.Lemma

/-!
# Computations in parts

What is known of the parts of a computation that has succeeded.
-/

namespace PackageFinder
variable {ε ε' α β : Type} {x y : Except ε α} {f : α → Except ε β} {b : β}

/-- A computation in two parts succeeds by both of them. -/
lemma bind_eq_ok (h : x >>= f = .ok b) : ∃ a, x = .ok a ∧ f a = .ok b := by
  cases x with
  | error => cases h
  | ok a => exact ⟨a, rfl, h⟩

/-- So does one that starts in one of two ways. -/
lemma ite_bind_eq_ok {c : Prop} [Decidable c] (h : (if c then x >>= f else y >>= f) = .ok b) :
    ∃ a, (if c then x else y) = .ok a ∧ f a = .ok b := by
  split at h
  case isTrue hc =>
    rw [if_pos hc]
    exact bind_eq_ok h
  case isFalse hc =>
    rw [if_neg hc]
    exact bind_eq_ok h

/-- A result that is put into another form has been one before. -/
lemma map_eq_ok {f : α → β} (h : x.map f = .ok b) : ∃ a, x = .ok a ∧ f a = b := by
  cases x with
  | error => cases h
  | ok a => exact ⟨a, rfl, Except.ok.inj h⟩

/-- Wording an error in another way makes no result of it. -/
lemma mapError_eq_ok {word : ε → ε'} {a : α} (h : x.mapError word = .ok a) : x = .ok a := by
  cases x with
  | error => cases h
  | ok a' => exact congrArg Except.ok (Except.ok.inj h)

/-- What is made of a success is one. -/
lemma eq_ok_of_toOption {a : α} (h : x.toOption = some a) : x = .ok a := by
  cases x with
  | error => cases h
  | ok b =>
    cases h
    rfl

end PackageFinder
