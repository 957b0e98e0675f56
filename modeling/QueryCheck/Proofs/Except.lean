/-!
# Computations that may fail

A chain of steps succeeds exactly when every step does, and fails with the error of the first that
does not.
-/

namespace QueryCheck

set_option autoImplicit false

variable {ε α β : Type}

theorem except_bind_ok {step : Except ε α} {next : α → Except ε β} {result : β} :
    (step >>= next) = .ok result ↔ ∃ value, step = .ok value ∧ next value = .ok result := by
  cases step with
  | error e =>
      constructor
      · intro impossible
        cases impossible
      · intro continued
        rcases continued with ⟨value, succeeds, -⟩
        cases succeeds
  | ok value =>
      constructor
      · intro continued
        exact ⟨value, rfl, continued⟩
      · intro continued
        rcases continued with ⟨other, succeeds, continued⟩
        cases succeeds
        exact continued

theorem except_bind_error {step : Except ε α} {next : α → Except ε β} {e : ε} :
    (step >>= next) = .error e ↔
      step = .error e ∨ ∃ value, step = .ok value ∧ next value = .error e := by
  cases step with
  | error other =>
      constructor
      · intro failed
        cases failed
        exact .inl rfl
      · intro failed
        rcases failed with failed | ⟨value, succeeds, -⟩
        · cases failed
          rfl
        · cases succeeds
  | ok value =>
      constructor
      · intro failed
        exact .inr ⟨value, rfl, failed⟩
      · intro failed
        rcases failed with failed | ⟨other, succeeds, failed⟩
        · cases failed
        · cases succeeds
          exact failed

theorem except_map_ok {step : Except ε α} {f : α → β} {result : β} :
    step.map f = .ok result ↔ ∃ value, step = .ok value ∧ f value = result := by
  cases step with
  | error e => simp [Except.map]
  | ok value => simp [Except.map]

end QueryCheck
