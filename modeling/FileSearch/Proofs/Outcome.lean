set_option autoImplicit false

namespace FileSearch.Outcome

variable {ε δ α β : Type}

theorem bind_ok_iff {step : Except ε α} {next : α → Except ε β} {result : β} :
    (step >>= next) = .ok result ↔ ∃ value, step = .ok value ∧ next value = .ok result := by
  cases step <;> simp [bind, Except.bind]

theorem exists_bind_ok_iff {step : Except ε α} {f : α → β} :
    (∃ result, (step >>= fun value => .ok (f value)) = .ok result) ↔
      ∃ value, step = .ok value := by
  cases step <;> simp [bind, Except.bind]

theorem exists_map_ok_iff {step : Except ε α} {f : α → β} :
    (∃ result, step.map f = .ok result) ↔ ∃ value, step = .ok value := by
  cases step <;> simp [Except.map]

theorem map_ok_iff {step : Except ε α} {f : α → β} {result : β} :
    step.map f = .ok result ↔ ∃ value, step = .ok value ∧ f value = result := by
  cases step <;> simp [Except.map]

@[simp] theorem mapError_ok (wrap : ε → δ) (value : α) :
    (Except.ok value).mapError wrap = .ok value :=
  rfl

@[simp] theorem mapError_error (wrap : ε → δ) (cause : ε) :
    (Except.error cause : Except ε α).mapError wrap = .error (wrap cause) :=
  rfl

theorem mapError_ok_iff {step : Except ε α} {wrap : ε → δ} {result : α} :
    step.mapError wrap = .ok result ↔ step = .ok result := by
  cases step <;> simp

end FileSearch.Outcome
