/-!
# Outcomes of computations that can fail

How a sequence of steps succeeds, and how a change of the value or of the
error moves through it.
-/

namespace HtmlJsx.Outcome

variable {ε δ α β γ : Type}

/-- Two steps succeed if the first does and the second does with its value. -/
theorem bind_eq_ok_iff {result : Except ε α} {next : α → Except ε β} {final : β} :
    result >>= next = .ok final ↔ ∃ value, result = .ok value ∧ next value = .ok final := by
  cases result with
  | error problem =>
    constructor
    · intro wrong
      cases wrong
    · rintro ⟨value, wrong, -⟩
      cases wrong
  | ok value =>
    constructor
    · intro finished
      exact ⟨value, rfl, finished⟩
    · rintro ⟨other, same, finished⟩
      cases same
      exact finished

/-- Two steps fail if the first does, or the second does with the value of the first. -/
theorem bind_eq_error_iff {result : Except ε α} {next : α → Except ε β} {problem : ε} :
    result >>= next = .error problem ↔
      result = .error problem ∨ ∃ value, result = .ok value ∧ next value = .error problem := by
  cases result with
  | error other =>
    constructor
    · rintro ⟨⟩
      exact .inl rfl
    · rintro (⟨⟨⟩⟩ | ⟨value, ⟨⟩, -⟩)
      rfl
  | ok value =>
    constructor
    · exact fun failed => .inr ⟨value, rfl, failed⟩
    · rintro (⟨⟨⟩⟩ | ⟨other, ⟨⟩, failed⟩)
      exact failed

theorem map_eq_ok_iff {result : Except ε α} {change : α → β} {final : β} :
    result.map change = .ok final ↔ ∃ value, result = .ok value ∧ change value = final := by
  cases result with
  | error problem => simp [Except.map]
  | ok value => simp [Except.map]

@[simp]
theorem mapError_ok (value : α) (change : ε → δ) :
    (Except.ok value : Except ε α).mapError change = .ok value := rfl

@[simp]
theorem mapError_error (problem : ε) (change : ε → δ) :
    (Except.error problem : Except ε α).mapError change = .error (change problem) := rfl

theorem mapError_eq_ok_iff {result : Except ε α} {change : ε → δ} {value : α} :
    result.mapError change = .ok value ↔ result = .ok value := by
  cases result with
  | error problem => simp
  | ok value => simp

theorem mapError_bind (result : Except ε α) (next : α → Except ε β) (change : ε → δ) :
    (result >>= next).mapError change =
      result.mapError change >>= fun value => (next value).mapError change := by
  cases result <;> rfl

theorem bind_map (result : Except ε α) (change : α → β) (next : β → Except ε γ) :
    result.map change >>= next = result >>= fun value => next (change value) := by
  cases result <;> rfl

theorem map_bind (result : Except ε α) (next : α → Except ε β) (change : β → γ) :
    (result >>= next).map change = result >>= fun value => (next value).map change := by
  cases result <;> rfl

/-! ## The error of an outcome -/

/-- The error of a computation that failed. -/
def error? : Except ε α → Option ε
  | .ok _ => none
  | .error problem => some problem

theorem error?_eq_some_iff {result : Except ε α} {problem : ε} :
    error? result = some problem ↔ result = .error problem := by
  cases result with
  | error other => simp [error?]
  | ok value => simp [error?]

@[simp]
theorem error?_map (result : Except ε α) (change : α → β) :
    error? (result.map change) = error? result := by
  cases result <;> rfl

@[simp]
theorem error?_mapError (result : Except ε α) (change : ε → δ) :
    error? (result.mapError change) = (error? result).map change := by
  cases result <;> rfl

/-- Two steps fail with the error of the first, or with that of the second. -/
theorem error?_bind {result : Except ε α} {next : α → Except ε β} {later : Option ε}
    (fails : ∀ value, result = .ok value → error? (next value) = later) :
    error? (result >>= next) = (error? result).or later := by
  cases result with
  | error problem => rfl
  | ok value => exact fails value rfl

end HtmlJsx.Outcome
