/-!
# Outcomes

What is known about operations from the outcomes of what is built on them.
-/

namespace FlatStore

variable {ε α β : Type}

/-- What was made from an outcome was made from a value. -/
theorem map_eq_ok {change : α → β} {found : Except ε α} {value : β}
    (h : found.map change = .ok value) : ∃ source, found = .ok source ∧ change source = value := by
  cases found with
  | error error => cases h
  | ok source =>
      cases h
      exact ⟨source, rfl, rfl⟩

theorem map_eq_error {change : α → β} {found : Except ε α} {error : ε}
    (h : found.map change = .error error) : found = .error error := by
  cases found with
  | error other =>
      cases h
      rfl
  | ok source => cases h

theorem mapError_eq_error {δ : Type} {change : ε → δ} {found : Except ε α} {error : δ}
    (h : found.mapError change = .error error) :
    ∃ source, found = .error source ∧ change source = error := by
  cases found with
  | error other =>
      cases h
      exact ⟨other, rfl, rfl⟩
  | ok source => cases h

theorem mapError_eq_ok {δ : Type} {change : ε → δ} {found : Except ε α} {value : α}
    (h : found.mapError change = .ok value) : found = .ok value := by
  cases found with
  | error error => cases h
  | ok other =>
      cases h
      rfl

/-- Outcomes that differ still do so when their errors are changed to ones that differ. -/
theorem mapError_injective {δ : Type} {change : ε → δ}
    (apart : ∀ ⦃left right : ε⦄, change left = change right → left = right)
    {left right : Except ε α} (same : left.mapError change = right.mapError change) :
    left = right := by
  cases left with
  | error error =>
      obtain ⟨other, rfl, changed⟩ := mapError_eq_error same.symm
      rw [apart changed]
  | ok value => exact (mapError_eq_ok same.symm).symm

theorem bind_eq_ok {next : α → Except ε β} {found : Except ε α} {value : β}
    (h : (found >>= next) = .ok value) :
    ∃ source, found = .ok source ∧ next source = .ok value := by
  cases found with
  | error error => cases h
  | ok source => exact ⟨source, rfl, h⟩

theorem bind_eq_error {next : α → Except ε β} {found : Except ε α} {error : ε}
    (h : (found >>= next) = .error error) :
    found = .error error ∨ ∃ source, found = .ok source ∧ next source = .error error := by
  cases found with
  | error other =>
      cases h
      exact .inl rfl
  | ok source => exact .inr ⟨source, rfl, h⟩

theorem exists_ok_of_isSome {found : Except ε α} (h : found.toOption.isSome = true) :
    ∃ value, found = .ok value := by
  cases found with
  | error error => cases h
  | ok value => exact ⟨value, rfl⟩

/-- Outcomes can be compared by their values, also where failures can not. -/
theorem eq_ok_of_toOption {found : Except ε α} {value : α} (h : found.toOption = some value) :
    found = .ok value := by
  cases found with
  | error error => cases h
  | ok other =>
      cases h
      rfl

/-- What an outcome failed with. -/
def error? : Except ε α → Option ε
  | .error error => some error
  | .ok _ => none

theorem eq_error_of_error? {found : Except ε α} {error : ε} (h : error? found = some error) :
    found = .error error := by
  cases found with
  | error other =>
      cases h
      rfl
  | ok value => cases h

end FlatStore
