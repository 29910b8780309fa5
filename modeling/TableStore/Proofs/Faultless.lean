import TableStore.Error

set_option autoImplicit false

/- An index out of range, a count below zero and a broken invariant all show up as internal errors. -/
namespace TableStore

def Faultless {α : Type} (holds : α → Prop) : Except StoreError α → Prop
  | .ok value => holds value
  | .error error => error.family ≠ .internal

variable {α β : Type} {holds : α → Prop}

theorem bind_ok {result : Except StoreError α} {next : α → Except StoreError β} {answer : β}
    (done : (result >>= next) = .ok answer) : ∃ value, result = .ok value ∧ next value = .ok answer := by
  cases result with
  | ok value => exact ⟨value, rfl, done⟩
  | error error => cases done

theorem Faultless.cases {result : Except StoreError α} (faultless : Faultless holds result) :
    (∃ value, result = .ok value ∧ holds value) ∨ ∃ error, result = .error error ∧ error.family ≠ .internal := by
  cases result with
  | ok value => exact .inl ⟨value, rfl, faultless⟩
  | error error => exact .inr ⟨error, rfl, faultless⟩

theorem Faultless.ok {result : Except StoreError α} (faultless : Faultless holds result) {value : α}
    (done : result = .ok value) : holds value := by
  subst done
  exact faultless

theorem Faultless.error {result : Except StoreError α} (faultless : Faultless holds result) {error : StoreError}
    (failed : result = .error error) : error.family ≠ .internal := by
  subst failed
  exact faultless

theorem Faultless.bind {result : Except StoreError α} (faultless : Faultless holds result) {goal : β → Prop}
    {next : α → Except StoreError β} (step : ∀ value, holds value → Faultless goal (next value)) :
    Faultless goal (result >>= next) := by
  cases result with
  | ok value => exact step value faultless
  | error error => exact faultless

theorem Faultless.map {result : Except StoreError α} (faultless : Faultless holds result) {goal : β → Prop}
    {next : α → β} (step : ∀ value, holds value → goal (next value)) : Faultless goal (result.map next) := by
  cases result with
  | ok value => exact step value faultless
  | error error => exact faultless

end TableStore
