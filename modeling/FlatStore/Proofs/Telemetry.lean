import FlatStore.Session.Execute

/-!
# Telemetry has no influence

Logging several events and accounting for a command change nothing but telemetry.
-/

namespace FlatStore
namespace Store

variable (store : Store)

theorem logAll_eq (events : List Event) :
    store.logAll events = { store with
      telemetry.notices := store.telemetry.notices ++ events.map (⟨·, none⟩) } := by
  rw [logAll]
  induction events generalizing store with
  | nil => simp
  | cons event rest ih =>
      rw [List.foldl_cons, ih]
      simp [log, note]

@[simp]
theorem storage_logAll (events : List Event) : (store.logAll events).storage = store.storage := by
  rw [logAll_eq]

@[simp]
theorem catalog_logAll (events : List Event) : (store.logAll events).catalog = store.catalog := by
  rw [logAll_eq]

@[simp]
theorem locks_logAll (events : List Event) : (store.logAll events).locks = store.locks := by
  rw [logAll_eq]

@[simp]
theorem metrics_logAll (events : List Event) :
    (store.logAll events).telemetry.metrics = store.telemetry.metrics := by
  rw [logAll_eq]

@[simp]
theorem storage_account {α : Type} (verb : Verb) (result : Except Failure α) :
    (store.account verb result).storage = store.storage := by
  rcases result with (_ | _ | _ | _) | _ <;> rfl

@[simp]
theorem catalog_account {α : Type} (verb : Verb) (result : Except Failure α) :
    (store.account verb result).catalog = store.catalog := by
  rcases result with (_ | _ | _ | _) | _ <;> rfl

@[simp]
theorem locks_account {α : Type} (verb : Verb) (result : Except Failure α) :
    (store.account verb result).locks = store.locks := by
  rcases result with (_ | _ | _ | _) | _ <;> rfl

end Store
end FlatStore
