import FlatStore.Proofs.Creating
import FlatStore.Proofs.Inserting
import FlatStore.Proofs.Outcome
import FlatStore.Store.Process

/-!
# What one step of a call does

Every step of a call is one of the moves below, each with its guard and with all that it changes.
An insert has its table locked from the move that takes the lock to the one that gives it back.
-/

namespace FlatStore

/-! ## Operations that leave the table locks alone -/

namespace Store

variable {store after : Store}

theorem locks_advance {table : Table} {id : Int} (h : store.advance table id = .ok after) :
    after.locks = store.locks := by
  rw [advance] at h
  split at h
  · cases h
  · cases h
    rfl

theorem locks_nextId {database name : Text} {result : Except StoreError Int}
    (h : store.nextId database name = (after, result)) : after.locks = store.locks := by
  rw [nextId] at h
  split at h
  · cases h
    rfl
  · cases h
    rfl

theorem locks_make {creation : Creation} {outcome : Except StoreError Unit}
    (h : store.make creation = (after, outcome)) : after.locks = store.locks := by
  rw [make_eq h]

@[simp]
theorem locks_enter (store : Store) (creation : Creation) :
    (store.enter creation).locks = store.locks := by
  cases creation <;> rfl

end Store

/-! ## Moves -/

namespace Stage

/-- The table that a call has locked. -/
def locked? : Stage → Option TableRef
  | .holding table _ => some table.ref
  | .numbered table _ _ => some table.ref
  | .appended table _ => some table.ref
  | .leaving table _ => some table.ref
  | _ => none

/-- A move from one stage to the next one, and what is shared behind it. -/
inductive Move (shared : Shared) : Stage → Stage → Shared → Prop
  | refuseInsert {database name : Text} {values : List Text} {error : StoreError}
      (unknown : shared.store.catalog.resolve database name = .error error) :
      Move shared (.begun (.insert database name values)) (.finished (.error (.store error))) shared
  | beginInsert {database name : Text} {values : List Text} {table : Table}
      (known : shared.store.catalog.resolve database name = .ok table) :
      Move shared (.begun (.insert database name values)) (.resolved table values) shared
  /-- An identity is used up, or the table is unknown. -/
  | nextId {database name : Text} {store : Store} {result : Except StoreError Int}
      (taken : shared.store.nextId database name = (store, result)) :
      Move shared (.begun (.nextId database name)) (finish (result.map .id)) { shared with store }
  | refuseDatabase {name : Text} {error : StoreError}
      (invalid : Creation.ofDatabase name = .error error) :
      Move shared (.begun (.createDatabase name)) (.finished (.error (.store error))) shared
  | beginDatabase {name : Text} {creation : Creation}
      (valid : Creation.ofDatabase name = .ok creation) :
      Move shared (.begun (.createDatabase name)) (.queued creation) shared
  | refuseTable {database name : Text} {columns : List Text} {error : StoreError}
      (invalid : Creation.ofTable shared.store.catalog database name columns = .error error) :
      Move shared (.begun (.createTable database name columns)) (.finished (.error (.store error)))
        shared
  | beginTable {database name : Text} {columns : List Text} {creation : Creation}
      (valid : Creation.ofTable shared.store.catalog database name columns = .ok creation) :
      Move shared (.begun (.createTable database name columns)) (.queued creation) shared
  | resolve {database name : Text} :
      Move shared (.begun (.resolve database name))
        (finish ((shared.store.catalog.resolve database name).map .table)) shared
  | refuseScan {database name : Text} {error : StoreError}
      (unknown : shared.store.catalog.resolve database name = .error error) :
      Move shared (.begun (.scan database name)) (.finished (.error (.store error))) shared
  | beginScan {database name : Text} {table : Table}
      (known : shared.store.catalog.resolve database name = .ok table) :
      Move shared (.begun (.scan database name)) (.reading table) shared
  | read {table : Table} :
      Move shared (.reading table)
        (finish ((shared.store.storage.rows table.path).map (.rows table.schema))) shared
  /-- An insert makes sure that there is a lock. -/
  | register {table : Table} {values : List Text} :
      Move shared (.resolved table values) (.waiting table values)
        { shared with store := shared.store.registerLock table.ref }
  | hold {table : Table} {values : List Text}
      (free : shared.store.locks.isHeld table.ref = false) :
      Move shared (.waiting table values) (.holding table values)
        { shared with store := shared.store.hold table.ref }
  | number {table : Table} {values : List Text} :
      Move shared (.holding table values)
        (.numbered table values (shared.store.allocatorOf table).next) shared
  | refuseRow {table : Table} {values : List Text} {id : Int} {storage : Storage}
      {failure : Failure}
      (refused : shared.store.storage.appendRow table.path id values = (storage, .error failure)) :
      Move shared (.numbered table values id) (.leaving table (.error failure))
        { shared with store.storage := storage }
  | append {table : Table} {values : List Text} {id : Int} {storage : Storage}
      (appended : shared.store.storage.appendRow table.path id values = (storage, .ok ())) :
      Move shared (.numbered table values id) (.appended table id)
        { shared with store.storage := storage }
  | refuseAdvance {table : Table} {id : Int} {misuse : Misuse}
      (refused : shared.store.advance table id = .error misuse) :
      Move shared (.appended table id) (.leaving table (.error (.misuse misuse))) shared
  | advance {table : Table} {id : Int} {store : Store}
      (advanced : shared.store.advance table id = .ok store) :
      Move shared (.appended table id) (.leaving table (.ok id)) { shared with store }
  | leaveFailed {table : Table} {failure : Failure} :
      Move shared (.leaving table (.error failure)) (.finished (.error failure))
        { shared with store := shared.store.release table.ref }
  | leave {table : Table} {id : Int} :
      Move shared (.leaving table (.ok id)) (.finished (.ok (.id id)))
        { shared with store := (shared.store.release table.ref).countInserted }
  | holdCatalog {creation : Creation} (free : shared.catalogHeld = false) :
      Move shared (.queued creation) (.checking creation) { shared with catalogHeld := true }
  | refuseDuplicate {creation : Creation} {error : StoreError}
      (known : shared.store.checkNew creation = .error error) :
      Move shared (.checking creation) (.closing creation (.error error)) shared
  | check {creation : Creation} (new : shared.store.checkNew creation = .ok ()) :
      Move shared (.checking creation) (.making creation) shared
  | refuseMake {creation : Creation} {store : Store} {error : StoreError}
      (refused : shared.store.make creation = (store, .error error)) :
      Move shared (.making creation) (.closing creation (.error error)) { shared with store }
  | make {creation : Creation} {store : Store}
      (made : shared.store.make creation = (store, .ok ())) :
      Move shared (.making creation) (.entering creation) { shared with store }
  | enter {creation : Creation} :
      Move shared (.entering creation) (.closing creation (.ok ()))
        { shared with store := shared.store.enter creation }
  | closeFailed {creation : Creation} {error : StoreError} :
      Move shared (.closing creation (.error error)) (.finished (.error (.store error)))
        ⟨shared.store, false⟩
  | close {creation : Creation} :
      Move shared (.closing creation (.ok ())) (.finished (.ok (.created creation)))
        ⟨shared.store.log creation.event, false⟩

/-- The first step of a call is a move. -/
theorem move_start (shared : Shared) (call : Call) :
    Move shared (.begun call) (start shared call).1 (start shared call).2 := by
  cases call with
  | insert database name values =>
      rw [start]
      cases resolved : shared.store.catalog.resolve database name with
      | error error => exact .refuseInsert resolved
      | ok table => exact .beginInsert resolved
  | nextId database name => exact .nextId rfl
  | createDatabase name =>
      rw [start]
      cases checked : Creation.ofDatabase name with
      | error error => exact .refuseDatabase checked
      | ok creation => exact .beginDatabase checked
  | createTable database name columns =>
      rw [start]
      cases checked : Creation.ofTable shared.store.catalog database name columns with
      | error error => exact .refuseTable checked
      | ok creation => exact .beginTable checked
  | resolve database name => exact .resolve
  | scan database name =>
      rw [start]
      cases resolved : shared.store.catalog.resolve database name with
      | error error => exact .refuseScan resolved
      | ok table => exact .beginScan resolved

/-- Every step of a call is a move. -/
theorem move_of_step {shared after : Shared} {stage next : Stage}
    (h : stage.step shared = some (next, after)) : Move shared stage next after := by
  cases stage with
  | begun call =>
      have begins := move_start shared call
      rw [step, Option.some.injEq] at h
      rw [h] at begins
      exact begins
  | resolved table values =>
      cases h
      exact .register
  | waiting table values =>
      rw [step] at h
      split at h
      · cases h
      · rename_i free
        cases h
        exact .hold (Bool.eq_false_iff.2 free)
  | holding table values =>
      cases h
      exact .number
  | numbered table values id =>
      rw [step, Store.appendRow] at h
      rcases appended : shared.store.storage.appendRow table.path id values with
        ⟨storage, failure | done⟩
      · rw [appended] at h
        cases h
        exact .refuseRow appended
      · rw [appended] at h
        cases h
        exact .append appended
  | appended table id =>
      rw [step] at h
      cases advanced : shared.store.advance table id with
      | error misuse =>
          rw [advanced] at h
          cases h
          exact .refuseAdvance advanced
      | ok store =>
          rw [advanced] at h
          cases h
          exact .advance advanced
  | leaving table result =>
      cases result with
      | error failure =>
          cases h
          exact .leaveFailed
      | ok id =>
          cases h
          exact .leave
  | reading table =>
      cases h
      exact .read
  | queued creation =>
      rw [step] at h
      split at h
      · cases h
      · rename_i free
        cases h
        exact .holdCatalog (Bool.eq_false_iff.2 free)
  | checking creation =>
      rw [step] at h
      cases checked : shared.store.checkNew creation with
      | error error =>
          rw [checked] at h
          cases h
          exact .refuseDuplicate checked
      | ok done =>
          rw [checked] at h
          cases h
          exact .check checked
  | making creation =>
      rw [step] at h
      rcases made : shared.store.make creation with ⟨store, error | done⟩
      · rw [made] at h
        cases h
        exact .refuseMake made
      · rw [made] at h
        cases h
        exact .make made
  | entering creation =>
      cases h
      exact .enter
  | closing creation result =>
      cases result with
      | error error =>
          cases h
          exact .closeFailed
      | ok done =>
          cases h
          exact .close
  | finished result => cases h

/-! ## Locks -/

/-- What a move does to the table locks. -/
inductive LockMove (before after : Locks) : Option TableRef → Option TableRef → Prop
  | stay {here : Option TableRef} (same : ∀ ref, after.isHeld ref = before.isHeld ref) :
      LockMove before after here here
  | take {ref : TableRef} (free : before.isHeld ref = false)
      (taken : ∀ other, after.isHeld other = (decide (ref = other) || before.isHeld other)) :
      LockMove before after none (some ref)
  | give {ref : TableRef}
      (given : ∀ other, after.isHeld other = (decide (ref ≠ other) && before.isHeld other)) :
      LockMove before after (some ref) none

/-- A call takes a lock when it is free and gives back the lock that it has. -/
theorem Move.locks {shared after : Shared} {stage next : Stage}
    (move : Move shared stage next after) :
    LockMove shared.store.locks after.store.locks stage.locked? next.locked? := by
  cases move with
  | register => exact .stay fun ref => Locks.isHeld_register ..
  | hold free =>
      refine .take free fun other => Locks.isHeld_of_acquire ?_ other
      rw [Locks.acquire?, free]
      rfl
  | leaveFailed => exact .give fun other => Locks.isHeld_release ..
  | leave => exact .give fun other => Locks.isHeld_release ..
  | nextId taken => exact .stay fun ref => by rw [Store.locks_nextId taken]
  | advance advanced => exact .stay fun ref => by rw [Store.locks_advance advanced]
  | refuseMake made | make made => exact .stay fun ref => by rw [Store.locks_make made]
  | enter => exact .stay fun ref => by rw [Store.locks_enter]
  | refuseInsert | beginInsert | refuseDatabase | beginDatabase | refuseTable | beginTable
  | resolve | refuseScan | beginScan | read | number | refuseRow | append | refuseAdvance
  | holdCatalog | refuseDuplicate | check | closeFailed | close =>
      exact .stay fun ref => rfl

/-- An insert locks its table by taking the lock, which is free. -/
theorem Move.of_locks {shared after : Shared} {stage next : Stage} {ref : TableRef}
    (move : Move shared stage next after) (free : stage.locked? ≠ some ref)
    (locks : next.locked? = some ref) :
    ∃ table values, stage = .waiting table values ∧ next = .holding table values ∧
      table.ref = ref ∧ shared.store.locks.isHeld ref = false := by
  cases move with
  | @hold table values lock_free =>
      have same : table.ref = ref := Option.some.inj locks
      exact ⟨table, values, rfl, rfl, same, same ▸ lock_free⟩
  | number | refuseRow | append | refuseAdvance | advance => exact absurd locks free
  | _ => cases locks

end Stage
end FlatStore
