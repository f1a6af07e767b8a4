import FlatStore.Index
import FlatStore.Table.Ref

/-!
# Table locks

One exclusive lock for each table, created when the table is first to be locked and kept from then
on.  A lock is held or free; taking a held lock has to wait.
-/

namespace FlatStore

/-- The locks that exist, each held or free. -/
abbrev Locks := Index TableRef Bool

namespace Locks

/-- No lock was needed yet. -/
def none : Locks := Index.empty

/-- Make sure that a table has a lock. -/
def register (locks : Locks) (table : TableRef) : Locks :=
  if locks.contains table then locks else locks.put table false

/-- Whether the lock of a table exists and is held. -/
def isHeld (locks : Locks) (table : TableRef) : Bool := locks.find? table == some true

/-- Take the lock of a table, unless it is held. -/
def acquire? (locks : Locks) (table : TableRef) : Option Locks :=
  if locks.isHeld table then Option.none else some (locks.put table true)

/-- Give the lock of a table back. -/
def release (locks : Locks) (table : TableRef) : Locks := locks.put table false

/-- Number of locks that exist. -/
def count (locks : Locks) : Nat := locks.size

theorem isHeld_release (locks : Locks) (table other : TableRef) :
    (locks.release table).isHeld other = (decide (table ≠ other) && locks.isHeld other) := by
  by_cases h : table = other <;> simp [isHeld, release, Index.find?_put, h]

theorem isHeld_register (locks : Locks) (table other : TableRef) :
    (locks.register table).isHeld other = locks.isHeld other := by
  rw [register]
  split
  · rfl
  · rename_i absent
    by_cases h : table = other
    · subst h
      have : locks.find? table = Option.none := by simpa [Index.contains] using absent
      simp [isHeld, this]
    · simp [isHeld, Index.find?_put, h]

theorem isHeld_of_acquire {locks after : Locks} {table : TableRef}
    (h : locks.acquire? table = some after) (other : TableRef) :
    after.isHeld other = (decide (table = other) || locks.isHeld other) := by
  simp only [acquire?, Option.ite_none_left_eq_some, Option.some.injEq] at h
  obtain ⟨_, rfl⟩ := h
  by_cases same : table = other <;> simp [isHeld, Index.find?_put, same]

end Locks
end FlatStore
