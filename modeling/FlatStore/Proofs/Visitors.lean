import FlatStore.Catalog.Locks
import Mathlib.Logic.Function.Basic

/-!
# Visitors of tables

Locks are made one by one, and a registry says which of them is for which table.  A visitor of a
table looks its lock up while it has the registry to itself, makes one if there is none, gives the
registry back and takes the lock; when it leaves, however it does, it gives the lock back.  Between
any two of these acts others may act.  A block inside another one has a visitor of its own.
-/

namespace FlatStore

/-! ## The registry -/

/-- The locks that were made. -/
structure Registry where
  /-- The number of a table's lock. -/
  numbers : Index TableRef Nat
  /-- Which locks are held, in the order in which they were made. -/
  held : List Bool
  /-- Whether a visitor has the registry to itself. -/
  taken : Bool

/-- Where a visitor stands. -/
inductive Visit
  | outside
  /-- It is to visit a table and needs the registry. -/
  | calling (table : TableRef)
  /-- It has the registry. -/
  | looking (table : TableRef)
  /-- It has the registry, in which there is no lock for the table. -/
  | missing (table : TableRef)
  /-- It has the registry and knows the lock. -/
  | found (table : TableRef) (lock : Nat)
  | waiting (table : TableRef) (lock : Nat)
  | inside (table : TableRef) (lock : Nat)
deriving DecidableEq, Repr

/-- How a block is left. -/
inductive Exit
  | normal
  | raised (exception : Text)
deriving DecidableEq, Repr

/-- What comes out of a block. -/
inductive Departure
  | passed (exit : Exit)
  /-- The lock was free and could not be given back, whatever has happened in the block. -/
  | notHeld
deriving DecidableEq, Repr

namespace Registry

/-- No lock was needed yet. -/
def empty : Registry := ⟨Index.empty, [], false⟩

/-- Whether a lock is held. -/
def isHeld (registry : Registry) (lock : Nat) : Bool := registry.held[lock]? == some true

/-- Take a lock or give it back. -/
def mark (registry : Registry) (lock : Nat) (held : Bool) : Registry :=
  { registry with held := registry.held.set lock held }

/-- Make a lock for a table. -/
def make (registry : Registry) (table : TableRef) : Registry :=
  { registry with
    numbers := registry.numbers.put table registry.held.length
    held := registry.held ++ [false] }

/-- The next act of a visitor that wants to go in; `none` if it has to wait, or does not want to. -/
def step (registry : Registry) : Visit → Option (Visit × Registry)
  | .outside => none
  | .calling table =>
      if registry.taken then none else some (.looking table, { registry with taken := true })
  | .looking table =>
      match registry.numbers.find? table with
      | none => some (.missing table, registry)
      | some lock => some (.found table lock, registry)
  | .missing table => some (.found table registry.held.length, registry.make table)
  | .found table lock => some (.waiting table lock, { registry with taken := false })
  | .waiting table lock =>
      if registry.isHeld lock then none else some (.inside table lock, registry.mark lock true)
  | .inside _ _ => none

/-- What comes out of a block that is left, and what the registry is then. -/
def leave (registry : Registry) (lock : Nat) (exit : Exit) : Departure × Registry :=
  if registry.isHeld lock then (.passed exit, registry.mark lock false)
  else (.notHeld, registry)

/-- The locks by their tables. -/
def locks (registry : Registry) : Locks :=
  ⟨registry.numbers.entries.map fun entry => (entry.1, registry.isHeld entry.2), by
    rw [List.map_map]
    exact registry.numbers.nodup⟩

variable (registry : Registry)

theorem find?_locks (table : TableRef) :
    registry.locks.find? table = (registry.numbers.find? table).map registry.isHeld :=
  Index.lookup_map registry.isHeld table registry.numbers.entries

theorem isHeld_locks (table : TableRef) : registry.locks.isHeld table = true ↔
    ∃ lock, registry.numbers.find? table = some lock ∧ registry.isHeld lock = true := by
  rw [Locks.isHeld, find?_locks]
  cases registry.numbers.find? table <;> simp

variable {registry}

theorem isHeld_mark {lock : Nat} (made : lock < registry.held.length) (held : Bool) (other : Nat) :
    (registry.mark lock held).isHeld other =
      if other = lock then held else registry.isHeld other := by
  rw [isHeld, mark, isHeld]
  by_cases same : other = lock
  · subst same
    rw [if_pos rfl, List.getElem?_set_self made]
    cases held <;> rfl
  · rw [if_neg same, List.getElem?_set_ne (Ne.symm same)]

/-- A new lock is free. -/
theorem isHeld_make (table : TableRef) (lock : Nat) :
    (registry.make table).isHeld lock = registry.isHeld lock := by
  rw [isHeld, make, isHeld]
  rcases Nat.lt_trichotomy lock registry.held.length with old | rfl | later
  · rw [List.getElem?_append_left old]
  · simp
  · have short : [false].length ≤ lock - registry.held.length := by
      rw [List.length_singleton]
      omega
    rw [List.getElem?_append_right (Nat.le_of_lt later), List.getElem?_eq_none_iff.2 short,
      List.getElem?_eq_none_iff.2 (Nat.le_of_lt later)]

theorem keys_locks (registry : Registry) : registry.locks.keys = registry.numbers.keys :=
  List.map_map

/-- Making a lock for a table that has none registers it. -/
theorem locks_make {table : TableRef} (absent : registry.numbers.find? table = none) :
    (registry.make table).locks = registry.locks.register table := by
  have unknown : registry.locks.contains table = false := by
    rw [Index.contains, find?_locks, absent]
    rfl
  have unmade : registry.isHeld registry.held.length = false := by
    rw [isHeld, List.getElem?_eq_none_iff.2 (Nat.le_refl _)]
    rfl
  rw [Locks.register, unknown, if_neg Bool.false_ne_true]
  refine Index.eq_of_find? ?_ fun other => ?_
  · rw [keys_locks, make, Index.keys_put, Index.keys_put, unknown, Index.contains, absent,
      keys_locks]
    rfl
  · rw [find?_locks, funext (isHeld_make table), make, Index.find?_put, Index.find?_put,
      find?_locks]
    split
    · rw [Option.map_some, unmade]
    · rfl

/-- Taking the lock of a table or giving it back is a put if no other table has the lock. -/
theorem locks_mark {table : TableRef} {lock : Nat}
    (found : registry.numbers.find? table = some lock) (made : lock < registry.held.length)
    (alone : ∀ other, registry.numbers.find? other = some lock → table = other) (held : Bool) :
    (registry.mark lock held).locks = registry.locks.put table held := by
  have known : registry.locks.contains table = true := by
    rw [Index.contains, find?_locks, found]
    rfl
  refine Index.eq_of_find? ?_ fun other => ?_
  · rw [keys_locks, Index.keys_put, known, if_pos rfl, keys_locks]
    rfl
  · rw [find?_locks, funext (isHeld_mark made held), Index.find?_put, find?_locks, mark]
    split
    · rename_i same
      rw [← same, found, Option.map_some, if_pos rfl]
    · rename_i apart
      cases other_found : registry.numbers.find? other with
      | none => rfl
      | some other_lock =>
          rw [Option.map_some, Option.map_some, if_neg]
          rintro rfl
          exact apart (alone other other_found)

end Registry

/-! ## Acts -/

/-- The visitors of tables with what they share. -/
structure Lobby where
  registry : Registry
  visits : Nat → Visit

namespace Lobby

/-- Nobody has come yet. -/
def empty : Lobby := ⟨Registry.empty, fun _ => .outside⟩

/-- What happens next. -/
inductive Tick
  /-- A visitor that is outside is to visit a table. -/
  | call (visitor : Nat) (table : TableRef)
  /-- A visitor has a turn. -/
  | turn (visitor : Nat)
  /-- A visitor that is inside leaves. -/
  | leave (visitor : Nat) (exit : Exit)

/-- A visitor has moved. -/
def move (lobby : Lobby) (visitor : Nat) (visit : Visit) (registry : Registry) : Lobby :=
  ⟨registry, Function.update lobby.visits visitor visit⟩

@[simp]
theorem visits_move_self (lobby : Lobby) (visitor : Nat) (visit : Visit) (registry : Registry) :
    (lobby.move visitor visit registry).visits visitor = visit :=
  Function.update_self ..

theorem visits_move_of_ne (lobby : Lobby) {visitor other : Nat} (apart : other ≠ visitor)
    (visit : Visit) (registry : Registry) :
    (lobby.move visitor visit registry).visits other = lobby.visits other :=
  Function.update_of_ne apart ..

/-- Let something happen, if it is possible. -/
def tick (lobby : Lobby) : Tick → Lobby
  | .call visitor table =>
      match lobby.visits visitor with
      | .outside => lobby.move visitor (.calling table) lobby.registry
      | _ => lobby
  | .turn visitor =>
      match lobby.registry.step (lobby.visits visitor) with
      | some (visit, registry) => lobby.move visitor visit registry
      | none => lobby
  | .leave visitor exit =>
      match lobby.visits visitor with
      | .inside _ lock => lobby.move visitor .outside (lobby.registry.leave lock exit).2
      | _ => lobby

theorem tick_call {lobby : Lobby} {visitor : Nat} (outside : lobby.visits visitor = .outside)
    (table : TableRef) :
    lobby.tick (.call visitor table) = lobby.move visitor (.calling table) lobby.registry := by
  rw [tick, outside]

theorem tick_turn {lobby : Lobby} {visitor : Nat} {next : Visit} {registry : Registry}
    (goes : lobby.registry.step (lobby.visits visitor) = some (next, registry)) :
    lobby.tick (.turn visitor) = lobby.move visitor next registry := by
  rw [tick, goes]

theorem tick_leave {lobby : Lobby} {visitor : Nat} {table : TableRef} {lock : Nat}
    (inside : lobby.visits visitor = .inside table lock) (exit : Exit) :
    lobby.tick (.leave visitor exit) =
      lobby.move visitor .outside (lobby.registry.leave lock exit).2 := by
  rw [tick, inside]

/-- Let things happen in order. -/
def run (lobby : Lobby) (ticks : List Tick) : Lobby := ticks.foldl tick lobby

theorem run_concat (lobby : Lobby) (ticks : List Tick) (last : Tick) :
    lobby.run (ticks ++ [last]) = (lobby.run ticks).tick last := by
  rw [run, List.foldl_append]
  rfl

theorem run_append (lobby : Lobby) (early late : List Tick) :
    lobby.run (early ++ late) = (lobby.run early).run late :=
  List.foldl_append

/-- Who has the tick. -/
def Tick.visitor : Tick → Nat
  | .call visitor _ | .turn visitor | .leave visitor _ => visitor

theorem visits_tick_of_ne (lobby : Lobby) {tick : Tick} {other : Nat}
    (apart : other ≠ tick.visitor) : (lobby.tick tick).visits other = lobby.visits other := by
  cases tick with
  | call | turn | leave =>
      rw [Lobby.tick]
      split
      · exact lobby.visits_move_of_ne apart ..
      · rfl

end Lobby

/-- What a visitor does to the registry when it goes on. -/
inductive Visit.Act (registry : Registry) : Visit → Visit → Registry → Prop
  | call {table : TableRef} : Act registry .outside (.calling table) registry
  | take {table : TableRef} (free : registry.taken = false) :
      Act registry (.calling table) (.looking table) { registry with taken := true }
  | miss {table : TableRef} (absent : registry.numbers.find? table = none) :
      Act registry (.looking table) (.missing table) registry
  | find {table : TableRef} {lock : Nat} (known : registry.numbers.find? table = some lock) :
      Act registry (.looking table) (.found table lock) registry
  | make {table : TableRef} :
      Act registry (.missing table) (.found table registry.held.length) (registry.make table)
  | giveRegistry {table : TableRef} {lock : Nat} :
      Act registry (.found table lock) (.waiting table lock) { registry with taken := false }
  | enter {table : TableRef} {lock : Nat} (free : registry.isHeld lock = false) :
      Act registry (.waiting table lock) (.inside table lock) (registry.mark lock true)
  | leave {table : TableRef} {lock : Nat} (exit : Exit) :
      Act registry (.inside table lock) .outside (registry.leave lock exit).2

/-- What a tick does: one visitor goes on, or none. -/
inductive Lobby.Change (lobby : Lobby) : Lobby → Prop
  | nothing : Change lobby lobby
  | act {visitor : Nat} {next : Visit} {registry : Registry}
      (act : (lobby.visits visitor).Act lobby.registry next registry) :
      Change lobby (lobby.move visitor next registry)

theorem Visit.act_of_step {registry after : Registry} {visit next : Visit}
    (h : registry.step visit = some (next, after)) : visit.Act registry next after := by
  cases visit with
  | outside | inside => cases h
  | calling table =>
      obtain ⟨free, same⟩ := Option.ite_none_left_eq_some.1 h
      cases same
      exact .take (Bool.eq_false_iff.2 free)
  | looking table =>
      rw [Registry.step] at h
      split at h
      · rename_i absent
        cases h
        exact .miss absent
      · rename_i known
        cases h
        exact .find known
  | missing table =>
      cases h
      exact .make
  | found table lock =>
      cases h
      exact .giveRegistry
  | waiting table lock =>
      obtain ⟨free, same⟩ := Option.ite_none_left_eq_some.1 h
      cases same
      exact .enter (Bool.eq_false_iff.2 free)

theorem Lobby.change_tick (lobby : Lobby) (tick : Tick) : Change lobby (lobby.tick tick) := by
  cases tick with
  | call visitor table =>
      rw [Lobby.tick]
      split
      · rename_i outside
        exact .act (outside ▸ .call)
      · exact .nothing
  | turn visitor =>
      rw [Lobby.tick]
      split
      · rename_i stepped
        exact .act (Visit.act_of_step stepped)
      · exact .nothing
  | leave visitor exit =>
      rw [Lobby.tick]
      split
      · rename_i inside
        exact .act (inside ▸ .leave exit)
      · exact .nothing

end FlatStore
