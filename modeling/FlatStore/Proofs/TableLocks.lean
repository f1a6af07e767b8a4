import FlatStore.Proofs.Visitors
import Mathlib.Data.List.Induction

/-!
# Visitors keep each other out

A lock is held by the one visitor inside it, the registry by the one that looks something up, and a
table keeps its lock once it has one.  So at every moment of every run the locks tell who is inside,
and a visitor waits for nobody else.
-/

namespace FlatStore

/-! ## Who is where -/

namespace Visit

/-- The visitor has the registry to itself. -/
def HasRegistry : Visit → Prop
  | .looking _ | .missing _ | .found _ _ => True
  | _ => False

/-- The visitor has taken a lock. -/
def Holds (lock : Nat) : Visit → Prop
  | .inside _ taken => taken = lock
  | _ => False

/-- The table that a visitor is to visit, with its lock, as far as the visitor knows it. -/
def known? : Visit → Option (TableRef × Nat)
  | .found table lock | .waiting table lock | .inside table lock => some (table, lock)
  | _ => none

/-- The visitor waits for the lock of a table or has taken it. -/
def Seeks (table : TableRef) (lock : Nat) (visit : Visit) : Prop :=
  visit = .waiting table lock ∨ visit = .inside table lock

/-- The visitor is inside a table. -/
def IsInside (table : TableRef) (visit : Visit) : Prop := ∃ lock, visit = .inside table lock

theorem known?_of_seeks {table : TableRef} {lock : Nat} {visit : Visit}
    (seeks : visit.Seeks table lock) : visit.known? = some (table, lock) := by
  rcases seeks with rfl | rfl <;> rfl

end Visit

/-- What may be done to the locks by their tables. -/
inductive Locks.Change (locks : Locks) : Locks → Prop
  | nothing : Locks.Change locks locks
  | register (table : TableRef) : Locks.Change locks (locks.register table)
  | acquire {table : TableRef} {after : Locks} (taken : locks.acquire? table = some after) :
      Locks.Change locks after
  | release {table : TableRef} (held : locks.isHeld table = true) :
      Locks.Change locks (locks.release table)

namespace Lobby

/-- A flag that is set if and only if some visitor is in, and one at most is. -/
structure Guarded (flag : Bool) (In : Visit → Prop) (visits : Nat → Visit) : Prop where
  set_iff : flag = true ↔ ∃ visitor, In (visits visitor)
  one : ∀ visitor other, In (visits visitor) → In (visits other) → visitor = other

namespace Guarded

variable {flag : Bool} {In : Visit → Prop} {visits : Nat → Visit} {visitor : Nat} {next : Visit}

theorem not_in_of_clear (guarded : Guarded false In visits) (other : Nat) : ¬In (visits other) :=
  fun inside => Bool.false_ne_true (guarded.set_iff.2 ⟨other, inside⟩)

/-- A visitor goes on without going in or out. -/
theorem stay (guarded : Guarded flag In visits) (same : In next ↔ In (visits visitor)) :
    Guarded flag In (Function.update visits visitor next) := by
  have unchanged (other : Nat) :
      In (Function.update visits visitor next other) ↔ In (visits other) := by
    rcases eq_or_ne other visitor with rfl | apart
    · rw [Function.update_self, same]
    · rw [Function.update_of_ne apart]
  constructor
  · simpa only [unchanged] using guarded.set_iff
  · simpa only [unchanged] using guarded.one

/-- A visitor goes in while nobody is in. -/
theorem enter (guarded : Guarded false In visits) (inside : In next) :
    Guarded true In (Function.update visits visitor next) := by
  have only {other : Nat} (here : In (Function.update visits visitor next other)) :
      other = visitor := by
    by_contra apart
    rw [Function.update_of_ne apart] at here
    exact guarded.not_in_of_clear other here
  constructor
  · refine iff_of_true rfl ⟨visitor, ?_⟩
    rwa [Function.update_self]
  · intro first second first_in second_in
    exact (only first_in).trans (only second_in).symm

/-- The visitor that is in goes out. -/
theorem leave (guarded : Guarded flag In visits) (inside : In (visits visitor))
    (outside : ¬In next) : Guarded false In (Function.update visits visitor next) := by
  have nobody (other : Nat) : ¬In (Function.update visits visitor next other) := by
    rcases eq_or_ne other visitor with rfl | apart
    · rwa [Function.update_self]
    · rw [Function.update_of_ne apart]
      exact fun here => apart (guarded.one other visitor here inside)
  constructor
  · exact iff_of_false Bool.false_ne_true fun ⟨other, here⟩ => nobody other here
  · exact fun first _ first_in => absurd first_in (nobody first)

end Guarded

/-! ## What every act preserves -/

/-- The registry and the locks are guarded, and what visitors know is in the registry. -/
structure Sound (lobby : Lobby) : Prop where
  registry : Guarded lobby.registry.taken Visit.HasRegistry lobby.visits
  locks : ∀ lock, Guarded (lobby.registry.isHeld lock) (Visit.Holds lock) lobby.visits
  known : ∀ {visitor table lock}, (lobby.visits visitor).known? = some (table, lock) →
    lobby.registry.numbers.find? table = some lock
  missing : ∀ {visitor table}, lobby.visits visitor = .missing table →
    lobby.registry.numbers.find? table = none
  made : ∀ {table lock}, lobby.registry.numbers.find? table = some lock →
    lock < lobby.registry.held.length
  /-- Every table has a lock of its own. -/
  apart : ∀ {table other lock}, lobby.registry.numbers.find? table = some lock →
    lobby.registry.numbers.find? other = some lock → table = other

namespace Sound

variable {lobby : Lobby} {visitor : Nat} {next : Visit} {registry : Registry}

theorem empty : Sound Lobby.empty where
  registry := ⟨iff_of_false Bool.false_ne_true fun ⟨_, here⟩ => here, fun _ _ here => here.elim⟩
  locks _ := ⟨iff_of_false Bool.false_ne_true fun ⟨_, here⟩ => here, fun _ _ here => here.elim⟩
  known := nofun
  missing := nofun
  made := nofun
  apart := nofun

/-- A visitor that is inside holds the lock. -/
theorem isHeld_of_inside (sound : Sound lobby) {table : TableRef} {lock : Nat}
    (inside : lobby.visits visitor = .inside table lock) : lobby.registry.isHeld lock = true := by
  refine (sound.locks lock).set_iff.2 ⟨visitor, ?_⟩
  rw [inside]
  rfl

theorem lock_lt (sound : Sound lobby) {table : TableRef} {lock : Nat}
    (known : (lobby.visits visitor).known? = some (table, lock)) :
    lock < lobby.registry.held.length :=
  sound.made (sound.known known)

/-- The registry is guarded after an act. -/
theorem registry_act (sound : Sound lobby)
    (act : (lobby.visits visitor).Act lobby.registry next registry) :
    Guarded registry.taken Visit.HasRegistry (lobby.move visitor next registry).visits := by
  have guarded := sound.registry
  generalize here : lobby.visits visitor = visit at act
  -- Only two acts change who has the registry; a lock that is given back was held.
  have stay {next : Visit} (same : next.HasRegistry ↔ visit.HasRegistry) :
      Guarded lobby.registry.taken Visit.HasRegistry (lobby.move visitor next registry).visits :=
    guarded.stay (here ▸ same)
  cases act with
  | call => exact stay Iff.rfl
  | take free => exact (free ▸ guarded).enter trivial
  | miss | find | make => exact stay Iff.rfl
  | giveRegistry => exact guarded.leave (here ▸ trivial) id
  | enter => exact stay Iff.rfl
  | leave =>
      rw [Registry.leave, if_pos (sound.isHeld_of_inside here)]
      exact stay Iff.rfl

/-- A lock is guarded after an act. -/
theorem locks_act (sound : Sound lobby)
    (act : (lobby.visits visitor).Act lobby.registry next registry) (lock : Nat) :
    Guarded (registry.isHeld lock) (Visit.Holds lock)
      (lobby.move visitor next registry).visits := by
  have guarded := sound.locks lock
  generalize here : lobby.visits visitor = visit at act
  have stay {next : Visit} (same : next.Holds lock ↔ visit.Holds lock) :
      Guarded (lobby.registry.isHeld lock) (Visit.Holds lock)
        (lobby.move visitor next registry).visits :=
    guarded.stay (here ▸ same)
  cases act with
  | call | take | miss | find | giveRegistry => exact stay Iff.rfl
  | make =>
      rw [Registry.isHeld_make]
      exact stay Iff.rfl
  | @enter table taken free =>
      rw [Registry.isHeld_mark (sound.lock_lt (by rw [here]; rfl))]
      split
      · rename_i same
        subst same
        exact (free ▸ guarded).enter rfl
      · rename_i apart
        exact stay (iff_of_false (Ne.symm apart) id)
  | @leave table given =>
      rw [Registry.leave, if_pos (sound.isHeld_of_inside here),
        Registry.isHeld_mark (sound.lock_lt (by rw [here]; rfl))]
      split
      · rename_i same
        subst same
        exact guarded.leave (here ▸ rfl) id
      · rename_i apart
        exact stay (iff_of_false id (Ne.symm apart))

/-- No table loses its lock. -/
theorem find?_act (sound : Sound lobby)
    (act : (lobby.visits visitor).Act lobby.registry next registry) {table : TableRef} {lock : Nat}
    (found : lobby.registry.numbers.find? table = some lock) :
    registry.numbers.find? table = some lock := by
  generalize here : lobby.visits visitor = visit at act
  cases act with
  | call | take | miss | find | giveRegistry | enter => exact found
  | make =>
      rw [Registry.make, Index.find?_put_of_ne, found]
      rintro rfl
      rw [sound.missing here] at found
      cases found
  | leave =>
      rw [Registry.leave, if_pos (sound.isHeld_of_inside here)]
      exact found

/-- What visitors know is in the registry after an act. -/
theorem known_act (sound : Sound lobby)
    (act : (lobby.visits visitor).Act lobby.registry next registry) {other : Nat}
    {table : TableRef} {lock : Nat}
    (known : ((lobby.move visitor next registry).visits other).known? = some (table, lock)) :
    registry.numbers.find? table = some lock := by
  rcases eq_or_ne other visitor with rfl | apart
  · rw [visits_move_self] at known
    have was_known := @sound.known other
    generalize lobby.visits other = visit at act was_known
    cases act with
    | call | take | miss | leave => cases known
    | find found =>
        cases known
        exact found
    | make =>
        cases known
        exact Index.find?_put_self ..
    | giveRegistry => exact was_known known
    | enter => exact was_known known
  · rw [visits_move_of_ne _ apart] at known
    exact sound.find?_act act (sound.known known)

/-- A table that somebody misses is missing after an act. -/
theorem missing_act (sound : Sound lobby)
    (act : (lobby.visits visitor).Act lobby.registry next registry) {other : Nat}
    {table : TableRef} (misses : (lobby.move visitor next registry).visits other = .missing table) :
    registry.numbers.find? table = none := by
  rcases eq_or_ne other visitor with rfl | apart
  · rw [visits_move_self] at misses
    subst misses
    generalize lobby.visits other = visit at act
    cases act with
    | miss absent => exact absent
  · rw [visits_move_of_ne _ apart] at misses
    -- While it misses its lock it has the registry, so nobody else makes one.
    have alone := sound.registry.one other visitor (misses ▸ trivial)
    generalize lobby.visits visitor = visit at act alone
    cases act with
    | make => exact absurd (alone trivial) apart
    | call | take | miss | find | giveRegistry | enter => exact sound.missing misses
    | @leave _ lock exit =>
        rw [Registry.leave]
        split <;> exact sound.missing misses

/-- Locks were made before they are in the registry, and each is there for one table. -/
theorem numbers_act (sound : Sound lobby)
    (act : (lobby.visits visitor).Act lobby.registry next registry) :
    (∀ {table lock}, registry.numbers.find? table = some lock → lock < registry.held.length) ∧
      ∀ {table other lock}, registry.numbers.find? table = some lock →
        registry.numbers.find? other = some lock → table = other := by
  generalize lobby.visits visitor = visit at act
  cases act with
  | call | take | miss | find | giveRegistry => exact ⟨sound.made, sound.apart⟩
  | enter =>
      refine ⟨fun found => ?_, sound.apart⟩
      rw [Registry.mark, List.length_set]
      exact sound.made found
  | leave =>
      rw [Registry.leave]
      split
      · refine ⟨fun found => ?_, sound.apart⟩
        rw [Registry.mark, List.length_set]
        exact sound.made found
      · exact ⟨sound.made, sound.apart⟩
  | @make made_for =>
      -- The new lock has the next number, which no older lock has.
      have either {table : TableRef} {lock : Nat}
          (found : (lobby.registry.make made_for).numbers.find? table = some lock) :
          table = made_for ∧ lock = lobby.registry.held.length ∨
            lobby.registry.numbers.find? table = some lock ∧ lock < lobby.registry.held.length := by
        rw [Registry.make, Index.find?_put] at found
        split at found
        · rename_i same
          cases found
          exact .inl ⟨same.symm, rfl⟩
        · exact .inr ⟨found, sound.made found⟩
      constructor
      · intro table lock found
        rw [Registry.make, List.length_append, List.length_singleton]
        rcases either found with ⟨-, rfl⟩ | ⟨-, old⟩ <;> omega
      · intro table other lock found other_found
        rcases either found with ⟨rfl, rfl⟩ | ⟨found, old⟩ <;>
          rcases either other_found with ⟨rfl, new⟩ | ⟨other_found, other_old⟩
        · rfl
        · exact absurd other_old (Nat.lt_irrefl _)
        · exact absurd new (Nat.ne_of_lt old)
        · exact sound.apart found other_found

theorem act (sound : Sound lobby)
    (act : (lobby.visits visitor).Act lobby.registry next registry) :
    Sound (lobby.move visitor next registry) where
  registry := sound.registry_act act
  locks := sound.locks_act act
  known := sound.known_act act
  missing := sound.missing_act act
  made := (sound.numbers_act act).1
  apart := (sound.numbers_act act).2

theorem change (sound : Sound lobby) {after : Lobby} (change : Change lobby after) :
    Sound after := by
  cases change with
  | nothing => exact sound
  | act act => exact sound.act act

end Sound

theorem Sound.run {lobby : Lobby} (sound : Sound lobby) (ticks : List Tick) :
    Sound (lobby.run ticks) := by
  induction ticks generalizing lobby with
  | nil => exact sound
  | cons tick rest ih => exact ih (sound.change (change_tick lobby tick))

theorem sound_run (ticks : List Tick) : Sound (empty.run ticks) := Sound.empty.run ticks

/-! ## The locks of the tables -/

namespace Sound

variable {lobby : Lobby}

theorem find?_of_inside (sound : Sound lobby) {visitor : Nat} {table : TableRef} {lock : Nat}
    (inside : lobby.visits visitor = .inside table lock) :
    lobby.registry.numbers.find? table = some lock :=
  sound.known (Visit.known?_of_seeks (.inr inside))

/-- A lock is held if and only if somebody is inside its table. -/
theorem isHeld_iff (sound : Sound lobby) {table : TableRef} {lock : Nat}
    (found : lobby.registry.numbers.find? table = some lock) :
    lobby.registry.isHeld lock = true ↔ ∃ visitor, (lobby.visits visitor).IsInside table := by
  rw [(sound.locks lock).set_iff]
  constructor
  · rintro ⟨visitor, holds⟩
    refine ⟨visitor, lock, ?_⟩
    cases here : lobby.visits visitor with
    | inside other taken =>
        rw [here] at holds
        have known := sound.find?_of_inside here
        rw [show taken = lock from holds] at known ⊢
        rw [sound.apart known found]
    | _ =>
        rw [here] at holds
        exact holds.elim
  · rintro ⟨visitor, taken, inside⟩
    refine ⟨visitor, ?_⟩
    have known := sound.find?_of_inside inside
    rw [inside]
    exact Option.some.inj (known.symm.trans found)

/-- The locks by their tables tell who is inside. -/
theorem isHeld_locks_iff (sound : Sound lobby) (table : TableRef) :
    lobby.registry.locks.isHeld table = true ↔
      ∃ visitor, (lobby.visits visitor).IsInside table := by
  rw [Registry.isHeld_locks]
  constructor
  · rintro ⟨lock, found, held⟩
    exact (sound.isHeld_iff found).1 held
  · rintro ⟨visitor, lock, inside⟩
    have found := sound.find?_of_inside inside
    exact ⟨lock, found, (sound.isHeld_iff found).2 ⟨visitor, lock, inside⟩⟩

/-- One visitor at most is inside a table. -/
theorem inside_unique (sound : Sound lobby) {table : TableRef} {visitor other : Nat}
    (inside : (lobby.visits visitor).IsInside table)
    (other_inside : (lobby.visits other).IsInside table) : visitor = other := by
  obtain ⟨lock, here⟩ := inside
  obtain ⟨other_lock, there⟩ := other_inside
  have same := (sound.find?_of_inside there).symm.trans (sound.find?_of_inside here)
  refine (sound.locks lock).one visitor other ?_ ?_
  · rw [here]
    rfl
  · rw [there]
    exact Option.some.inj same

/-- A visitor waits for a lock if and only if another one is inside the table. -/
theorem waits_iff (sound : Sound lobby) {visitor : Nat} {table : TableRef} {lock : Nat}
    (waiting : lobby.visits visitor = .waiting table lock) :
    lobby.registry.step (lobby.visits visitor) = none ↔
      ∃ other, other ≠ visitor ∧ (lobby.visits other).IsInside table := by
  have found := sound.known (Visit.known?_of_seeks (.inl waiting))
  have blocked : lobby.registry.step (lobby.visits visitor) = none ↔
      lobby.registry.isHeld lock = true := by
    rw [waiting, Registry.step]
    split <;> simp_all
  rw [blocked, sound.isHeld_iff found]
  refine exists_congr fun other => (and_iff_right_of_imp ?_).symm
  rintro ⟨taken, inside⟩ rfl
  rw [waiting] at inside
  cases inside

/-- A visitor waits for the registry if and only if another one has it. -/
theorem calls_iff (sound : Sound lobby) {visitor : Nat} {table : TableRef}
    (calling : lobby.visits visitor = .calling table) :
    lobby.registry.step (lobby.visits visitor) = none ↔
      ∃ other, other ≠ visitor ∧ (lobby.visits other).HasRegistry := by
  have blocked : lobby.registry.step (lobby.visits visitor) = none ↔
      lobby.registry.taken = true := by
    rw [calling, Registry.step]
    split <;> simp_all
  rw [blocked, sound.registry.set_iff]
  refine exists_congr fun other => (and_iff_right_of_imp ?_).symm
  rintro has rfl
  rw [calling] at has
  exact has

/-- Leaving gives the lock back and lets through how the block was left. -/
theorem leave_inside (sound : Sound lobby) {visitor : Nat} {table : TableRef} {lock : Nat}
    (inside : lobby.visits visitor = .inside table lock) (exit : Exit) :
    lobby.registry.leave lock exit = (.passed exit, lobby.registry.mark lock false) ∧
      (lobby.registry.mark lock false).locks = lobby.registry.locks.release table := by
  have known : (lobby.visits visitor).known? = some (table, lock) := by
    rw [inside]
    rfl
  refine ⟨?_, ?_⟩
  · rw [Registry.leave, if_pos (sound.isHeld_of_inside inside)]
  · exact Registry.locks_mark (sound.known known) (sound.lock_lt known)
      (fun other found => sound.apart (sound.known known) found) false

end Sound

/-- Whoever has the registry goes on. -/
theorem step_ne_none_of_hasRegistry {registry : Registry} {visit : Visit}
    (has : visit.HasRegistry) : registry.step visit ≠ none := by
  cases visit with
  | looking table =>
      rw [Registry.step]
      split <;> exact Option.some_ne_none _
  | missing | found => exact Option.some_ne_none _
  | _ => exact has.elim

/-- A tick registers, takes or releases one lock, or none. -/
theorem Sound.locks_change {lobby after : Lobby} (sound : Sound lobby)
    (change : Change lobby after) :
    Locks.Change lobby.registry.locks after.registry.locks := by
  cases change with
  | nothing => exact .nothing
  | @act visitor next registry act =>
      generalize here : lobby.visits visitor = visit at act
      cases act with
      | call | take | miss | find | giveRegistry => exact .nothing
      | make =>
          rw [move, Registry.locks_make (sound.missing here)]
          exact .register _
      | @enter table lock free =>
          have known : (lobby.visits visitor).known? = some (table, lock) := by
            rw [here]
            rfl
          have unheld : lobby.registry.locks.isHeld table = false := by
            rw [Locks.isHeld, Registry.find?_locks, sound.known known, Option.map_some, free]
            rfl
          refine @Locks.Change.acquire _ table _ ?_
          rw [move, Registry.locks_mark (sound.known known) (sound.lock_lt known)
            (fun other found => sound.apart (sound.known known) found), Locks.acquire?, unheld]
          rfl
      | @leave table lock exit =>
          obtain ⟨left, released⟩ := sound.leave_inside here exit
          rw [move, left, released]
          exact .release ((sound.isHeld_locks_iff table).2 ⟨visitor, lock, here⟩)

/-! ## Tables that were visited -/

/-- Somebody has waited for a table or entered it. -/
def Sought (ticks : List Tick) (table : TableRef) : Prop :=
  ∃ early, early <+: ticks ∧
    ∃ visitor lock, ((empty.run early).visits visitor).Seeks table lock

theorem Sought.append {ticks : List Tick} {table : TableRef} (sought : Sought ticks table)
    (late : List Tick) : Sought (ticks ++ late) table := by
  obtain ⟨early, begins, seeks⟩ := sought
  exact ⟨early, begins.trans (List.prefix_append ..), seeks⟩

/-- No table loses its lock. -/
theorem Sound.find?_run {lobby : Lobby} (sound : Sound lobby) {table : TableRef} {lock : Nat}
    (found : lobby.registry.numbers.find? table = some lock) (late : List Tick) :
    (lobby.run late).registry.numbers.find? table = some lock := by
  induction late generalizing lobby with
  | nil => exact found
  | cons tick late ih =>
      have change := lobby.change_tick tick
      refine ih (sound.change change) ?_
      generalize lobby.tick tick = after at change
      cases change with
      | nothing => exact found
      | act act => exact sound.find?_act act found

theorem find?_of_early {early ticks : List Tick} (begins : early <+: ticks) {table : TableRef}
    {lock : Nat} (found : (empty.run early).registry.numbers.find? table = some lock) :
    (empty.run ticks).registry.numbers.find? table = some lock := by
  obtain ⟨late, rfl⟩ := begins
  rw [run_append]
  exact (sound_run early).find?_run found late

/-- A lock was made for somebody who has found it by now. -/
theorem Change.find?_or {lobby after : Lobby} (change : Change lobby after) {table : TableRef}
    {lock : Nat} (found : after.registry.numbers.find? table = some lock) :
    lobby.registry.numbers.find? table = some lock ∨
      ∃ visitor, after.visits visitor = .found table lock := by
  cases change with
  | nothing => exact .inl found
  | @act visitor next registry act =>
      generalize lobby.visits visitor = visit at act
      cases act with
      | call | take | miss | find | giveRegistry | enter => exact .inl found
      | @leave _ given =>
          rw [move, Registry.leave] at found
          split at found <;> exact .inl found
      | make =>
          rw [move, Registry.make, Index.find?_put] at found
          split at found
          · rename_i same
            cases found
            exact .inr ⟨visitor, by rw [visits_move_self, same]⟩
          · exact .inl found

/-- Who has found a lock waits for it next. -/
theorem Change.found_or {lobby after : Lobby} (change : Change lobby after) {visitor : Nat}
    {table : TableRef} {lock : Nat} (found : lobby.visits visitor = .found table lock) :
    after.visits visitor = .found table lock ∨ after.visits visitor = .waiting table lock := by
  cases change with
  | nothing => exact .inl found
  | @act mover next registry act =>
      rcases eq_or_ne visitor mover with rfl | apart
      · rw [found] at act
        rw [visits_move_self]
        cases act
        exact .inr rfl
      · rw [visits_move_of_ne _ apart]
        exact .inl found

/-- A table with a lock was sought, unless somebody is about to. -/
theorem sought_or {ticks : List Tick} {table : TableRef} {lock : Nat}
    (found : (empty.run ticks).registry.numbers.find? table = some lock) :
    Sought ticks table ∨ ∃ visitor, (empty.run ticks).visits visitor = .found table lock := by
  induction ticks using List.reverseRecOn with
  | nil => cases found
  | append_singleton ticks last ih =>
      have change := (empty.run ticks).change_tick last
      rw [← run_concat] at change
      rcases change.find?_or found with earlier | here
      · rcases ih earlier with sought | ⟨visitor, was_found⟩
        · exact .inl (sought.append [last])
        · rcases change.found_or was_found with still | waiting
          · exact .inr ⟨visitor, still⟩
          · exact .inl ⟨_, List.prefix_refl _, visitor, lock, .inl waiting⟩
      · exact .inr here

/-- While the registry is free, the tables with locks are those that were sought. -/
theorem sought_iff {ticks : List Tick} (free : (empty.run ticks).registry.taken = false)
    (table : TableRef) :
    Sought ticks table ↔ table ∈ (empty.run ticks).registry.numbers.keys := by
  rw [Index.mem_keys_iff, Option.isSome_iff_exists]
  constructor
  · rintro ⟨early, begins, visitor, lock, seeks⟩
    exact ⟨lock, find?_of_early begins ((sound_run early).known (Visit.known?_of_seeks seeks))⟩
  · rintro ⟨lock, found⟩
    refine (sought_or found).resolve_right ?_
    rintro ⟨visitor, here⟩
    have guarded := (sound_run ticks).registry
    rw [free] at guarded
    refine guarded.not_in_of_clear visitor ?_
    rw [here]
    trivial

end Lobby
end FlatStore
