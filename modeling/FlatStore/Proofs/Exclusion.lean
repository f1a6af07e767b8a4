import FlatStore.Proofs.TableLocks

/-!
# Table locks exclude and do not wedge

Whoever has the registry gives it back by turns of its own, and whoever wants to enter a table in
which nobody is gets inside by turns of its own once the registry is free.  Together with what every
run preserves this is all that the locks of tables promise.
-/

namespace FlatStore

/-! ## Getting in -/

namespace Visit

/-- The table that a visitor is about to enter. -/
def goal? : Visit → Option TableRef
  | .calling table | .looking table | .missing table => some table
  | .found table _ | .waiting table _ => some table
  | _ => none

/-- After how many turns at most a visitor is inside, if nobody is in its way. -/
def turnsLeft : Visit → Nat
  | .calling _ => 5
  | .looking _ => 4
  | .missing _ => 3
  | .found _ _ => 2
  | .waiting _ _ => 1
  | _ => 0

/-- A visitor with a goal gets nearer to it. -/
theorem Act.approach {registry after : Registry} {visit next : Visit} {table : TableRef}
    (act : visit.Act registry next after) (goal : visit.goal? = some table) :
    next.IsInside table ∨ next.goal? = some table ∧ next.turnsLeft < visit.turnsLeft ∧
      ∀ other, next ≠ .calling other := by
  cases act with
  | call | leave => cases goal
  | enter =>
      cases goal
      exact .inl ⟨_, rfl⟩
  | take | miss | find | make | giveRegistry => exact .inr ⟨goal, by simp [turnsLeft], nofun⟩

/-- Whoever has the registry keeps it or gives it back, without entering a table. -/
theorem Act.of_hasRegistry {registry after : Registry} {visit next : Visit}
    (act : visit.Act registry next after) (has : visit.HasRegistry) :
    next.turnsLeft < visit.turnsLeft ∧ (∀ table, ¬next.IsInside table) ∧
      (next.HasRegistry ∨ after.taken = false) := by
  cases act with
  | miss | find | make => exact ⟨by simp [turnsLeft], nofun, .inl trivial⟩
  | giveRegistry => exact ⟨by simp [turnsLeft], nofun, .inr rfl⟩
  | _ => exact has.elim

end Visit

namespace Lobby

/-- Turns of one visitor. -/
def turns (visitor count : Nat) : List Tick := List.replicate count (.turn visitor)

/-- A turn of a visitor that need not wait. -/
theorem exists_turn {lobby : Lobby} {visitor : Nat}
    (goes : lobby.registry.step (lobby.visits visitor) ≠ none) :
    ∃ next registry, (lobby.visits visitor).Act lobby.registry next registry ∧
      lobby.tick (.turn visitor) = lobby.move visitor next registry := by
  obtain ⟨⟨next, registry⟩, stepped⟩ := Option.ne_none_iff_exists'.1 goes
  exact ⟨next, registry, Visit.act_of_step stepped, tick_turn stepped⟩

theorem run_turns_succ {lobby after : Lobby} {visitor : Nat}
    (moved : lobby.tick (.turn visitor) = after) (count : Nat) :
    lobby.run (turns visitor (count + 1)) = after.run (turns visitor count) := by
  rw [turns, List.replicate_succ, Lobby.run, List.foldl_cons, moved]
  rfl

/-- By turns of its own a visitor gives the registry back, and nothing else changes. -/
theorem Sound.exists_free {lobby : Lobby} (sound : Sound lobby) {visitor : Nat}
    (has : (lobby.visits visitor).HasRegistry) :
    ∃ count, (lobby.run (turns visitor count)).registry.taken = false ∧
      (∀ other, other ≠ visitor →
        (lobby.run (turns visitor count)).visits other = lobby.visits other) ∧
      ∀ table, ¬((lobby.run (turns visitor count)).visits visitor).IsInside table := by
  induction left : (lobby.visits visitor).turnsLeft using Nat.strongRecOn generalizing lobby with
  | ind size ih =>
      obtain ⟨next, registry, act, moved⟩ := exists_turn (step_ne_none_of_hasRegistry has)
      have next_here := lobby.visits_move_self visitor next registry
      obtain ⟨nearer, outside, still | free⟩ := act.of_hasRegistry has
      · obtain ⟨count, free, others, inside⟩ :=
          ih next.turnsLeft (left ▸ nearer) (sound.act act) (by rwa [next_here]) (by rw [next_here])
        refine ⟨count + 1, ?_⟩
        rw [run_turns_succ moved]
        refine ⟨free, fun other apart => ?_, inside⟩
        exact (others other apart).trans (lobby.visits_move_of_ne apart next registry)
      · refine ⟨1, ?_⟩
        rw [run_turns_succ moved]
        refine ⟨free, fun other apart => lobby.visits_move_of_ne apart next registry, ?_⟩
        intro table inside
        exact outside table (next_here ▸ inside)

/-- By turns of its own a visitor gets inside, if neither the registry nor its table is in use. -/
theorem Sound.exists_inside {lobby : Lobby} (sound : Sound lobby) {visitor : Nat}
    {table : TableRef} (goal : (lobby.visits visitor).goal? = some table)
    (nobody : ∀ other, ¬(lobby.visits other).IsInside table)
    (free : ∀ other, lobby.visits visitor = .calling other → lobby.registry.taken = false) :
    ∃ count, ((lobby.run (turns visitor count)).visits visitor).IsInside table := by
  induction left : (lobby.visits visitor).turnsLeft using Nat.strongRecOn generalizing lobby with
  | ind size ih =>
      have goes : lobby.registry.step (lobby.visits visitor) ≠ none := by
        cases here : lobby.visits visitor with
        | outside | inside =>
            rw [here] at goal
            cases goal
        | calling other =>
            rw [Registry.step, free other here]
            exact Option.some_ne_none _
        | looking | missing | found => exact step_ne_none_of_hasRegistry trivial
        | waiting other lock =>
            rw [here] at goal
            cases goal
            intro stuck
            rw [← here] at stuck
            obtain ⟨other, -, inside⟩ := (sound.waits_iff here).1 stuck
            exact nobody other inside
      obtain ⟨next, registry, act, moved⟩ := exists_turn goes
      have next_here := lobby.visits_move_self visitor next registry
      rcases act.approach goal with inside | ⟨next_goal, nearer, not_calling⟩
      · refine ⟨1, ?_⟩
        rw [run_turns_succ moved]
        exact next_here.symm ▸ inside
      · have still_nobody (other : Nat) :
            ¬((lobby.move visitor next registry).visits other).IsInside table := by
          rcases eq_or_ne other visitor with rfl | apart
          · rw [next_here]
            rintro ⟨lock, rfl⟩
            cases next_goal
          · rw [visits_move_of_ne _ apart]
            exact nobody other
        obtain ⟨count, inside⟩ := ih next.turnsLeft (left ▸ nearer) (sound.act act)
          (by rwa [next_here]) still_nobody
          (fun other calling => absurd (next_here.symm.trans calling) (not_calling other))
          (by rw [next_here])
        refine ⟨count + 1, ?_⟩
        rwa [run_turns_succ moved]

/-- Turns of visitors that want to enter a table or have the registry. -/
def Helps (lobby : Lobby) (visitor : Nat) (tick : Tick) : Prop :=
  ∃ mover, tick = .turn mover ∧ (mover = visitor ∨ (lobby.visits mover).HasRegistry)

/-- A visitor gets inside a table in which nobody is, by its own turns and those of a visitor that
has the registry. -/
theorem Sound.exists_entering {lobby : Lobby} (sound : Sound lobby) {visitor : Nat}
    {table : TableRef} (goal : (lobby.visits visitor).goal? = some table)
    (nobody : ∀ other, ¬(lobby.visits other).IsInside table) :
    ∃ late, (∀ tick ∈ late, lobby.Helps visitor tick) ∧
      ((lobby.run late).visits visitor).IsInside table := by
  have own (count : Nat) : ∀ tick ∈ turns visitor count, lobby.Helps visitor tick :=
    fun tick member => ⟨visitor, List.eq_of_mem_replicate member, .inl rfl⟩
  by_cases queued : (∃ other, lobby.visits visitor = .calling other) ∧
      lobby.registry.taken = true
  · -- The visitor that has the registry gives it back first.
    obtain ⟨⟨other, calling⟩, taken⟩ := queued
    obtain ⟨holder, has⟩ := sound.registry.set_iff.1 taken
    have apart : visitor ≠ holder := by
      rintro rfl
      rw [calling] at has
      exact has
    obtain ⟨first, free, others, holder_outside⟩ := sound.exists_free has
    have still_here := others visitor apart
    have sound_between : Sound (lobby.run (turns holder first)) := sound.run _
    obtain ⟨second, inside⟩ := sound_between.exists_inside (by rwa [still_here])
      (fun another => by
        rcases eq_or_ne another holder with rfl | away
        · exact holder_outside table
        · rw [others another away]
          exact nobody another)
      (fun _ _ => free)
    refine ⟨turns holder first ++ turns visitor second, fun tick member => ?_, ?_⟩
    · rcases List.mem_append.1 member with early | late
      · exact ⟨holder, List.eq_of_mem_replicate early, .inr has⟩
      · exact own second tick late
    · rwa [run_append]
  · have free (other : TableRef) (calling : lobby.visits visitor = .calling other) :
        lobby.registry.taken = false := by
      by_contra taken
      exact queued ⟨⟨other, calling⟩, Bool.not_eq_false _ ▸ taken⟩
    obtain ⟨count, inside⟩ := sound.exists_inside goal nobody free
    exact ⟨turns visitor count, own count, inside⟩

/-! ## Every run -/

/-- What the locks of tables promise at the end of a run. -/
structure Regular (ticks : List Tick) (lobby : Lobby) : Prop where
  /-- One visitor at most is inside a table. -/
  exclusive : ∀ table visitor other, (lobby.visits visitor).IsInside table →
    (lobby.visits other).IsInside table → visitor = other
  /-- The lock of a table is held exactly while somebody is inside. -/
  held : ∀ table, lobby.registry.locks.isHeld table = true ↔
    ∃ visitor, (lobby.visits visitor).IsInside table
  /-- A lock that was looked up some time ago tells who is inside now.  If there was none, nobody
  was inside then. -/
  asked : ∀ early, early <+: ticks → ∀ table,
    match (empty.run early).registry.numbers.find? table with
    | none => ∀ visitor, ¬((empty.run early).visits visitor).IsInside table
    | some lock => lobby.registry.isHeld lock = true ↔
        ∃ visitor, (lobby.visits visitor).IsInside table
  /-- A visitor waits for a lock only while another one is inside the table. -/
  waits : ∀ visitor table lock, lobby.visits visitor = .waiting table lock →
    (lobby.registry.step (lobby.visits visitor) = none ↔
      ∃ other, other ≠ visitor ∧ (lobby.visits other).IsInside table)
  /-- A visitor waits for the registry only while another one has it. -/
  calls : ∀ visitor table, lobby.visits visitor = .calling table →
    (lobby.registry.step (lobby.visits visitor) = none ↔
      ∃ other, other ≠ visitor ∧ (lobby.visits other).HasRegistry)
  /-- A visitor that has the registry does not wait. -/
  passes : ∀ visitor, (lobby.visits visitor).HasRegistry →
    lobby.registry.step (lobby.visits visitor) ≠ none
  /-- While nobody is inside a table, everybody who wants to can get inside, with the help of nobody
  but a visitor that has the registry. -/
  enters : ∀ visitor table, (lobby.visits visitor).goal? = some table →
    (∀ other, ¬(lobby.visits other).IsInside table) →
    ∃ late, (∀ tick ∈ late, lobby.Helps visitor tick) ∧
      ((lobby.run late).visits visitor).IsInside table
  /-- However a visitor leaves, the exit comes through and no other table is freed. -/
  leaves : ∀ visitor table lock exit, lobby.visits visitor = .inside table lock →
    (lobby.registry.leave lock exit).1 = .passed exit ∧
    (lobby.tick (.leave visitor exit)).visits = Function.update lobby.visits visitor .outside ∧
    ∀ other, (lobby.tick (.leave visitor exit)).registry.locks.isHeld other =
      (decide (table ≠ other) && lobby.registry.locks.isHeld other)
  /-- While the registry is free, there are as many locks as tables for which somebody has waited or
  that somebody has entered. -/
  counts : lobby.registry.taken = false → ∃ tables : List TableRef, tables.Nodup ∧
    (∀ table, table ∈ tables ↔ Sought ticks table) ∧ lobby.registry.locks.count = tables.length
  /-- A table has the same lock for everybody at all times. -/
  same : ∀ early, early <+: ticks → ∀ table visitor other lock other_lock,
    ((empty.run early).visits visitor).Seeks table lock →
    (lobby.visits other).Seeks table other_lock → lock = other_lock
  /-- What happens next to the locks is one of their operations. -/
  changes : ∀ tick, Locks.Change lobby.registry.locks (lobby.tick tick).registry.locks

theorem regular_run (ticks : List Tick) : Regular ticks (empty.run ticks) where
  exclusive _ _ _ := (sound_run ticks).inside_unique
  held := (sound_run ticks).isHeld_locks_iff
  asked early begins table := by
    split
    · rename_i absent
      rintro visitor ⟨lock, inside⟩
      rw [(sound_run early).find?_of_inside inside] at absent
      cases absent
    · rename_i lock found
      exact (sound_run ticks).isHeld_iff (find?_of_early begins found)
  waits _ _ _ := (sound_run ticks).waits_iff
  calls _ _ := (sound_run ticks).calls_iff
  passes _ := step_ne_none_of_hasRegistry
  enters _ _ := (sound_run ticks).exists_entering
  leaves visitor table lock exit inside := by
    obtain ⟨left, released⟩ := (sound_run ticks).leave_inside inside exit
    rw [tick_leave inside, left]
    refine ⟨rfl, rfl, fun other => ?_⟩
    rw [move, released, Locks.isHeld_release]
  counts free := by
    refine ⟨_, (empty.run ticks).registry.numbers.nodup_keys,
      fun table => (sought_iff free table).symm, ?_⟩
    rw [← Registry.keys_locks, Locks.count, Index.size, Index.keys, List.length_map]
  same early begins table visitor other lock other_lock seeks other_seeks := by
    have found := find?_of_early begins ((sound_run early).known (Visit.known?_of_seeks seeks))
    have other_found := (sound_run ticks).known (Visit.known?_of_seeks other_seeks)
    exact Option.some.inj (found.symm.trans other_found)
  changes tick := (sound_run ticks).locks_change (change_tick ..)

end Lobby
end FlatStore
