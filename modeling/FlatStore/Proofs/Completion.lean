import FlatStore.Proofs.Calls

/-!
# Runs that can be carried on

A lock that is held is held by a call that can move, and every call has few moves ahead.  So no run
gets stuck: it can be carried on until every call has returned.
-/

namespace FlatStore

/-! ## Moves to come -/

namespace Stage

/-- How many moves a call has ahead at most. -/
def movesLeft : Stage → Nat
  | .begun _ => 7
  | .resolved _ _ => 6
  | .waiting _ _ => 5
  | .holding _ _ => 4
  | .numbered _ _ _ => 3
  | .appended _ _ => 2
  | .leaving _ _ => 1
  | .reading _ => 1
  | .queued _ => 5
  | .checking _ => 4
  | .making _ => 3
  | .entering _ => 2
  | .closing _ _ => 1
  | .finished _ => 0

theorem Move.movesLeft_lt {shared after : Shared} {stage next : Stage}
    (move : Move shared stage next after) : next.movesLeft < stage.movesLeft := by
  cases move <;> simp [movesLeft, finish]

/-- A call moves unless it is over or waits for a lock. -/
theorem step_eq_none {shared : Shared} {stage : Stage} (stuck : stage.step shared = none) :
    (∃ result, stage = .finished result) ∨
      (∃ table values, stage = .waiting table values ∧
        shared.store.locks.isHeld table.ref = true) ∨
      ∃ creation, stage = .queued creation ∧ shared.catalogHeld = true := by
  cases stage with
  | finished result => exact .inl ⟨result, rfl⟩
  | waiting table values =>
      rw [step] at stuck
      split at stuck
      · rename_i held
        exact .inr (.inl ⟨table, values, rfl, held⟩)
      · cases stuck
  | queued creation =>
      rw [step] at stuck
      split at stuck
      · rename_i held
        exact .inr (.inr ⟨creation, rfl, held⟩)
      · cases stuck
  | numbered table values id =>
      rw [step] at stuck
      generalize shared.store.appendRow table id values = appended at stuck
      rcases appended with ⟨store, failure | done⟩ <;> cases stuck
  | checking | making | appended =>
      rw [step] at stuck
      split at stuck <;> cases stuck
  | _ => cases stuck

/-- A call that has locked a table does not wait. -/
theorem step_ne_none_of_locked {shared : Shared} {stage : Stage} {ref : TableRef}
    (locked : stage.locked? = some ref) : stage.step shared ≠ none := by
  intro stuck
  rcases step_eq_none stuck with ⟨_, rfl⟩ | ⟨_, _, rfl, -⟩ | ⟨_, rfl, -⟩ <;> cases locked

/-- A creation that holds the catalog lock does not wait. -/
theorem step_ne_none_of_holdsCatalog {shared : Shared} {stage : Stage}
    (holds : stage.HoldsCatalog) : stage.step shared ≠ none := by
  intro stuck
  rcases step_eq_none stuck with ⟨_, rfl⟩ | ⟨_, _, rfl, -⟩ | ⟨_, rfl, -⟩ <;> exact holds

end Stage

namespace Thread

/-- How many steps a thread has ahead at most. -/
def stepsLeft (thread : Thread) : Nat := thread.stage.movesLeft + 8 * thread.pending.length

theorem Move.stepsLeft_lt {shared after : Shared} {thread next : Thread}
    (move : Move shared thread next after) : next.stepsLeft < thread.stepsLeft := by
  cases move with
  | call =>
      simp only [stepsLeft, Stage.movesLeft, List.length_cons]
      omega
  | stage move => exact Nat.add_lt_add_right move.movesLeft_lt _

/-- A thread that makes no step has nothing more to do or waits. -/
theorem step_eq_none {shared : Shared} {thread : Thread} (stuck : thread.step shared = none) :
    (∃ result, thread.stage = .finished result ∧ thread.pending = []) ∨
      (¬∃ result, thread.stage = .finished result) ∧ thread.stage.step shared = none := by
  obtain ⟨stage, pending, results⟩ := thread
  by_cases ended : ∃ result, stage = .finished result
  · obtain ⟨result, rfl⟩ := ended
    cases pending with
    | nil => exact .inl ⟨result, rfl, rfl⟩
    | cons call pending => cases stuck
  · refine .inr ⟨ended, ?_⟩
    rw [step] at stuck
    split at stuck
    · exact absurd ⟨_, ‹_›⟩ ended
    · cases stuck
    · exact Option.map_eq_none_iff.1 stuck

/-- A call that is neither to come nor over is the present one. -/
theorem stage_eq_of_mem_stages {thread : Thread} {stage : Stage} (member : stage ∈ thread.stages)
    (begun : ∀ call, stage ≠ .begun call) (unfinished : ∀ result, stage ≠ .finished result) :
    thread.stage = stage := by
  rw [stages, List.mem_append, List.mem_cons] at member
  rcases member with ended | here | later
  · obtain ⟨result, -, rfl⟩ := List.mem_map.1 ended
    exact absurd rfl (unfinished result)
  · exact here.symm
  · obtain ⟨call, -, rfl⟩ := List.mem_map.1 later
    exact absurd rfl (begun call)

/-- A thread that has nothing more to do has all its calls over. -/
theorem exists_finished_of_stepsLeft {thread : Thread} {stage : Stage}
    (idle : thread.stepsLeft = 0) (member : stage ∈ thread.stages) :
    ∃ result, stage = .finished result := by
  obtain ⟨present, pending, results⟩ := thread
  have no_steps : present.movesLeft + 8 * pending.length = 0 := idle
  obtain rfl : pending = [] := List.length_eq_zero_iff.1 (by omega)
  rw [stages, List.mem_append, List.map_nil, List.mem_singleton] at member
  rcases member with ended | rfl
  · obtain ⟨result, -, rfl⟩ := List.mem_map.1 ended
    exact ⟨result, rfl⟩
  · cases stage with
    | finished result => exact ⟨result, rfl⟩
    | _ => cases no_steps

end Thread

/-! ## Locks -/

namespace Crew

/-- A lock that is held is held by a call. -/
def Attended (Inside : Stage → Prop) (held : Shared → Bool) (crew : Crew) : Prop :=
  held crew.shared = true →
    ∃ thread position stage, crew.stage? thread position = some stage ∧ Inside stage

theorem Attended.turn {Inside : Stage → Prop} {held : Shared → Bool} {before after : Crew}
    (attended : Attended Inside held before) (lock : IsLock Inside held)
    (turn : Turn before after) : Attended Inside held after := by
  intro held_after
  cases turn with
  | rest shared calls =>
      rw [shared, lock.trouble] at held_after
      obtain ⟨thread, position, stage, here, inside⟩ := attended held_after
      exact ⟨thread, position, stage, (calls thread position).trans here, inside⟩
  | @move mover spot old next mover_here move calls =>
      by_cases next_inside : Inside next
      · exact ⟨mover, spot, next, stage?_of_move calls, next_inside⟩
      · have outside : ¬Inside old := by
          intro inside
          rw [lock.gives move inside next_inside] at held_after
          cases held_after
        rw [lock.keeps move (iff_of_false outside next_inside)] at held_after
        obtain ⟨thread, position, stage, here, inside⟩ := attended held_after
        refine ⟨thread, position, stage, ?_, inside⟩
        rw [calls, if_neg, here]
        rintro ⟨rfl, rfl⟩
        rw [mover_here, Option.some.injEq] at here
        exact outside (here ▸ inside)

theorem attended_runTicks {Inside : Stage → Prop} {held : Shared → Bool} {crew : Crew}
    (lock : IsLock Inside held) (free : held crew.shared = false) (ticks : List Tick) :
    Attended Inside held (crew.runTicks ticks) := by
  have begins : Attended Inside held crew := by
    intro held_first
    rw [free] at held_first
    cases held_first
  exact runTicks_turns begins (fun _ _ attended turn => attended.turn lock turn) ticks

/-- The call inside a lock is the present one of its thread. -/
theorem exists_present {Inside : Stage → Prop} {held : Shared → Bool} {crew : Crew}
    {thread position : Nat} {stage : Stage} (lock : IsLock Inside held)
    (unfinished : ∀ result, ¬Inside (.finished result))
    (here : crew.stage? thread position = some stage) (inside : Inside stage) :
    ∃ worker, crew.threads[thread]? = some worker ∧ worker.stage = stage := by
  obtain ⟨worker, there, stage_here⟩ := Option.bind_eq_some_iff.1 here
  refine ⟨worker, there, Thread.stage_eq_of_mem_stages (List.mem_of_getElem? stage_here) ?_ ?_⟩
  · rintro call rfl
    exact lock.begun call inside
  · rintro result rfl
    exact unfinished result inside

/-- So the thread can go on. -/
theorem exists_step_of_inside {Inside : Stage → Prop} {held : Shared → Bool} {crew : Crew}
    {thread position : Nat} {stage : Stage} (lock : IsLock Inside held)
    (passes : ∀ (shared : Shared) (stage : Stage), Inside stage → stage.step shared ≠ none)
    (here : crew.stage? thread position = some stage) (inside : Inside stage) :
    ∃ worker, crew.threads[thread]? = some worker ∧ worker.step crew.shared ≠ none := by
  obtain ⟨worker, there, rfl⟩ := exists_present lock
    (fun result inside => passes crew.shared _ inside rfl) here inside
  refine ⟨worker, there, fun stuck => ?_⟩
  rcases Thread.step_eq_none stuck with ⟨result, ended, -⟩ | ⟨-, waits⟩
  · rw [ended] at inside
    exact passes crew.shared _ inside rfl
  · exact passes crew.shared _ inside waits

/-- Every lock that is held is held by a call. -/
structure AllAttended (crew : Crew) : Prop where
  table : ∀ ref, Attended (fun stage => stage.locked? = some ref)
    (fun shared => shared.store.locks.isHeld ref) crew
  catalog : Attended Stage.HoldsCatalog Shared.catalogHeld crew

theorem AllAttended.turn {before after : Crew} (attended : AllAttended before)
    (turn : Turn before after) : AllAttended after :=
  ⟨fun ref => (attended.table ref).turn (Stage.isLock_table ref) turn,
    attended.catalog.turn Stage.isLock_catalog turn⟩

/-- Whose lock is held is locked by a thread. -/
theorem AllAttended.exists_locked? {crew : Crew} (attended : AllAttended crew) {ref : TableRef}
    (held : crew.shared.store.locks.isHeld ref = true) :
    ∃ thread, crew.locked? thread = some ref := by
  obtain ⟨thread, position, stage, here, inside⟩ := attended.table ref held
  obtain ⟨worker, there, rfl⟩ := exists_present (Stage.isLock_table ref) nofun here inside
  exact ⟨thread, by rwa [locked?, there]⟩

/-- As long as one thread has something to do, some thread makes a step. -/
theorem AllAttended.exists_step {crew : Crew} (attended : AllAttended crew) {worker : Thread}
    (member : worker ∈ crew.threads) (busy : worker.stepsLeft ≠ 0) :
    ∃ (turn : Nat) (mover : Thread), crew.threads[turn]? = some mover ∧
      mover.step crew.shared ≠ none := by
  obtain ⟨turn, here⟩ := List.mem_iff_getElem?.1 member
  by_cases stuck : worker.step crew.shared = none
  · rcases Thread.step_eq_none stuck with ⟨result, ended, nothing⟩ | ⟨unfinished, waits⟩
    · exact absurd (by simp [Thread.stepsLeft, ended, nothing, Stage.movesLeft]) busy
    · rcases Stage.step_eq_none waits with ended | ⟨table, _, -, held⟩ | ⟨_, -, held⟩
      · exact absurd ended unfinished
      · obtain ⟨thread, position, stage, there, inside⟩ := attended.table _ held
        exact ⟨thread, exists_step_of_inside (Stage.isLock_table _)
          (fun _ _ => Stage.step_ne_none_of_locked) there inside⟩
      · obtain ⟨thread, position, stage, there, inside⟩ := attended.catalog held
        exact ⟨thread, exists_step_of_inside Stage.isLock_catalog
          (fun _ _ => Stage.step_ne_none_of_holdsCatalog) there inside⟩
  · exact ⟨turn, worker, here, stuck⟩

/-! ## To the end -/

/-- How many steps some threads have ahead at most. -/
def stepsLeftOf : List Thread → Nat
  | [] => 0
  | thread :: rest => thread.stepsLeft + stepsLeftOf rest

theorem stepsLeftOf_set_lt {threads : List Thread} {turn : Nat} {mover next : Thread}
    (here : threads[turn]? = some mover) (fewer : next.stepsLeft < mover.stepsLeft) :
    stepsLeftOf (threads.set turn next) < stepsLeftOf threads := by
  induction threads generalizing turn with
  | nil => cases here
  | cons first rest ih =>
      cases turn with
      | zero =>
          cases here
          exact Nat.add_lt_add_right fewer _
      | succ turn => exact Nat.add_lt_add_left (ih here) _

theorem stepsLeftOf_step_lt {crew : Crew} {turn : Nat} {mover : Thread}
    (here : crew.threads[turn]? = some mover) (moves : mover.step crew.shared ≠ none) :
    stepsLeftOf (crew.step turn).threads < stepsLeftOf crew.threads := by
  obtain ⟨⟨next, shared⟩, stepped⟩ := Option.ne_none_iff_exists'.1 moves
  rw [step, here]
  dsimp only
  rw [stepped]
  exact stepsLeftOf_set_lt here (Thread.move_of_step stepped).stepsLeft_lt

/-- A crew whose held locks are held by calls can go on until no thread has anything to do. -/
theorem AllAttended.exists_rest {crew : Crew} (attended : AllAttended crew) :
    ∃ late, ∀ worker ∈ (crew.runTicks late).threads, worker.stepsLeft = 0 := by
  induction left : stepsLeftOf crew.threads using Nat.strongRecOn generalizing crew with
  | ind size ih =>
      by_cases idle : ∀ worker ∈ crew.threads, worker.stepsLeft = 0
      · exact ⟨[], idle⟩
      · push Not at idle
        obtain ⟨worker, member, busy⟩ := idle
        obtain ⟨turn, mover, here, moves⟩ := attended.exists_step member busy
        have fewer := stepsLeftOf_step_lt here moves
        rw [left] at fewer
        obtain ⟨late, rest⟩ := ih _ fewer (attended.turn (turn_tick crew (.turn turn))) rfl
        exact ⟨.turn turn :: late, rest⟩

/-- No call goes away. -/
theorem isSome_stage?_runTicks {crew : Crew} {thread position : Nat}
    (here : (crew.stage? thread position).isSome = true) (ticks : List Tick) :
    ((crew.runTicks ticks).stage? thread position).isSome = true := by
  refine @runTicks_turns crew (fun other => (other.stage? thread position).isSome = true) here ?_
    ticks
  intro before after there turn
  obtain ⟨stage, stage_here⟩ := Option.isSome_iff_exists.1 there
  obtain ⟨next, next_here, -⟩ := turn.exists_stage? stage_here
  exact Option.isSome_iff_exists.2 ⟨next, next_here⟩

/-- If no lock is held at the start, every lock that is held later is held by a call. -/
theorem allAttended_runTicks {store : Store} (free : ∀ ref, store.locks.isHeld ref = false)
    (calls : List (List Call)) (ticks : List Tick) :
    AllAttended ((ofCalls store calls).runTicks ticks) :=
  ⟨fun ref => attended_runTicks (Stage.isLock_table ref) (free ref) ticks,
    attended_runTicks Stage.isLock_catalog rfl ticks⟩

/-- A call whose thread has nothing more to do has returned. -/
theorem exists_worker {store : Store} {calls : List (List Call)} {thread position : Nat}
    {call : Call} (call_here : (ofCalls store calls).call? thread position = some call)
    (ticks : List Tick) :
    ∃ worker ∈ ((ofCalls store calls).runTicks ticks).threads, worker.stepsLeft = 0 →
      ∃ result, ((ofCalls store calls).runTicks ticks).result? thread position = some result := by
  have begins : ((ofCalls store calls).stage? thread position).isSome = true := by
    rw [stage?_ofCalls_eq, call_here]
    rfl
  obtain ⟨stage, here⟩ := Option.isSome_iff_exists.1 (isSome_stage?_runTicks begins ticks)
  obtain ⟨worker, there, stage_here⟩ := Option.bind_eq_some_iff.1 here
  refine ⟨worker, List.mem_of_getElem? there, fun idle => ?_⟩
  obtain ⟨result, rfl⟩ := Thread.exists_finished_of_stepsLeft idle (List.mem_of_getElem? stage_here)
  exact ⟨result, result?_eq_some_iff.2 here⟩

/-- Whatever has happened, the run can go on until every call has returned. -/
theorem exists_completion {store : Store} (free : ∀ ref, store.locks.isHeld ref = false)
    (calls : List (List Call)) (ticks : List Tick) :
    ∃ late, ∀ thread position call, (ofCalls store calls).call? thread position = some call →
      ∃ result, ((ofCalls store calls).runTicks (ticks ++ late)).result? thread position =
        some result := by
  obtain ⟨late, rest⟩ := (allAttended_runTicks free calls ticks).exists_rest
  refine ⟨late, fun thread position call call_here => ?_⟩
  obtain ⟨worker, member, returns⟩ := exists_worker call_here (ticks ++ late)
  rw [runTicks_append] at member
  exact returns (rest worker member)

/-- While a call has not returned, some thread can make a step. -/
theorem exists_step_of_unreturned {store : Store} (free : ∀ ref, store.locks.isHeld ref = false)
    {calls : List (List Call)} {ticks : List Tick} {thread position : Nat} {call : Call}
    (call_here : (ofCalls store calls).call? thread position = some call)
    (unreturned : ((ofCalls store calls).runTicks ticks).result? thread position = none) :
    ∃ (turn : Nat) (mover : Thread),
      ((ofCalls store calls).runTicks ticks).threads[turn]? = some mover ∧
        mover.step ((ofCalls store calls).runTicks ticks).shared ≠ none := by
  obtain ⟨worker, member, returns⟩ := exists_worker call_here ticks
  refine (allAttended_runTicks free calls ticks).exists_step member fun idle => ?_
  obtain ⟨result, returned⟩ := returns idle
  rw [unreturned] at returned
  cases returned

end Crew
end FlatStore
