import FlatStore.Proofs.Completion
import FlatStore.Proofs.Exclusion
import FlatStore.Proofs.Services

/-!
# Calls that visit tables

An insert visits its table: its thread looks for the lock, waits for it, is inside while it appends
its row, and leaves with the result of the insert.  So the acts at the registry stand between the
steps of all threads, and still some thread can go on as long as a call has not returned.
-/

namespace FlatStore

/-- How an insert leaves its table. -/
def Exit.of : Except Failure Int → Exit
  | .ok _ => .normal
  | .error failure => .raised failure.message

/-- Threads with the calls that they make and the tables that they visit. -/
structure Hall where
  crew : Crew
  lobby : Lobby

namespace Hall

/-- The next step of a thread that looks for the lock of a table. -/
def seek (hall : Hall) (thread : Nat) (table : TableRef) : Option Hall :=
  match hall.lobby.visits thread with
  | .outside => some { hall with lobby := hall.lobby.tick (.call thread table) }
  | .found _ _ => some ⟨hall.crew.step thread, hall.lobby.tick (.turn thread)⟩
  | visit => (hall.lobby.registry.step visit).map fun _ =>
      { hall with lobby := hall.lobby.tick (.turn thread) }

/-- The next step of a thread; `none` if it has to wait, or has nothing to do. -/
def step (hall : Hall) (thread : Nat) : Option Hall :=
  match hall.crew.threads[thread]? with
  | none => none
  | some worker =>
      match worker.stage with
      | .resolved table _ => hall.seek thread table.ref
      | .waiting _ _ => (hall.lobby.registry.step (hall.lobby.visits thread)).map fun _ =>
          ⟨hall.crew.step thread, hall.lobby.tick (.turn thread)⟩
      | .leaving _ result =>
          some ⟨hall.crew.step thread, hall.lobby.tick (.leave thread (.of result))⟩
      | _ => (worker.step hall.crew.shared).map fun _ =>
          { hall with crew := hall.crew.step thread }

/-- Let something happen. -/
def tick (hall : Hall) : Tick → Hall
  | .turn thread => (hall.step thread).getD hall
  | .troubles troubles => { hall with crew := hall.crew.tick (.troubles troubles) }

/-- Let things happen in order. -/
def run (hall : Hall) (ticks : List Tick) : Hall := ticks.foldl tick hall

/-- Threads at the begin of their calls, all of them outside. -/
def ofCalls (store : Store) (calls : List (List Call)) : Hall :=
  ⟨Crew.ofCalls store calls, Lobby.empty⟩

end Hall

/-! ## Calls and visits -/

/-- Where the thread of a call stands as a visitor. -/
inductive Stage.Visits : Stage → Visit → Prop
  | outside {stage : Stage} (unlocked : stage.locked? = none)
      (calm : ∀ table values, stage ≠ .waiting table values) : Visits stage .outside
  | calling {table : Table} {values : List Text} :
      Visits (.resolved table values) (.calling table.ref)
  | looking {table : Table} {values : List Text} :
      Visits (.resolved table values) (.looking table.ref)
  | missing {table : Table} {values : List Text} :
      Visits (.resolved table values) (.missing table.ref)
  | found {table : Table} {values : List Text} {lock : Nat} :
      Visits (.resolved table values) (.found table.ref lock)
  | waiting {table : Table} {values : List Text} {lock : Nat} :
      Visits (.waiting table values) (.waiting table.ref lock)
  | inside {stage : Stage} {ref : TableRef} {lock : Nat} (locked : stage.locked? = some ref) :
      Visits stage (.inside ref lock)

namespace Stage

variable {stage next : Stage} {visit : Visit} {shared after : Shared}

/-- A call that has locked a table is inside. -/
theorem Visits.isInside {ref : TableRef} (visits : stage.Visits visit)
    (locked : stage.locked? = some ref) : visit.IsInside ref := by
  cases visits with
  | outside unlocked =>
      rw [unlocked] at locked
      cases locked
  | inside same =>
      rw [same] at locked
      cases locked
      exact ⟨_, rfl⟩
  | calling | looking | missing | found | waiting => cases locked

/-- A call whose thread is inside a table has locked it. -/
theorem Visits.locked?_of_inside {ref : TableRef} {lock : Nat} (visits : stage.Visits visit)
    (inside : visit = .inside ref lock) : stage.locked? = some ref := by
  subst inside
  cases visits with
  | inside locked => exact locked

theorem Visits.eq_waiting {table : Table} {values : List Text}
    (visits : (Stage.waiting table values).Visits visit) :
    ∃ lock, visit = .waiting table.ref lock := by
  cases visits with
  | outside _ calm => exact absurd rfl (calm table values)
  | waiting => exact ⟨_, rfl⟩
  | inside locked => cases locked

/-- A call has to do with the registry before it waits for a lock. -/
theorem Visits.exists_resolved (visits : stage.Visits visit) (has : visit.HasRegistry) :
    ∃ table values, stage = .resolved table values := by
  cases visits with
  | looking | missing | found => exact ⟨_, _, rfl⟩
  | _ => exact has.elim

/-- Moves that have nothing to do with a lock leave the visitor where it is. -/
theorem Visits.move (visits : stage.Visits visit) (move : Move shared stage next after)
    (unresolved : ∀ table values, stage ≠ .resolved table values)
    (calm : ∀ table values, stage ≠ .waiting table values)
    (staying : ∀ table result, stage ≠ .leaving table result) : next.Visits visit := by
  have same : next.locked? = stage.locked? ∧ ∀ table values, next ≠ .waiting table values := by
    cases move with
    | register => exact absurd rfl (unresolved _ _)
    | hold => exact absurd rfl (calm _ _)
    | leaveFailed | leave => exact absurd rfl (staying _ _)
    | _ => exact ⟨rfl, nofun⟩
  cases visits with
  | outside unlocked => exact .outside (same.1.trans unlocked) same.2
  | inside locked => exact .inside (same.1.trans locked)
  | calling | looking | missing | found => exact absurd rfl (unresolved _ _)
  | waiting => exact absurd rfl (calm _ _)

end Stage

/-! ## One step -/

/-- A call that is not over makes the steps of its thread. -/
theorem Thread.step_stage {shared after : Shared} {worker : Thread} {next : Stage}
    (stepped : worker.stage.step shared = some (next, after)) :
    worker.step shared = some ({ worker with stage := next }, after) := by
  rw [Thread.step]
  split
  · rename_i ended _
    rw [ended] at stepped
    cases stepped
  · rename_i ended _
    rw [ended] at stepped
    cases stepped
  · rw [stepped]
    rfl

namespace Crew

variable {crew : Crew} {thread : Nat} {worker : Thread}

theorem threads_step_of_ne {other : Nat} (apart : other ≠ thread) :
    (crew.step thread).threads[other]? = crew.threads[other]? := by
  rw [step]
  split
  · rfl
  · split
    · rfl
    · exact List.getElem?_set_ne (Ne.symm apart)

theorem threads_step_self (here : crew.threads[thread]? = some worker) {next : Thread}
    {shared : Shared} (stepped : worker.step crew.shared = some (next, shared)) :
    (crew.step thread).threads[thread]? = some next := by
  rw [step, here]
  dsimp only
  rw [stepped]
  exact getElem?_set_self_of_some here next

end Crew

namespace Hall

/-- The crew and the visitors are at the ends of runs of their own, and every thread is where its
call is as a visitor. -/
structure Linked (start : Crew) (hall : Hall) : Prop where
  crew : ∃ ticks, hall.crew = start.runTicks ticks
  lobby : ∃ ticks, hall.lobby = Lobby.empty.run ticks
  visits : ∀ {thread : Nat} {worker : Thread}, hall.crew.threads[thread]? = some worker →
    worker.stage.Visits (hall.lobby.visits thread)
  absent : ∀ {thread : Nat}, hall.crew.threads[thread]? = none →
    hall.lobby.visits thread = .outside

namespace Linked

variable {start : Crew} {hall : Hall} {thread : Nat} {worker : Thread}

theorem begin (store : Store) (calls : List (List Call)) :
    Linked (Crew.ofCalls store calls) (ofCalls store calls) where
  crew := ⟨[], rfl⟩
  lobby := ⟨[], rfl⟩
  visits here := by
    obtain ⟨call, pending, -, rfl⟩ := Crew.exists_begun_of_mem (List.mem_of_getElem? here)
    exact .outside rfl nofun
  absent _ := rfl

theorem sound (linked : Linked start hall) : hall.lobby.Sound := by
  obtain ⟨ticks, lobby⟩ := linked.lobby
  exact lobby ▸ Lobby.sound_run ticks

/-- A thread makes a step, as a member of the crew, as a visitor or as both. -/
theorem of_step (linked : Linked start hall) (thread : Nat) {crew : Crew}
    (crew_eq : crew = hall.crew ∨ crew = hall.crew.step thread)
    {lobby : Lobby} (lobby_eq : lobby = hall.lobby ∨
      ∃ tick, tick.visitor = thread ∧ lobby = hall.lobby.tick tick)
    (visits : ∃ worker, crew.threads[thread]? = some worker ∧
      worker.stage.Visits (lobby.visits thread)) : Linked start ⟨crew, lobby⟩ := by
  obtain ⟨worker, here, here_visits⟩ := visits
  have others {other : Nat} (apart : other ≠ thread) :
      crew.threads[other]? = hall.crew.threads[other]? ∧
        lobby.visits other = hall.lobby.visits other := by
    constructor
    · rcases crew_eq with rfl | rfl
      · rfl
      · exact Crew.threads_step_of_ne apart
    · rcases lobby_eq with rfl | ⟨tick, rfl, rfl⟩
      · rfl
      · exact hall.lobby.visits_tick_of_ne apart
  constructor
  · obtain ⟨ticks, reached⟩ := linked.crew
    rcases crew_eq with rfl | rfl
    · exact ⟨ticks, reached⟩
    · refine ⟨ticks ++ [.turn thread], ?_⟩
      rw [Crew.runTicks_concat, ← reached]
      rfl
  · obtain ⟨ticks, reached⟩ := linked.lobby
    rcases lobby_eq with rfl | ⟨tick, -, rfl⟩
    · exact ⟨ticks, reached⟩
    · refine ⟨ticks ++ [tick], ?_⟩
      rw [Lobby.run_concat, ← reached]
  · intro other other_worker there
    rcases eq_or_ne other thread with rfl | apart
    · rw [here, Option.some.injEq] at there
      exact there ▸ here_visits
    · rw [(others apart).2]
      exact linked.visits ((others apart).1.symm.trans there)
  · intro other nobody
    rcases eq_or_ne other thread with rfl | apart
    · rw [here] at nobody
      cases nobody
    · rw [(others apart).2]
      exact linked.absent ((others apart).1.symm.trans nobody)

/-- The thread of a visitor that is not outside. -/
theorem exists_worker (linked : Linked start hall) {thread : Nat}
    (comes : hall.lobby.visits thread ≠ .outside) :
    ∃ worker, hall.crew.threads[thread]? = some worker ∧
      worker.stage.Visits (hall.lobby.visits thread) := by
  cases here : hall.crew.threads[thread]? with
  | none => exact absurd (linked.absent here) comes
  | some worker => exact ⟨worker, rfl, linked.visits here⟩

/-- The lock of a table is held in the crew if and only if somebody is inside as a visitor. -/
theorem isHeld_iff (linked : Linked start hall) (exclusive : hall.crew.Exclusive)
    (attended : hall.crew.AllAttended) (table : TableRef) :
    hall.crew.shared.store.locks.isHeld table = true ↔
      ∃ thread, (hall.lobby.visits thread).IsInside table := by
  constructor
  · intro held
    obtain ⟨thread, locked⟩ := attended.exists_locked? held
    obtain ⟨worker, here, locked⟩ := Option.bind_eq_some_iff.1 locked
    exact ⟨thread, (linked.visits here).isInside locked⟩
  · rintro ⟨thread, lock, inside⟩
    have comes : hall.lobby.visits thread ≠ .outside := by
      rw [inside]
      exact Visit.noConfusion
    obtain ⟨worker, here, visits⟩ := linked.exists_worker comes
    refine exclusive.held thread table ?_
    rw [Crew.locked?, here, Option.bind_some]
    exact visits.locked?_of_inside inside

/-- So it is held if and only if whoever waits for it as a visitor has to wait. -/
theorem waits_iff (linked : Linked start hall) (exclusive : hall.crew.Exclusive)
    (attended : hall.crew.AllAttended) {table : TableRef} {lock : Nat}
    (waiting : hall.lobby.visits thread = .waiting table lock) :
    hall.lobby.registry.step (hall.lobby.visits thread) = none ↔
      hall.crew.shared.store.locks.isHeld table = true := by
  rw [linked.sound.waits_iff waiting, linked.isHeld_iff exclusive attended]
  refine exists_congr fun other => and_iff_right_of_imp ?_
  rintro ⟨taken, inside⟩ rfl
  rw [waiting] at inside
  cases inside

/-- A thread that looks for a lock looks on until it has found it. -/
theorem look (linked : Linked start hall) {table : Table} {values : List Text}
    (here : hall.crew.threads[thread]? = some worker)
    (stage : worker.stage = .resolved table values) {next : Visit} {registry : Registry}
    (goes : hall.lobby.registry.step (hall.lobby.visits thread) = some (next, registry))
    (visits : (Stage.resolved table values).Visits next) :
    Linked start { hall with lobby := hall.lobby.tick (.turn thread) } := by
  refine linked.of_step thread (.inl rfl) (.inr ⟨.turn thread, rfl, rfl⟩) ⟨worker, here, ?_⟩
  rw [Lobby.tick_turn goes, Lobby.visits_move_self, stage]
  exact visits

/-- A call that has to do with a lock goes on with its visitor. -/
theorem proceed (linked : Linked start hall) (here : hall.crew.threads[thread]? = some worker)
    {stage : Stage} {shared : Shared}
    (moves : worker.stage.step hall.crew.shared = some (stage, shared)) {tick : Lobby.Tick}
    (own : tick.visitor = thread) {next : Visit} {registry : Registry}
    (goes : hall.lobby.tick tick = hall.lobby.move thread next registry)
    (visits : stage.Visits next) :
    Linked start ⟨hall.crew.step thread, hall.lobby.tick tick⟩ := by
  refine linked.of_step thread (.inr rfl) (.inr ⟨tick, own, rfl⟩)
    ⟨_, Crew.threads_step_self here (Thread.step_stage moves), ?_⟩
  rw [goes, Lobby.visits_move_self]
  exact visits

/-- A thread makes a step that has nothing to do with a lock. -/
theorem walk (linked : Linked start hall) (here : hall.crew.threads[thread]? = some worker)
    (unresolved : ∀ table values, worker.stage ≠ .resolved table values)
    (calm : ∀ table values, worker.stage ≠ .waiting table values)
    (staying : ∀ table result, worker.stage ≠ .leaving table result) {next : Thread}
    {shared : Shared} (stepped : worker.step hall.crew.shared = some (next, shared)) :
    Linked start { hall with crew := hall.crew.step thread } := by
  refine linked.of_step thread (.inr rfl) (.inl rfl)
    ⟨next, Crew.threads_step_self here stepped, ?_⟩
  have visits := linked.visits here
  generalize hall.lobby.visits thread = visit at visits
  cases Thread.move_of_step stepped with
  | stage move => exact visits.move move unresolved calm staying
  | call =>
      cases visits with
      | outside => exact .outside rfl nofun
      | inside locked => cases locked

/-- What a thread that looks for a lock does. -/
theorem seek (linked : Linked start hall) {table : Table} {values : List Text}
    (here : hall.crew.threads[thread]? = some worker)
    (stage : worker.stage = .resolved table values) {after : Hall}
    (stepped : hall.seek thread table.ref = some after) : Linked start after := by
  have visits := linked.visits here
  have looks := @look start hall thread worker linked table values here stage
  rw [stage] at visits
  generalize stands : hall.lobby.visits thread = visit at visits looks
  rw [Hall.seek, stands] at stepped
  cases visits with
  | inside locked => cases locked
  | outside =>
      cases stepped
      refine linked.of_step thread (.inl rfl) (.inr ⟨.call thread table.ref, rfl, rfl⟩)
        ⟨worker, here, ?_⟩
      rw [Lobby.tick_call stands, Lobby.visits_move_self, stage]
      exact .calling
  | @found _ _ lock =>
      cases stepped
      have gives : hall.lobby.registry.step (hall.lobby.visits thread) = some
          (.waiting table.ref lock, { hall.lobby.registry with taken := false }) := by
        rw [stands]
        rfl
      exact linked.proceed here (by rw [stage]; rfl) rfl (Lobby.tick_turn gives) .waiting
  | calling =>
      obtain ⟨⟨next, registry⟩, goes, rfl⟩ := Option.map_eq_some_iff.1 stepped
      cases Visit.act_of_step goes with
      | take => exact looks goes .looking
  | looking =>
      obtain ⟨⟨next, registry⟩, goes, rfl⟩ := Option.map_eq_some_iff.1 stepped
      cases Visit.act_of_step goes with
      | miss => exact looks goes .missing
      | find => exact looks goes .found
  | missing =>
      obtain ⟨⟨next, registry⟩, goes, rfl⟩ := Option.map_eq_some_iff.1 stepped
      cases Visit.act_of_step goes with
      | make => exact looks goes .found

/-- A thread that waits for a lock takes it in the crew when it goes inside. -/
theorem enter (linked : Linked start hall) (exclusive : hall.crew.Exclusive)
    (attended : hall.crew.AllAttended) {table : Table} {values : List Text}
    (here : hall.crew.threads[thread]? = some worker)
    (stage : worker.stage = .waiting table values)
    {next : Visit} {registry : Registry}
    (goes : hall.lobby.registry.step (hall.lobby.visits thread) = some (next, registry)) :
    Linked start ⟨hall.crew.step thread, hall.lobby.tick (.turn thread)⟩ := by
  have visits := linked.visits here
  rw [stage] at visits
  obtain ⟨lock, waits⟩ := visits.eq_waiting
  have free : hall.crew.shared.store.locks.isHeld table.ref = false := by
    refine Bool.eq_false_iff.2 fun held => ?_
    rw [(linked.waits_iff exclusive attended waits).2 held] at goes
    cases goes
  have moves : worker.stage.step hall.crew.shared =
      some (.holding table values,
        { hall.crew.shared with store := hall.crew.shared.store.hold table.ref }) := by
    rw [stage, Stage.step, free]
    rfl
  refine linked.proceed here moves rfl (Lobby.tick_turn goes) ?_
  rw [waits] at goes
  cases Visit.act_of_step goes with
  | enter => exact .inside rfl

/-- What a thread does. -/
theorem step (linked : Linked start hall) (exclusive : hall.crew.Exclusive)
    (attended : hall.crew.AllAttended) {after : Hall} (stepped : hall.step thread = some after) :
    Linked start after := by
  rw [Hall.step] at stepped
  split at stepped
  · cases stepped
  · rename_i worker here
    split at stepped
    · rename_i table values stage
      exact linked.seek here stage stepped
    · rename_i table values stage
      obtain ⟨⟨next, registry⟩, goes, rfl⟩ := Option.map_eq_some_iff.1 stepped
      exact linked.enter exclusive attended here stage goes
    · rename_i table result stage
      cases stepped
      have visits := linked.visits here
      rw [stage] at visits
      obtain ⟨lock, inside⟩ := visits.isInside rfl
      have moves : ∃ shared, worker.stage.step hall.crew.shared =
          some (.finished (result.map .id), shared) := ⟨_, by rw [stage]; rfl⟩
      obtain ⟨shared, moves⟩ := moves
      exact linked.proceed here moves rfl (Lobby.tick_leave inside _) (.outside rfl nofun)
    · rename_i unresolved calm staying
      obtain ⟨⟨next, shared⟩, moves, rfl⟩ := Option.map_eq_some_iff.1 stepped
      exact linked.walk here unresolved calm staying moves

/-- Troubles have nothing to do with where anybody stands. -/
theorem troubles (linked : Linked start hall) (troubles : Troubles) :
    Linked start (hall.tick (.troubles troubles)) where
  crew := by
    obtain ⟨ticks, reached⟩ := linked.crew
    refine ⟨ticks ++ [.troubles troubles], ?_⟩
    rw [Crew.runTicks_concat, ← reached]
    rfl
  lobby := linked.lobby
  visits := linked.visits
  absent := linked.absent

end Linked

/-! ## Going on -/

section

variable {hall : Hall} {thread : Nat}

theorem seek_ne_none {table : TableRef} (goes : hall.lobby.visits thread = .outside ∨
    hall.lobby.registry.step (hall.lobby.visits thread) ≠ none) :
    hall.seek thread table ≠ none := by
  rw [seek]
  split
  · exact Option.some_ne_none _
  · exact Option.some_ne_none _
  · rename_i visit not_outside _
    exact Option.map_eq_none_iff.not.2 (goes.resolve_left not_outside)

variable {start : Crew} {worker : Thread} {table : Table} {values : List Text}

theorem step_of_resolved (here : hall.crew.threads[thread]? = some worker)
    (stage : worker.stage = .resolved table values) :
    hall.step thread = hall.seek thread table.ref := by
  rw [step, here]
  dsimp only
  rw [stage]

/-- A thread that needs the registry goes on, or the one that has the registry does. -/
theorem Linked.exists_step_of_resolved (linked : Linked start hall)
    (here : hall.crew.threads[thread]? = some worker)
    (stage : worker.stage = .resolved table values) : ∃ other, hall.step other ≠ none := by
  have goes_on (goes : hall.lobby.visits thread = .outside ∨
      hall.lobby.registry.step (hall.lobby.visits thread) ≠ none) :
      ∃ other, hall.step other ≠ none :=
    ⟨thread, step_of_resolved here stage ▸ seek_ne_none goes⟩
  have visits := linked.visits here
  rw [stage] at visits
  generalize stands : hall.lobby.visits thread = visit at visits
  cases visits with
  | inside locked => cases locked
  | outside => exact goes_on (.inl stands)
  | looking | missing | found =>
      refine goes_on (.inr (Lobby.step_ne_none_of_hasRegistry ?_))
      rw [stands]
      trivial
  | calling =>
      by_cases stuck : hall.lobby.registry.step (hall.lobby.visits thread) = none
      · obtain ⟨holder, -, has⟩ := (linked.sound.calls_iff stands).1 stuck
        obtain ⟨keeper, there, visits⟩ := @exists_worker _ _ linked holder fun outside => by
          rw [outside] at has
          exact has
        obtain ⟨table, values, resolved⟩ := visits.exists_resolved has
        refine ⟨holder, ?_⟩
        rw [step_of_resolved there resolved]
        exact seek_ne_none (.inr (Lobby.step_ne_none_of_hasRegistry has))
      · exact goes_on (.inr stuck)

/-- If somebody goes on in the crew, somebody goes on with the acts at the registry between. -/
theorem Linked.exists_step (linked : Linked start hall) (exclusive : hall.crew.Exclusive)
    (attended : hall.crew.AllAttended) (here : hall.crew.threads[thread]? = some worker)
    (moves : worker.step hall.crew.shared ≠ none) : ∃ other, hall.step other ≠ none := by
  by_cases resolved : ∃ table values, worker.stage = .resolved table values
  · obtain ⟨table, values, stage⟩ := resolved
    exact linked.exists_step_of_resolved here stage
  · refine ⟨thread, ?_⟩
    rw [Hall.step, here]
    dsimp only
    split
    · exact absurd ⟨_, _, ‹_›⟩ resolved
    · rename_i table values stage
      have visits := linked.visits here
      rw [stage] at visits
      obtain ⟨lock, waits⟩ := visits.eq_waiting
      rw [Ne, Option.map_eq_none_iff, linked.waits_iff exclusive attended waits]
      intro held
      obtain ⟨⟨next, shared⟩, stepped⟩ := Option.ne_none_iff_exists'.1 moves
      obtain ⟨_, pending, results⟩ := worker
      subst stage
      cases Thread.move_of_step stepped with
      | stage move =>
          cases move with
          | hold free =>
              rw [held] at free
              cases free
    · exact Option.some_ne_none _
    · exact Option.map_eq_none_iff.not.2 moves

end

/-! ## Every run -/

section

variable {store : Store} {calls : List (List Call)} {hall : Hall}

theorem Linked.exclusive (linked : Linked (Crew.ofCalls store calls) hall) :
    hall.crew.Exclusive := by
  obtain ⟨ticks, reached⟩ := linked.crew
  exact reached ▸ (Crew.exclusive_ofCalls store calls).runTicks ticks

theorem Linked.attended (linked : Linked (Crew.ofCalls store calls) hall)
    (free : ∀ ref, store.locks.isHeld ref = false) : hall.crew.AllAttended := by
  obtain ⟨ticks, reached⟩ := linked.crew
  exact reached ▸ Crew.allAttended_runTicks free calls ticks

theorem Linked.tick (linked : Linked (Crew.ofCalls store calls) hall)
    (free : ∀ ref, store.locks.isHeld ref = false) (tick : Tick) :
    Linked (Crew.ofCalls store calls) (hall.tick tick) := by
  cases tick with
  | troubles troubles => exact linked.troubles troubles
  | turn thread =>
      rw [Hall.tick]
      cases stepped : hall.step thread with
      | none => exact linked
      | some after => exact linked.step linked.exclusive (linked.attended free) stepped

theorem Linked.run (linked : Linked (Crew.ofCalls store calls) hall)
    (free : ∀ ref, store.locks.isHeld ref = false) (ticks : List Tick) :
    Linked (Crew.ofCalls store calls) (hall.run ticks) := by
  induction ticks generalizing hall with
  | nil => exact linked
  | cons tick rest ih => exact ih (linked.tick free tick)

/-- While a call has not returned, some thread can make a step. -/
theorem Linked.exists_step_of_unreturned (linked : Linked (Crew.ofCalls store calls) hall)
    (free : ∀ ref, store.locks.isHeld ref = false) {thread position : Nat} {call : Call}
    (call_here : (Crew.ofCalls store calls).call? thread position = some call)
    (unreturned : hall.crew.result? thread position = none) :
    ∃ thread, hall.step thread ≠ none := by
  have exclusive := linked.exclusive
  have attended := linked.attended free
  obtain ⟨ticks, reached⟩ := linked.crew
  rw [reached] at unreturned
  obtain ⟨turn, mover, here, moves⟩ := Crew.exists_step_of_unreturned free call_here unreturned
  rw [← reached] at here moves
  exact linked.exists_step exclusive attended here moves

/-- Visitors enter tables and leave them in any order, and at every moment the locks keep what they
promise.  Threads that make calls are visitors too.  The locks of their store tell who is inside,
and some thread can make a step as long as a call has not returned. -/
theorem regular_run_and_exists_step :
    (∀ acts, Lobby.Regular acts (Lobby.empty.run acts)) ∧
      ∀ (store : Store) (calls : List (List Call)) (ticks : List Tick) (hall : Hall),
        (∀ ref, store.locks.isHeld ref = false) → (ofCalls store calls).run ticks = hall →
        (∃ acts, hall.lobby = Lobby.empty.run acts) ∧
        (∃ turns, hall.crew = (Crew.ofCalls store calls).runTicks turns) ∧
        (∀ table, hall.crew.shared.store.locks.isHeld table =
          hall.lobby.registry.locks.isHeld table) ∧
        ∀ thread position call,
          (Crew.ofCalls store calls).call? thread position = some call →
          hall.crew.result? thread position = none → ∃ mover, hall.step mover ≠ none := by
  refine ⟨Lobby.regular_run, fun store calls ticks hall free reached => ?_⟩
  have linked : Linked (Crew.ofCalls store calls) hall :=
    reached ▸ (Linked.begin store calls).run free ticks
  refine ⟨linked.lobby, linked.crew, fun table => Bool.eq_iff_iff.2 ?_, fun _ _ _ => ?_⟩
  · rw [linked.isHeld_iff linked.exclusive (linked.attended free),
      linked.sound.isHeld_locks_iff]
  · exact linked.exists_step_of_unreturned free

/-- The first of two threads enters a table, and the second one comes to wait for it. -/
def meetingTicks : List Tick := List.replicate 7 (.turn 0) ++ List.replicate 5 (.turn 1)

def meeting : Hall :=
  (ofCalls (Store.sampleStore Store.endedText) Crew.sampleCalls).run meetingTicks

/-- There is one lock for both.  While the second thread waits, somebody goes on. -/
theorem regular_run_meeting :
    meeting.lobby.registry.step (meeting.lobby.visits 1) = none ∧
    meeting.crew.shared.store.locks.isHeld Store.sampleRef = true ∧
    (∃ (acts : List Lobby.Tick) (tables : List TableRef), meeting.lobby = Lobby.empty.run acts ∧
      tables.Nodup ∧ (∀ table, table ∈ tables ↔ Lobby.Sought acts table) ∧ tables.length = 1) ∧
    (meeting.lobby.registry.leave 0 (.raised "boom".toList)).1 =
      .passed (.raised "boom".toList) ∧
    ∃ mover, meeting.step mover ≠ none := by
  obtain ⟨regular, goes_on⟩ := regular_run_and_exists_step
  obtain ⟨⟨acts, lobby⟩, -, held, moves⟩ := goes_on _ Crew.sampleCalls meetingTicks meeting
    (Store.not_isHeld_of_load Store.load_endedText) rfl
  replace regular := lobby ▸ regular acts
  have first_inside : meeting.lobby.visits 0 = .inside Store.sampleRef 0 := by decide +kernel
  have second_waits : meeting.lobby.visits 1 = .waiting Store.sampleRef 0 := by decide +kernel
  have free : meeting.lobby.registry.taken = false := by decide +kernel
  have one_lock : meeting.lobby.registry.locks.count = 1 := by decide +kernel
  have unreturned : (meeting.crew.result? 1 0).isNone = true := by decide +kernel
  obtain ⟨tables, nodup, sought, count⟩ := regular.counts free
  refine ⟨?_, ?_, ⟨acts, tables, lobby, nodup, sought, count.symm.trans one_lock⟩, ?_, ?_⟩
  · exact (regular.waits 1 _ 0 second_waits).2 ⟨0, nofun, 0, first_inside⟩
  · rw [held]
    exact (regular.held _).2 ⟨0, 0, first_inside⟩
  · exact (regular.leaves 0 _ 0 _ first_inside).1
  · exact moves 1 0 _ rfl (Option.isNone_iff_eq_none.1 unreturned)

end
end Hall
end FlatStore
