import FlatStore.Proofs.ConcurrentInserts
import FlatStore.Proofs.Creating

/-!
# Every call by itself

A crew is seen as the calls of all its threads, each at its stage.  A tick moves one call on or
none: that a thread goes on to its next call is no move.  A lock is held by the one call that is at
a stage inside it.
-/

namespace FlatStore

/-! ## The stages of all calls -/

namespace Thread

variable (stage next : Stage) (call : Call) (pending : List Call)
  (result : Except Failure Value) (results : List (Except Failure Value))

/-- The stages of the calls of a thread: those that are over, the present one and those to come. -/
def stages (thread : Thread) : List Stage :=
  thread.results.map .finished ++ thread.stage :: thread.pending.map .begun

theorem stages_call :
    stages ⟨.begun call, pending, results ++ [result]⟩ =
      stages ⟨.finished result, call :: pending, results⟩ := by
  simp [stages]

theorem getElem?_stages_self :
    (stages ⟨stage, pending, results⟩)[results.length]? = some stage := by
  simp [stages]

/-- A move of the present call is no move of the others. -/
theorem getElem?_stages_of_ne {position : Nat} (apart : position ≠ results.length) :
    (stages ⟨next, pending, results⟩)[position]? =
      (stages ⟨stage, pending, results⟩)[position]? := by
  rw [stages, stages]
  rcases Nat.lt_or_gt_of_ne apart with early | late
  · rw [List.getElem?_append_left (by simpa using early),
      List.getElem?_append_left (by simpa using early)]
  · rw [List.getElem?_append_right (by simpa using Nat.le_of_lt late),
      List.getElem?_append_right (by simpa using Nat.le_of_lt late)]
    obtain ⟨more, rfl⟩ := Nat.exists_eq_add_of_lt late
    simp [Nat.add_assoc]

end Thread

namespace Crew

/-- Where a call stands, given by its thread and its position among the calls of the thread. -/
def stage? (crew : Crew) (thread position : Nat) : Option Stage :=
  crew.threads[thread]?.bind fun thread => thread.stages[position]?

variable {before after crew : Crew} {thread position : Nat}

/-- What a call has returned is its last stage. -/
theorem result?_eq_some_iff {result : Except Failure Value} :
    crew.result? thread position = some result ↔
      crew.stage? thread position = some (.finished result) := by
  rw [result?, stage?]
  cases crew.threads[thread]? with
  | none => simp
  | some worker =>
      obtain ⟨stage, pending, results⟩ := worker
      rw [Option.bind_some, Option.bind_some, Thread.finishedResults_eq, Thread.stages]
      rcases Nat.lt_trichotomy position results.length with early | rfl | late
      · rw [List.getElem?_append_left early, List.getElem?_append_left (by simpa using early)]
        simp
      · cases stage <;> simp [Stage.result?]
      · have later : (results.map Stage.finished).length ≤ position := by
          simpa using Nat.le_of_lt late
        obtain ⟨more, rfl⟩ := Nat.exists_eq_add_of_lt late
        rw [List.getElem?_append_right later]
        cases stage <;> simp [Stage.result?, Nat.add_assoc]

/-- At the start every call is at its first stage. -/
theorem stage?_ofCalls_eq (store : Store) (calls : List (List Call)) (thread position : Nat) :
    (ofCalls store calls).stage? thread position =
      ((ofCalls store calls).call? thread position).map .begun := by
  rw [stage?, call?]
  cases there : (ofCalls store calls).threads[thread]? with
  | none => rfl
  | some worker =>
      obtain ⟨call, pending, -, rfl⟩ := exists_begun_of_mem (List.mem_of_getElem? there)
      change ((call :: pending).map Stage.begun)[position]? = _
      rw [List.getElem?_map]
      rfl

theorem stage?_ofCalls {store : Store} {calls : List (List Call)} {stage : Stage}
    (here : (ofCalls store calls).stage? thread position = some stage) :
    ∃ call, (ofCalls store calls).call? thread position = some call ∧ stage = .begun call := by
  rw [stage?_ofCalls_eq, Option.map_eq_some_iff] at here
  obtain ⟨call, call_here, rfl⟩ := here
  exact ⟨call, call_here, rfl⟩

/-! ## Turns -/

/-- What a tick does to the calls of a crew. -/
inductive Turn (before after : Crew) : Prop
  /-- No call moves; other troubles may be in store. -/
  | rest {troubles : Troubles}
      (shared : after.shared = { before.shared with store.storage.troubles := troubles })
      (calls : ∀ thread position, after.stage? thread position = before.stage? thread position)
  | move {thread position : Nat} {stage next : Stage}
      (here : before.stage? thread position = some stage)
      (move : stage.Move before.shared next after.shared)
      (calls : ∀ other place, after.stage? other place =
        if other = thread ∧ place = position then some next else before.stage? other place)

theorem Change.turn (change : Change before after) : Turn before after := by
  cases change with
  | nothing => exact .rest rfl fun thread position => rfl
  | trouble => exact .rest rfl fun thread position => rfl
  | @thread turn mover next shared here move =>
      have others {other place : Nat} (apart : other ≠ turn) :
          stage? ⟨shared, before.threads.set turn next⟩ other place =
            before.stage? other place := by
        rw [stage?, getElem?_set_of_some here, if_neg apart]
        rfl
      have mine (place : Nat) :
          stage? ⟨shared, before.threads.set turn next⟩ turn place = next.stages[place]? := by
        rw [stage?, getElem?_set_self_of_some here, Option.bind_some]
      have mine_before (place : Nat) : before.stage? turn place = mover.stages[place]? := by
        rw [stage?, here, Option.bind_some]
      cases move with
      | call =>
          refine .rest rfl fun other place => ?_
          by_cases same : other = turn
          · rw [same, mine, mine_before, Thread.stages_call]
          · exact others same
      | @stage stage next pending results _ move =>
          refine @Turn.move _ _ turn results.length _ _ ?_ move fun other place => ?_
          · rw [mine_before, Thread.getElem?_stages_self]
          · by_cases same : other = turn
            · subst same
              rw [mine, mine_before]
              by_cases present : place = results.length
              · rw [if_pos ⟨rfl, present⟩, present, Thread.getElem?_stages_self]
              · rw [if_neg fun both => present both.2]
                exact Thread.getElem?_stages_of_ne stage next pending results present
            · rw [if_neg fun both => same both.1]
              exact others same

theorem turn_tick (crew : Crew) (tick : Tick) : Turn crew (crew.tick tick) :=
  (change_tick crew tick).turn

/-- What every turn preserves holds at the end of every run. -/
theorem runTicks_turns {holds : Crew → Prop} (begins : holds crew)
    (preserved : ∀ before after, holds before → Turn before after → holds after)
    (ticks : List Tick) : holds (crew.runTicks ticks) :=
  runTicks_induction begins
    (fun before after holds_before change => preserved before after holds_before change.turn) ticks

/-- A call that moves is at the next stage. -/
theorem stage?_of_move {next : Stage}
    (calls : ∀ other place, after.stage? other place =
      if other = thread ∧ place = position then some next else before.stage? other place) :
    after.stage? thread position = some next := by
  rw [calls, if_pos ⟨rfl, rfl⟩]

/-- A call is where it was, or it has moved there. -/
theorem Turn.stage?_or (turn : Turn before after) {stage : Stage}
    (here : after.stage? thread position = some stage) :
    before.stage? thread position = some stage ∨
      ∃ old, before.stage? thread position = some old ∧
        old.Move before.shared stage after.shared := by
  cases turn with
  | rest shared calls => exact .inl ((calls thread position).symm.trans here)
  | @move mover spot old next mover_here move calls =>
      rw [calls] at here
      split at here
      · rename_i same
        cases here
        rw [same.1, same.2]
        exact .inr ⟨old, mover_here, move⟩
      · exact .inl here

/-- A call stays where it is, or it moves on. -/
theorem Turn.exists_stage? (turn : Turn before after) {stage : Stage}
    (here : before.stage? thread position = some stage) :
    ∃ next, after.stage? thread position = some next ∧
      (next = stage ∨ stage.Move before.shared next after.shared) := by
  cases turn with
  | rest shared calls => exact ⟨stage, (calls thread position).trans here, .inl rfl⟩
  | @move mover spot old next mover_here move calls =>
      by_cases same : thread = mover ∧ position = spot
      · obtain ⟨rfl, rfl⟩ := same
        rw [mover_here, Option.some.injEq] at here
        subst here
        exact ⟨next, stage?_of_move calls, .inr move⟩
      · exact ⟨stage, by rw [calls, if_neg same, here], .inl rfl⟩

end Crew

/-! ## Locks -/

/-- A lock: whether it is held, and the stages at which a call holds it. -/
structure IsLock (Inside : Stage → Prop) (held : Shared → Bool) : Prop where
  begun : ∀ call, ¬Inside (.begun call)
  trouble : ∀ (shared : Shared) (troubles : Troubles),
    held { shared with store.storage.troubles := troubles } = held shared
  takes : ∀ {shared after : Shared} {stage next : Stage}, stage.Move shared next after →
    ¬Inside stage → Inside next → held shared = false ∧ held after = true
  keeps : ∀ {shared after : Shared} {stage next : Stage}, stage.Move shared next after →
    (Inside stage ↔ Inside next) → held after = held shared
  gives : ∀ {shared after : Shared} {stage next : Stage}, stage.Move shared next after →
    Inside stage → ¬Inside next → held after = false

namespace Crew

/-- A call that is inside a lock holds it, and no other call is inside. -/
structure Guarded (Inside : Stage → Prop) (held : Shared → Bool) (crew : Crew) : Prop where
  held : ∀ {thread position : Nat} {stage : Stage}, crew.stage? thread position = some stage →
    Inside stage → held crew.shared = true
  one : ∀ {thread position other place : Nat} {stage there : Stage},
    crew.stage? thread position = some stage → Inside stage →
    crew.stage? other place = some there → Inside there → other = thread ∧ place = position

variable {Inside : Stage → Prop} {held : Shared → Bool} {before after : Crew}

theorem guarded_ofCalls (lock : IsLock Inside held) (store : Store) (calls : List (List Call)) :
    Guarded Inside held (ofCalls store calls) := by
  have outside {thread position : Nat} {stage : Stage}
      (here : (ofCalls store calls).stage? thread position = some stage) : ¬Inside stage := by
    obtain ⟨call, -, rfl⟩ := stage?_ofCalls here
    exact lock.begun call
  exact ⟨fun here inside => absurd inside (outside here),
    fun here inside => absurd inside (outside here)⟩

theorem Guarded.turn (guarded : Guarded Inside held before) (lock : IsLock Inside held)
    (turn : Turn before after) : Guarded Inside held after := by
  cases turn with
  | rest shared calls =>
      constructor
      · intro thread position stage here inside
        rw [calls] at here
        rw [shared, lock.trouble]
        exact guarded.held here inside
      · intro thread position other place stage there here inside other_here other_inside
        rw [calls] at here other_here
        exact guarded.one here inside other_here other_inside
  | @move mover spot old next mover_here move calls =>
      by_cases entered : ¬Inside old ∧ Inside next
      · -- Nobody else is inside, for the lock was free.
        obtain ⟨free, taken⟩ := lock.takes move entered.1 entered.2
        have only {thread position : Nat} {stage : Stage}
            (here : after.stage? thread position = some stage) (inside : Inside stage) :
            thread = mover ∧ position = spot := by
          rw [calls] at here
          by_contra apart
          rw [if_neg apart] at here
          rw [guarded.held here inside] at free
          cases free
        refine ⟨fun _ _ => taken, fun here inside other_here other_inside => ?_⟩
        obtain ⟨rfl, rfl⟩ := only here inside
        exact only other_here other_inside
      · have was_inside {thread position : Nat} {stage : Stage}
            (here : after.stage? thread position = some stage) (inside : Inside stage) :
            ∃ earlier, before.stage? thread position = some earlier ∧ Inside earlier := by
          rw [calls] at here
          split at here
          · rename_i same
            cases here
            rw [same.1, same.2]
            exact ⟨old, mover_here, by_contra fun outside => entered ⟨outside, inside⟩⟩
          · exact ⟨stage, here, inside⟩
        constructor
        · intro thread position stage here inside
          obtain ⟨earlier, here_before, inside_before⟩ := was_inside here inside
          have held_before := guarded.held here_before inside_before
          by_cases stays : Inside old ↔ Inside next
          · rw [lock.keeps move stays, held_before]
          · -- The one that was inside has left.
            have left : Inside old ∧ ¬Inside next := by tauto
            obtain ⟨rfl, rfl⟩ := guarded.one mover_here left.1 here_before inside_before
            rw [stage?_of_move calls, Option.some.injEq] at here
            exact absurd (here ▸ inside) left.2
        · intro thread position other place stage there here inside other_here other_inside
          obtain ⟨earlier, here_before, inside_before⟩ := was_inside here inside
          obtain ⟨other_earlier, other_before, other_inside_before⟩ :=
            was_inside other_here other_inside
          exact guarded.one here_before inside_before other_before other_inside_before

/-- In every run a lock is held by the one call inside it. -/
theorem guarded_runTicks (lock : IsLock Inside held) (store : Store) (calls : List (List Call))
    (ticks : List Tick) : Guarded Inside held ((ofCalls store calls).runTicks ticks) :=
  runTicks_turns (guarded_ofCalls lock store calls)
    (fun _ _ guarded turn => guarded.turn lock turn) ticks

end Crew

namespace Stage

/-- The table locks. -/
theorem isLock_table (ref : TableRef) :
    IsLock (fun stage => stage.locked? = some ref) fun shared => shared.store.locks.isHeld ref where
  begun call := nofun
  trouble shared troubles := rfl
  takes := by
    intro shared after stage next move outside inside
    have locks := move.locks
    generalize stage.locked? = here, next.locked? = there at locks outside inside
    subst inside
    cases locks with
    | stay same => exact absurd rfl outside
    | take free taken => exact ⟨free, by simp [taken]⟩
  keeps := by
    intro shared after stage next move iff
    have locks := move.locks
    generalize stage.locked? = here, next.locked? = there at locks iff
    cases locks with
    | stay same => exact same ref
    | @take other free taken =>
        have apart : other ≠ ref := by simpa using iff
        simp [taken, apart]
    | @give other given =>
        have apart : other ≠ ref := by simpa using iff
        simp [given, apart]
  gives := by
    intro shared after stage next move inside outside
    have locks := move.locks
    generalize stage.locked? = here, next.locked? = there at locks outside inside
    subst inside
    cases locks with
    | stay same => exact absurd rfl outside
    | give given => simp [given]

/-- A creation holds the catalog lock. -/
def HoldsCatalog : Stage → Prop
  | .checking _ | .making _ | .entering _ | .closing _ _ => True
  | _ => False

/-- The catalog lock. -/
theorem isLock_catalog : IsLock HoldsCatalog Shared.catalogHeld where
  begun call := id
  trouble shared troubles := rfl
  takes := by
    intro shared after stage next move outside inside
    cases move with
    | holdCatalog free => exact ⟨free, rfl⟩
    | refuseDuplicate | check | refuseMake | make | enter => exact absurd trivial outside
    | _ => exact absurd inside id
  keeps := by
    intro shared after stage next move iff
    cases move with
    | holdCatalog => exact (iff.2 trivial).elim
    | closeFailed | close => exact (iff.1 trivial).elim
    | _ => rfl
  gives := by
    intro shared after stage next move inside outside
    cases move with
    | closeFailed | close => rfl
    | refuseDuplicate | check | refuseMake | make | enter => exact absurd trivial outside
    | _ => exact absurd inside id

end Stage

/-! ## Calls and their stages -/

namespace Call

/-- What a call is to create. -/
def creation? : Call → Option Creation
  | .createDatabase name => some (.database name)
  | .createTable database name columns => some (.ofColumns database name columns)
  | _ => none

theorem eq_createTable {call : Call} {entry : Table}
    (creates : call.creation? = some (.table entry)) : ∃ columns,
      call = .createTable entry.ref.database entry.ref.table columns ∧
        entry = Store.newTable entry.ref.database entry.ref.table columns := by
  cases call with
  | createTable database name columns =>
      cases creates
      exact ⟨columns, rfl, rfl⟩
  | _ => cases creates

end Call

/-- What was created. -/
def Value.creation? : Value → Option Creation
  | .created creation => some creation
  | _ => none

/-- Every entry names its table and the file of that name. -/
abbrev Catalog.Named (catalog : Catalog) : Prop := catalog.Placed fun _ => True

/-- An entry names its table and the file of that name. -/
abbrev Table.Names (table : Table) (ref : TableRef) : Prop := table.IsAt (fun _ => True) ref

namespace Stage

/-- The stage is one of the given call. -/
inductive Suits : Call → Stage → Prop
  | begun {call : Call} : Suits call (.begun call)
  | resolved {database name : Text} {values : List Text} {table : Table}
      (names : table.Names ⟨database, name⟩) :
      Suits (.insert database name values) (.resolved table values)
  | waiting {database name : Text} {values : List Text} {table : Table}
      (names : table.Names ⟨database, name⟩) :
      Suits (.insert database name values) (.waiting table values)
  | holding {database name : Text} {values : List Text} {table : Table}
      (names : table.Names ⟨database, name⟩) :
      Suits (.insert database name values) (.holding table values)
  | numbered {database name : Text} {values : List Text} {table : Table} {id : Int}
      (names : table.Names ⟨database, name⟩) :
      Suits (.insert database name values) (.numbered table values id)
  | appended {database name : Text} {values : List Text} {table : Table} {id : Int}
      (names : table.Names ⟨database, name⟩) :
      Suits (.insert database name values) (.appended table id)
  | leaving {database name : Text} {values : List Text} {table : Table}
      {result : Except Failure Int} (names : table.Names ⟨database, name⟩) :
      Suits (.insert database name values) (.leaving table result)
  | reading {database name : Text} {table : Table} (names : table.Names ⟨database, name⟩) :
      Suits (.scan database name) (.reading table)
  | queued {call : Call} {creation : Creation} (creates : call.creation? = some creation) :
      Suits call (.queued creation)
  | checking {call : Call} {creation : Creation} (creates : call.creation? = some creation) :
      Suits call (.checking creation)
  | making {call : Call} {creation : Creation} (creates : call.creation? = some creation) :
      Suits call (.making creation)
  | entering {call : Call} {creation : Creation} (creates : call.creation? = some creation) :
      Suits call (.entering creation)
  | closing {call : Call} {creation : Creation} {result : Except StoreError Unit}
      (creates : call.creation? = some creation) : Suits call (.closing creation result)
  | finished {call : Call} {result : Except Failure Value}
      (created : ∀ value, result = .ok value → value.creation? = call.creation?) :
      Suits call (.finished result)

/-- A call goes through its stages. -/
theorem Suits.move {call : Call} {shared after : Shared} {stage next : Stage}
    (suits : Suits call stage) (named : shared.store.catalog.Named)
    (move : Move shared stage next after) : Suits call next := by
  have ended (result : Except StoreError Value)
      (created : ∀ value, result = .ok value → value.creation? = call.creation?) :
      Suits call (finish result) :=
    .finished fun value same => created value (mapError_eq_ok same)
  cases suits with
  | begun =>
      cases move with
      | refuseInsert | refuseDatabase | refuseTable | refuseScan => exact .finished nofun
      | beginInsert known => exact .resolved (named.resolve known)
      | beginScan known => exact .reading (named.resolve known)
      | nextId =>
          refine ended _ fun value same => ?_
          obtain ⟨_, -, rfl⟩ := map_eq_ok same
          rfl
      | resolve =>
          refine ended _ fun value same => ?_
          obtain ⟨_, -, rfl⟩ := map_eq_ok same
          rfl
      | beginDatabase valid =>
          obtain ⟨_, -, rfl⟩ := map_eq_ok valid
          exact .queued rfl
      | beginTable valid =>
          obtain ⟨_, -, rfl⟩ := map_eq_ok valid
          exact .queued rfl
  | resolved names =>
      cases move
      exact .waiting names
  | waiting names =>
      cases move
      exact .holding names
  | holding names =>
      cases move
      exact .numbered names
  | numbered names =>
      cases move with
      | refuseRow => exact .leaving names
      | append => exact .appended names
  | appended names =>
      cases move with
      | refuseAdvance => exact .leaving names
      | advance => exact .leaving names
  | leaving names =>
      cases move with
      | leaveFailed => exact .finished nofun
      | leave =>
          refine .finished fun value same => ?_
          cases same
          rfl
  | reading names =>
      cases move
      refine ended _ fun value same => ?_
      obtain ⟨_, -, rfl⟩ := map_eq_ok same
      rfl
  | queued creates =>
      cases move
      exact .checking creates
  | checking creates =>
      cases move with
      | refuseDuplicate => exact .closing creates
      | check => exact .making creates
  | making creates =>
      cases move with
      | refuseMake => exact .closing creates
      | make => exact .entering creates
  | entering creates =>
      cases move
      exact .closing creates
  | closing creates =>
      cases move with
      | closeFailed => exact .finished nofun
      | close =>
          refine .finished fun value same => ?_
          cases same
          exact creates.symm
  | finished => cases move

end Stage

namespace Store

/-- What moving the allocator of a table on does. -/
theorem advance_ok {store after : Store} {table : Table} {id : Int}
    (advanced : store.advance table id = .ok after) :
    id = (store.allocatorOf table).next ∧ after = { store with
      catalog := store.catalog.setAllocator table.ref (store.allocatorOf table).step } := by
  rw [advance, Allocator.advancePast] at advanced
  by_cases current : id = (store.allocatorOf table).next
  · rw [if_pos current] at advanced
    cases advanced
    exact ⟨current, rfl⟩
  · rw [if_neg current] at advanced
    cases advanced

theorem catalog_make {store after : Store} {creation : Creation} {outcome : Except StoreError Unit}
    (made : store.make creation = (after, outcome)) : after.catalog = store.catalog := by
  rw [make_eq made]

theorem catalog_enter_database (store : Store) (name : Text) :
    (store.enter (.database name)).catalog = store.catalog.addDatabase name := rfl

theorem catalog_enter_table (store : Store) (entry : Table) :
    (store.enter (.table entry)).catalog = store.catalog.addTable entry := rfl

end Store

namespace Stage

/-- What a move does to the catalog. -/
inductive CatalogMove (shared : Shared) (stage : Stage) : Catalog → Prop
  | same : CatalogMove shared stage shared.store.catalog
  /-- The allocator of a table makes a step. -/
  | advance {ref : TableRef} {allocator : Allocator}
      (steps : ∀ table, shared.store.catalog.tables.find? ref = some table →
        allocator = table.allocator.step) :
      CatalogMove shared stage (shared.store.catalog.setAllocator ref allocator)
  /-- Something new is entered. -/
  | enter {creation : Creation} (here : stage = .entering creation) :
      CatalogMove shared stage (shared.store.enter creation).catalog

/-- A move leaves the catalog as it is, uses up an identity or enters what was created. -/
theorem Move.catalog {shared after : Shared} {stage next : Stage}
    (move : Move shared stage next after) (named : shared.store.catalog.Named) :
    CatalogMove shared stage after.store.catalog := by
  cases move with
  | @nextId database name store result taken =>
      rw [Store.nextId] at taken
      split at taken
      · cases taken
        exact .same
      · rename_i table found
        cases taken
        refine .advance fun other other_found => ?_
        rw [(named _ table found).ref_eq, found, Option.some.injEq] at other_found
        rw [other_found]
  | advance advanced =>
      obtain ⟨-, rfl⟩ := Store.advance_ok advanced
      exact .advance fun entry found => by rw [Store.allocatorOf_of_find? found]
  | refuseMake made | make made =>
      rw [Store.catalog_make made]
      exact .same
  | enter => exact .enter rfl
  | _ => exact .same

/-- Entries go on to be named. -/
theorem CatalogMove.named {call : Call} {shared : Shared} {stage : Stage} {after : Catalog}
    (catalog : CatalogMove shared stage after) (suits : stage.Suits call)
    (named : shared.store.catalog.Named) : after.Named := by
  cases catalog with
  | same => exact named
  | advance => exact named.setAllocator _ _
  | @enter creation here =>
      subst here
      cases suits with
      | entering creates =>
          cases creation with
          | database name =>
              intro ref table found
              rw [Store.catalog_enter_database, Store.tables_addDatabase] at found
              exact named ref table found
          | table entry =>
              obtain ⟨columns, -, entry_eq⟩ := Call.eq_createTable creates
              intro ref table found
              rw [Store.catalog_enter_table, Catalog.addTable, Index.find?_put] at found
              split at found
              · rename_i here
                rw [← Option.some.inj found, ← here]
                exact ⟨rfl, by rw [entry_eq]; rfl, trivial⟩
              · exact named ref table found

end Stage

namespace Crew

/-- Every call is at one of its own stages, and the entries of the catalog are named. -/
structure Orderly (start crew : Crew) : Prop where
  named : crew.shared.store.catalog.Named
  suits : ∀ {thread position : Nat} {stage : Stage}, crew.stage? thread position = some stage →
    ∃ call, start.call? thread position = some call ∧ stage.Suits call

theorem Orderly.turn {start before after : Crew} (orderly : Orderly start before)
    (turn : Turn before after) : Orderly start after where
  named := by
    cases turn with
    | rest shared calls =>
        rw [shared]
        exact orderly.named
    | move here move calls =>
        obtain ⟨call, -, suits⟩ := orderly.suits here
        exact (move.catalog orderly.named).named suits orderly.named
  suits here := by
    rcases turn.stage?_or here with still | ⟨old, old_here, move⟩
    · exact orderly.suits still
    · obtain ⟨call, call_here, suits⟩ := orderly.suits old_here
      exact ⟨call, call_here, suits.move orderly.named move⟩

/-- In every run the calls keep to their stages. -/
theorem orderly_runTicks {store : Store} (named : store.catalog.Named) (calls : List (List Call))
    (ticks : List Tick) :
    Orderly (ofCalls store calls) ((ofCalls store calls).runTicks ticks) := by
  have begins : Orderly (ofCalls store calls) (ofCalls store calls) := by
    refine ⟨named, fun {thread position stage} here => ?_⟩
    obtain ⟨call, call_here, rfl⟩ := stage?_ofCalls here
    exact ⟨call, call_here, .begun⟩
  exact runTicks_turns begins (fun _ _ orderly turn => orderly.turn turn) ticks

end Crew
end FlatStore
