import FlatStore.Proofs.Completion
import FlatStore.Proofs.Creations
import FlatStore.Proofs.Services

/-!
# Creations side by side

Threads create databases and tables while others look tables up, insert and scan.  Between the look
for a duplicate and the entry a creation holds the catalog lock, so what it has found to be new
stays so, and it wins: of all creations of one name no other one does.  A table is entered when its
file holds the header, so whoever finds a table finds the header, too.
-/

namespace FlatStore

namespace Stage

/-- What a creation that has found no duplicate is about to enter. -/
def awaited? : Stage → Option Creation
  | .making creation => some creation
  | .entering creation => some creation
  | _ => none

/-- What a creation has entered. -/
def won? : Stage → Option Creation
  | .closing creation (.ok ()) => some creation
  | .finished (.ok value) => value.creation?
  | _ => none

/-- The table that a call has found. -/
def table? : Stage → Option Table
  | .resolved table _ => some table
  | .waiting table _ => some table
  | .holding table _ => some table
  | .numbered table _ _ => some table
  | .appended table _ => some table
  | .leaving table _ => some table
  | .reading table => some table
  | _ => none

variable {shared after : Shared} {stage next : Stage} {creation : Creation} {table : Table}

theorem holdsCatalog_of_awaited (awaited : stage.awaited? = some creation) :
    stage.HoldsCatalog := by
  cases stage with
  | making | entering => trivial
  | _ => cases awaited

/-- What is awaited was awaited before or is new. -/
theorem Move.awaited (move : Move shared stage next after)
    (awaited : next.awaited? = some creation) :
    after.store.catalog = shared.store.catalog ∧
      (stage.awaited? = some creation ∨ shared.store.checkNew creation = .ok ()) := by
  cases move with
  | check new =>
      cases awaited
      exact ⟨rfl, .inr new⟩
  | make made => exact ⟨Store.catalog_make made, .inl awaited⟩
  | _ => cases awaited

/-- What is to be entered has just been made. -/
theorem Move.made (move : Move shared stage next after) (made : next = .entering creation) :
    shared.store.make creation = (after.store, .ok ()) := by
  cases move with
  | make done =>
      cases made
      exact done
  | _ => cases made

/-- A creation that has won goes on having won. -/
theorem Move.won (move : Move shared stage next after) (won : stage.won? = some creation) :
    next.won? = some creation := by
  cases move with
  | close => exact won
  | _ => cases won

theorem won?_finish_map {α : Type} {value : α → Value} (found : Except StoreError α)
    (plain : ∀ source, (value source).creation? = none) :
    (finish (found.map value)).won? = none := by
  cases found with
  | error error => rfl
  | ok source => exact plain source

/-- A creation wins by entering what it creates. -/
theorem Move.of_won (move : Move shared stage next after) (won : next.won? = some creation) :
    stage.won? = some creation ∨
      stage = .entering creation ∧ after.store = shared.store.enter creation := by
  cases move with
  | @enter other =>
      cases won
      exact .inr ⟨rfl, rfl⟩
  | close => exact .inl won
  | @nextId database name store result taken =>
      rw [won?_finish_map _ fun _ => rfl] at won
      cases won
  | resolve =>
      rw [won?_finish_map _ fun _ => rfl] at won
      cases won
  | read =>
      rw [won?_finish_map _ fun _ => rfl] at won
      cases won
  | _ => cases won

theorem Move.won_of_entering (move : Move shared (.entering creation) next after) :
    next.won? = some creation := by
  cases move
  rfl

/-- A call has entered what it was to create. -/
theorem Suits.creation?_of_won {call : Call} (suits : stage.Suits call)
    (won : stage.won? = some creation) : call.creation? = some creation := by
  cases suits with
  | @closing _ other result creates =>
      cases result with
      | error error => cases won
      | ok done =>
          cases won
          exact creates
  | @finished _ result created =>
      cases result with
      | error failure => cases won
      | ok value => exact (created value rfl).symm.trans won
  | _ => cases won

/-- A call finds a table in the catalog. -/
theorem Move.found (move : Move shared stage next after) (named : shared.store.catalog.Named)
    (found : next.table? = some table) :
    stage.table? = some table ∨ shared.store.catalog.tables.find? table.ref = some table := by
  cases move with
  | beginInsert known =>
      cases found
      have there := (Catalog.resolve_eq_ok_iff.1 known).2
      exact .inr (by rw [(named _ table there).ref_eq, there])
  | beginScan known =>
      cases found
      have there := (Catalog.resolve_eq_ok_iff.1 known).2
      exact .inr (by rw [(named _ table there).ref_eq, there])
  | register | hold | number | refuseRow | append | refuseAdvance | advance => exact .inl found
  | _ => cases found

end Stage

namespace Crew

variable {start before after crew : Crew} {thread position : Nat} {creation : Creation}

/-- A creation, given by its thread and its position among the calls of the thread, has entered what
it creates. -/
def Wins (crew : Crew) (thread position : Nat) (creation : Creation) : Prop :=
  ∃ stage, crew.stage? thread position = some stage ∧ stage.won? = some creation

/-! ## Creations that are under way -/

/-- What a creation is about to enter is new, and a table has its header. -/
structure Creating (start crew : Crew) : Prop where
  orderly : Orderly start crew
  alone : Guarded Stage.HoldsCatalog Shared.catalogHeld crew
  new : ∀ {thread position : Nat} {stage : Stage} {creation : Creation},
    crew.stage? thread position = some stage → stage.awaited? = some creation →
    ¬crew.shared.store.catalog.Knows creation.target
  headed : ∀ {thread position : Nat} {entry : Table},
    crew.stage? thread position = some (.entering (.table entry)) →
    crew.shared.store.storage.BeginsWith entry.path (Utf8.encode entry.schema.header)

/-- No turn takes anything from the catalog. -/
theorem Creating.kept (creating : Creating start before) (turn : Turn before after) :
    before.shared.store.catalog.Extends after.shared.store.catalog := by
  cases turn with
  | rest shared calls =>
      rw [shared]
      exact .refl _
  | move here move calls =>
      refine (move.catalog creating.orderly.named).kept fun creation entering => ?_
      subst entering
      exact creating.new here rfl

/-- No turn takes anything from the files of tables. -/
theorem Orderly.beginsWith (orderly : Orderly start before) (turn : Turn before after)
    {ref : TableRef} {octets : Octets}
    (begins : before.shared.store.storage.BeginsWith ref.path octets) :
    after.shared.store.storage.BeginsWith ref.path octets := by
  cases turn with
  | rest shared calls =>
      rw [shared]
      exact begins
  | move here move calls =>
      obtain ⟨call, -, suits⟩ := orderly.suits here
      exact move.beginsWith suits begins

/-- What was new to a creation that is under way stays new, for nobody else can enter anything. -/
theorem Creating.new_turn (creating : Creating start before) (turn : Turn before after)
    {stage : Stage} (here : after.stage? thread position = some stage)
    (awaited : stage.awaited? = some creation) :
    ¬after.shared.store.catalog.Knows creation.target := by
  intro known
  cases turn with
  | rest shared calls =>
      rw [calls] at here
      rw [shared] at known
      exact creating.new here awaited known
  | @move mover spot old next mover_here move calls =>
      rw [calls] at here
      split at here
      · -- The mover has just found no duplicate, or had found none before.
        cases here
        obtain ⟨same, earlier | checked⟩ := move.awaited awaited
        · rw [same] at known
          exact creating.new mover_here earlier known
        · rw [same] at known
          exact Store.checkNew_eq_ok_iff.1 checked known
      · rename_i apart
        rcases (move.catalog creating.orderly.named).knows known with old_known | ⟨other, rfl, -⟩
        · exact creating.new here awaited old_known
        · exact apart (creating.alone.one mover_here trivial here
            (Stage.holdsCatalog_of_awaited awaited))

/-- A table that is about to be entered has the file of its name. -/
theorem Orderly.path_eq (orderly : Orderly start crew) {entry : Table}
    (here : crew.stage? thread position = some (.entering (.table entry))) :
    entry.path = entry.ref.path := by
  obtain ⟨call, -, suits⟩ := orderly.suits here
  cases suits with
  | entering creates =>
      obtain ⟨columns, -, entry_eq⟩ := Call.eq_createTable creates
      rw [entry_eq]
      rfl

/-- The file of a table that is about to be entered was made with the header and keeps it. -/
theorem Creating.headed_turn (creating : Creating start before) (turn : Turn before after)
    {entry : Table} (here : after.stage? thread position = some (.entering (.table entry))) :
    after.shared.store.storage.BeginsWith entry.path (Utf8.encode entry.schema.header) := by
  rcases turn.stage?_or here with still | ⟨old, old_here, move⟩
  · have begins := creating.headed still
    rw [creating.orderly.path_eq still] at begins ⊢
    exact creating.orderly.beginsWith turn begins
  · have made := move.made rfl
    rcases created : before.shared.store.storage.createTable entry.path entry.schema with
      ⟨storage, outcome⟩
    rw [Store.make, created, Prod.mk.injEq] at made
    obtain ⟨same, rfl⟩ := made
    rw [← same]
    exact Storage.beginsWith_of_content (Storage.contentAt_of_createTable created)

theorem Creating.turn (creating : Creating start before) (turn : Turn before after) :
    Creating start after where
  orderly := creating.orderly.turn turn
  alone := creating.alone.turn Stage.isLock_catalog turn
  new := creating.new_turn turn
  headed := creating.headed_turn turn

/-! ## Creations that have won -/

/-- Only who enters something wins. -/
theorem wins_of_turn (turn : Turn before after) (wins : after.Wins thread position creation) :
    before.Wins thread position creation ∨
      before.stage? thread position = some (.entering creation) ∧
        after.shared.store = before.shared.store.enter creation := by
  obtain ⟨stage, here, won⟩ := wins
  rcases turn.stage?_or here with still | ⟨old, old_here, move⟩
  · exact .inl ⟨stage, still, won⟩
  · rcases move.of_won won with earlier | ⟨rfl, entered⟩
    · exact .inl ⟨old, old_here, earlier⟩
    · exact .inr ⟨old_here, entered⟩

/-- Whoever has won goes on having won. -/
theorem Wins.turn (wins : before.Wins thread position creation) (turn : Turn before after) :
    after.Wins thread position creation := by
  obtain ⟨stage, here, won⟩ := wins
  obtain ⟨next, next_here, rfl | move⟩ := turn.exists_stage? here
  · exact ⟨next, next_here, won⟩
  · exact ⟨next, next_here, move.won won⟩

/-- How creations stand: of those of one name one has won at most, everything new comes from a
creation that has won, and whoever has found a table finds it still. -/
structure Standing (start crew : Crew) : Prop where
  creating : Creating start crew
  kept : start.shared.store.catalog.Extends crew.shared.store.catalog
  files : ∀ {ref : TableRef} {octets : Octets},
    start.shared.store.storage.BeginsWith ref.path octets →
    crew.shared.store.storage.BeginsWith ref.path octets
  won : ∀ {thread position : Nat} {creation : Creation}, crew.Wins thread position creation →
    crew.shared.store.catalog.Knows creation.target ∧
      ¬start.shared.store.catalog.Knows creation.target
  one : ∀ {thread position other place : Nat} {creation rival : Creation},
    crew.Wins thread position creation → crew.Wins other place rival →
    rival.target = creation.target → other = thread ∧ place = position
  known : ∀ {target : Target}, crew.shared.store.catalog.Knows target →
    start.shared.store.catalog.Knows target ∨
      ∃ thread position creation, crew.Wins thread position creation ∧ creation.target = target
  table : ∀ {thread position : Nat} {entry : Table}, crew.Wins thread position (.table entry) →
    entry.path = entry.ref.path ∧
      (∃ table, crew.shared.store.catalog.tables.find? entry.ref = some table ∧
        table.path = entry.path ∧ table.schema = entry.schema) ∧
      crew.shared.store.storage.BeginsWith entry.path (Utf8.encode entry.schema.header)
  found : ∀ {thread position : Nat} {stage : Stage} {table : Table},
    crew.stage? thread position = some stage → stage.table? = some table →
    ∃ entry, crew.shared.store.catalog.tables.find? table.ref = some entry ∧
      entry.path = table.path ∧ entry.schema = table.schema

/-- What an entry of a catalog is called and holds stays. -/
theorem exists_entry_of_extends {catalog later : Catalog} (kept : catalog.Extends later)
    {ref : TableRef} {path : Path} {schema : Schema}
    (found : ∃ entry, catalog.tables.find? ref = some entry ∧ entry.path = path ∧
      entry.schema = schema) :
    ∃ entry, later.tables.find? ref = some entry ∧ entry.path = path ∧ entry.schema = schema := by
  obtain ⟨entry, there, rfl, rfl⟩ := found
  obtain ⟨now, now_there, -, path_eq, schema_eq, -⟩ := kept.tables ref entry there
  exact ⟨now, now_there, path_eq, schema_eq⟩

section

variable (standing : Standing start before) (turn : Turn before after)

include standing turn

theorem Standing.won_turn (wins : after.Wins thread position creation) :
    after.shared.store.catalog.Knows creation.target ∧
      ¬start.shared.store.catalog.Knows creation.target := by
  rcases wins_of_turn turn wins with earlier | ⟨entering, entered⟩
  · obtain ⟨known, new⟩ := standing.won earlier
    exact ⟨(standing.creating.kept turn).knows known, new⟩
  · rw [entered]
    exact ⟨Store.knows_enter.2 (.inl rfl), fun known =>
      standing.creating.new entering rfl (standing.kept.knows known)⟩

/-- A creation that enters something has no rival: what the rival has won would not be new. -/
theorem Standing.one_turn {other place : Nat} {rival : Creation}
    (wins : after.Wins thread position creation) (other_wins : after.Wins other place rival)
    (same : rival.target = creation.target) : other = thread ∧ place = position := by
  have creating := standing.creating
  rcases wins_of_turn turn wins with earlier | ⟨entering, -⟩ <;>
    rcases wins_of_turn turn other_wins with other_earlier | ⟨other_entering, -⟩
  · exact standing.one earlier other_earlier same
  · exact absurd (same ▸ (standing.won earlier).1) (creating.new other_entering rfl)
  · exact absurd (same ▸ (standing.won other_earlier).1) (creating.new entering rfl)
  · exact creating.alone.one entering trivial other_entering trivial

theorem Standing.known_turn {target : Target} (known : after.shared.store.catalog.Knows target) :
    start.shared.store.catalog.Knows target ∨
      ∃ thread position creation, after.Wins thread position creation ∧
        creation.target = target := by
  have before_or_wins : before.shared.store.catalog.Knows target ∨
      ∃ thread position creation, after.Wins thread position creation ∧
        creation.target = target := by
    cases turn with
    | rest shared calls =>
        rw [shared] at known
        exact .inl known
    | @move mover spot stage next mover_here move calls =>
        rcases (move.catalog standing.creating.orderly.named).knows known with
          old | ⟨other, rfl, same⟩
        · exact .inl old
        · exact .inr ⟨mover, spot, other, ⟨next, stage?_of_move calls, move.won_of_entering⟩,
            same.symm⟩
  rcases before_or_wins with old | wins
  · rcases standing.known old with first | ⟨thread, position, creation, wins, same⟩
    · exact .inl first
    · exact .inr ⟨thread, position, creation, wins.turn turn, same⟩
  · exact .inr wins

theorem Standing.table_turn {entry : Table} (wins : after.Wins thread position (.table entry)) :
    entry.path = entry.ref.path ∧
      (∃ table, after.shared.store.catalog.tables.find? entry.ref = some table ∧
        table.path = entry.path ∧ table.schema = entry.schema) ∧
      after.shared.store.storage.BeginsWith entry.path (Utf8.encode entry.schema.header) := by
  have creating := standing.creating
  rcases wins_of_turn turn wins with earlier | ⟨entering, entered⟩
  · obtain ⟨path_eq, there, begins⟩ := standing.table earlier
    refine ⟨path_eq, exists_entry_of_extends (creating.kept turn) there, ?_⟩
    rw [path_eq] at begins ⊢
    exact creating.orderly.beginsWith turn begins
  · have path_eq := creating.orderly.path_eq entering
    refine ⟨path_eq, ⟨entry, ?_, rfl, rfl⟩, ?_⟩
    · rw [entered, Store.catalog_enter_table]
      exact Index.find?_put_self ..
    · have begins := creating.headed entering
      rw [path_eq] at begins ⊢
      exact creating.orderly.beginsWith turn begins

theorem Standing.found_turn {stage : Stage} {table : Table}
    (here : after.stage? thread position = some stage) (found : stage.table? = some table) :
    ∃ entry, after.shared.store.catalog.tables.find? table.ref = some entry ∧
      entry.path = table.path ∧ entry.schema = table.schema := by
  refine exists_entry_of_extends (standing.creating.kept turn) ?_
  rcases turn.stage?_or here with still | ⟨old, old_here, move⟩
  · exact standing.found still found
  · rcases move.found standing.creating.orderly.named found with earlier | there
    · exact standing.found old_here earlier
    · exact ⟨table, there, rfl, rfl⟩

end

/-- A turn leaves creations standing as they did. -/
theorem Standing.turn (standing : Standing start before) (turn : Turn before after) :
    Standing start after where
  creating := standing.creating.turn turn
  kept := standing.kept.trans (standing.creating.kept turn)
  files begins := standing.creating.orderly.beginsWith turn (standing.files begins)
  won := standing.won_turn turn
  one := standing.one_turn turn
  known := standing.known_turn turn
  table := standing.table_turn turn
  found := standing.found_turn turn

/-- At the start nothing has won. -/
theorem standing_ofCalls {store : Store} (named : store.catalog.Named) (calls : List (List Call)) :
    Standing (ofCalls store calls) (ofCalls store calls) := by
  have no_winner {thread position : Nat} {creation : Creation} :
      ¬(ofCalls store calls).Wins thread position creation := by
    rintro ⟨stage, here, won⟩
    obtain ⟨call, -, rfl⟩ := stage?_ofCalls here
    cases won
  constructor
  case creating =>
    refine ⟨orderly_runTicks named calls [], guarded_ofCalls Stage.isLock_catalog store calls,
      ?_, ?_⟩
    · intro thread position stage creation here awaited
      obtain ⟨call, -, rfl⟩ := stage?_ofCalls here
      cases awaited
    · intro thread position entry here
      obtain ⟨call, -, same⟩ := stage?_ofCalls here
      cases same
  case kept => exact .refl _
  case files => exact id
  case won => exact fun wins => absurd wins no_winner
  case one => exact fun wins => absurd wins no_winner
  case known => exact .inl
  case table => exact fun wins => absurd wins no_winner
  case found =>
    intro thread position stage table here found
    obtain ⟨call, -, rfl⟩ := stage?_ofCalls here
    cases found

theorem standing_runTicks {store : Store} (named : store.catalog.Named) (calls : List (List Call))
    (ticks : List Tick) :
    Standing (ofCalls store calls) ((ofCalls store calls).runTicks ticks) :=
  runTicks_turns (standing_ofCalls named calls) (fun _ _ standing turn => standing.turn turn) ticks

end Crew

/-! ## Creations that have failed -/

/-- What a creation checks before it waits for the catalog lock. -/
def Call.check (catalog : Catalog) : Call → Except StoreError Unit
  | .createDatabase name => Catalog.checkDatabase name
  | .createTable database name columns => catalog.checkTable database name columns
  | _ => .ok ()

/-- An error of a creation behind its checks. -/
def StoreError.IsConflict (error : StoreError) : Prop :=
  error.kind = .alreadyExists ∨ error.kind = .ioFailure

namespace Stage

/-- If a creation is failing, then because the checks refuse it or for a conflict. -/
def FailsBy (Refused : StoreError → Prop) : Stage → Prop
  | .closing _ (.error error) => error.IsConflict
  | .finished (.error failure) =>
      ∃ error, failure = .store error ∧ (Refused error ∨ error.IsConflict)
  | _ => True

variable {call : Call} {shared after : Shared} {stage next : Stage} {creation : Creation}
  {Refused : StoreError → Prop}

theorem FailsBy.move (fails : stage.FailsBy Refused) (creates : call.creation? = some creation)
    (suits : stage.Suits call) (move : Move shared stage next after)
    (refused : ∀ error, stage = .begun call → call.check shared.store.catalog = .error error →
      next = .finished (.error (.store error)) → Refused error) : next.FailsBy Refused := by
  cases suits with
  | begun =>
      cases move with
      | refuseDatabase invalid =>
          exact ⟨_, rfl, .inl (refused _ rfl (map_eq_error invalid) rfl)⟩
      | refuseTable invalid =>
          exact ⟨_, rfl, .inl (refused _ rfl (map_eq_error invalid) rfl)⟩
      | beginDatabase | beginTable => trivial
      | _ => cases creates
  | resolved | waiting | holding | numbered | appended | leaving | reading => cases creates
  | queued =>
      cases move
      trivial
  | checking =>
      cases move with
      | refuseDuplicate known => exact .inl (Store.kind_of_checkNew known)
      | check => trivial
  | making =>
      cases move with
      | refuseMake refused_make => exact Store.kind_of_make refused_make
      | make => trivial
  | entering =>
      cases move
      trivial
  | closing =>
      cases move with
      | closeFailed => exact ⟨_, rfl, .inr fails⟩
      | close => trivial
  | finished => cases move

theorem FailsBy.mono {Also : StoreError → Prop} (fails : stage.FailsBy Refused)
    (also : ∀ error, Refused error → Also error) : stage.FailsBy Also := by
  cases stage with
  | finished result =>
      cases result with
      | error failure =>
          obtain ⟨error, same, cause⟩ := fails
          exact ⟨error, same, cause.imp_left (also error)⟩
      | ok value => trivial
  | closing creation result => cases result <;> exact fails
  | _ => trivial

end Stage

namespace Crew

variable {start crew : Crew} {thread position : Nat} {creation : Creation}

/-- In a run the checks of a creation refuse it. -/
def Refuses (start : Crew) (ticks : List Tick) (thread position : Nat) (call : Call)
    (error : StoreError) : Prop :=
  ∃ early tick, early ++ [tick] <+: ticks ∧
    (start.runTicks early).stage? thread position = some (.begun call) ∧
    call.check (start.runTicks early).shared.store.catalog = .error error ∧
    (start.runTicks (early ++ [tick])).stage? thread position =
      some (.finished (.error (.store error)))

theorem failsBy_runTicks {store : Store} (named : store.catalog.Named) (calls : List (List Call))
    (ticks : List Tick) {thread position : Nat} {call : Call} {creation : Creation} {stage : Stage}
    (call_here : (ofCalls store calls).call? thread position = some call)
    (creates : call.creation? = some creation)
    (here : ((ofCalls store calls).runTicks ticks).stage? thread position = some stage) :
    stage.FailsBy ((ofCalls store calls).Refuses ticks thread position call) := by
  induction ticks using List.reverseRecOn generalizing stage with
  | nil =>
      obtain ⟨first, -, rfl⟩ := stage?_ofCalls here
      trivial
  | append_singleton early tick ih =>
      have longer (error : StoreError)
          (refused : (ofCalls store calls).Refuses early thread position call error) :
          (ofCalls store calls).Refuses (early ++ [tick]) thread position call error := by
        obtain ⟨before, last, begins, rest⟩ := refused
        exact ⟨before, last, begins.trans (List.prefix_append early [tick]), rest⟩
      have turn := turn_tick ((ofCalls store calls).runTicks early) tick
      rw [← runTicks_concat] at turn
      rcases turn.stage?_or here with still | ⟨old, old_here, move⟩
      · exact (ih still).mono longer
      · obtain ⟨own, own_here, suits⟩ := (orderly_runTicks named calls early).suits old_here
        rw [call_here, Option.some.injEq] at own_here
        subst own_here
        refine ((ih old_here).mono longer).move creates suits move ?_
        intro error begins invalid ended
        exact ⟨early, tick, List.prefix_refl _, begins ▸ old_here, invalid, ended ▸ here⟩

/-! ## Runs -/

/-- What is true of the creations in a run. -/
structure CreatesOnce (start : Crew) (ticks : List Tick) : Prop where
  /-- Of all creations of one database or of one table one wins at most. -/
  one : ∀ {thread position other place : Nat} {creation rival : Creation},
    (start.runTicks ticks).Wins thread position creation →
    (start.runTicks ticks).Wins other place rival →
    rival.target = creation.target → other = thread ∧ place = position
  /-- Success is to have won. -/
  success : ∀ {thread position : Nat} {call : Call} {creation : Creation} {value : Value},
    start.call? thread position = some call → call.creation? = some creation →
    (start.runTicks ticks).result? thread position = some (.ok value) →
    value = .created creation ∧ (start.runTicks ticks).Wins thread position creation
  /-- A creation that fails is refused by its checks, is a duplicate or meets the operating
  system. -/
  loser : ∀ {thread position : Nat} {call : Call} {creation : Creation} {failure : Failure},
    start.call? thread position = some call → call.creation? = some creation →
    (start.runTicks ticks).result? thread position = some (.error failure) →
    ∃ error, failure = .store error ∧
      (start.Refuses ticks thread position call error ∨ error.kind = .alreadyExists ∨
        error.kind = .ioFailure)
  /-- What is known was known at the start or comes from the creation that has won, and only what
  was unknown is created. -/
  known : ∀ target, (start.runTicks ticks).shared.store.catalog.Knows target ↔
    start.shared.store.catalog.Knows target ∨
      ∃ thread position creation, (start.runTicks ticks).Wins thread position creation ∧
        creation.target = target
  new : ∀ {thread position : Nat} {creation : Creation},
    (start.runTicks ticks).Wins thread position creation →
    ¬start.shared.store.catalog.Knows creation.target
  /-- The table of a creation that has won has the schema of its call, and its file begins with the
  header of that schema. -/
  table : ∀ {thread position : Nat} {entry : Table},
    (start.runTicks ticks).Wins thread position (.table entry) →
    ∃ columns table,
      start.call? thread position =
        some (.createTable entry.ref.database entry.ref.table columns) ∧
      (start.runTicks ticks).shared.store.catalog.tables.find? entry.ref = some table ∧
      table.path = entry.ref.path ∧ table.schema = Schema.ofColumns columns ∧
      (start.runTicks ticks).shared.store.storage.BeginsWith entry.ref.path
        (Utf8.encode (Schema.ofColumns columns).header)
  /-- The table that an insert or scan has found is a table of the catalog. -/
  found : ∀ {thread position : Nat} {stage : Stage} {table : Table},
    (start.runTicks ticks).stage? thread position = some stage → stage.table? = some table →
    ∃ entry, (start.runTicks ticks).shared.store.catalog.tables.find? table.ref = some entry ∧
      entry.path = table.path ∧ entry.schema = table.schema
  /-- The files that were there at the start are extended at most. -/
  files : ∀ {ref : TableRef} {content : Octets},
    start.shared.store.storage.contentAt ref.path = .ok content →
    (start.runTicks ticks).shared.store.storage.BeginsWith ref.path content
  /-- No entry is replaced or removed. -/
  kept : ∀ late, (start.runTicks ticks).shared.store.catalog.Extends
    (start.runTicks (ticks ++ late)).shared.store.catalog
  /-- The run can go on until every call has returned. -/
  completes : ∃ late, ∀ thread position call, start.call? thread position = some call →
    ∃ result, (start.runTicks (ticks ++ late)).result? thread position = some result

/-- A creation that returns without failing has won. -/
theorem Orderly.success (orderly : Orderly start crew) {call : Call} {value : Value}
    (call_here : start.call? thread position = some call)
    (creates : call.creation? = some creation)
    (returned : crew.result? thread position = some (.ok value)) :
    value = .created creation ∧ crew.Wins thread position creation := by
  rw [result?_eq_some_iff] at returned
  obtain ⟨own, own_here, suits⟩ := orderly.suits returned
  rw [call_here, Option.some.injEq] at own_here
  subst own_here
  cases suits with
  | finished created =>
      have made := (created value rfl).trans creates
      refine ⟨?_, _, returned, made⟩
      cases value with
      | created other =>
          cases made
          rfl
      | _ => cases made

/-- The file of a created table begins with the header of the schema of the call. -/
theorem Standing.header (standing : Standing start crew) {entry : Table}
    (wins : crew.Wins thread position (.table entry)) :
    ∃ columns table,
      start.call? thread position =
        some (.createTable entry.ref.database entry.ref.table columns) ∧
      crew.shared.store.catalog.tables.find? entry.ref = some table ∧
      table.path = entry.ref.path ∧ table.schema = Schema.ofColumns columns ∧
      crew.shared.store.storage.BeginsWith entry.ref.path
        (Utf8.encode (Schema.ofColumns columns).header) := by
  obtain ⟨path_eq, ⟨table, found, table_path, table_schema⟩, begins⟩ := standing.table wins
  obtain ⟨stage, here, won⟩ := wins
  obtain ⟨call, call_here, suits⟩ := standing.creating.orderly.suits here
  obtain ⟨columns, rfl, entry_eq⟩ := Call.eq_createTable (suits.creation?_of_won won)
  have schema_eq : entry.schema = Schema.ofColumns columns := by
    rw [entry_eq]
    rfl
  rw [path_eq, schema_eq] at begins
  exact ⟨columns, table, call_here, found, table_path.trans path_eq,
    table_schema.trans schema_eq, begins⟩

/-- Threads create databases and tables, look tables up, insert and scan in any order of their
steps, beginning with the store that was loaded from any tree: at every moment of every run, of the
creations of one name one has won at most, the others find a duplicate, and its table has its
header. -/
theorem runTicks_creates {before store : Store} (loaded : before.load = .ok store)
    (calls : List (List Call)) (ticks : List Tick) : CreatesOnce (ofCalls store calls) ticks := by
  have named : store.catalog.Named := fun ref table found =>
    ⟨(Store.consistent_of_load loaded ref table found).2.1,
      (Store.consistent_of_load loaded ref table found).2.2, trivial⟩
  have standing := standing_runTicks named calls ticks
  have orderly := standing.creating.orderly
  constructor
  case one => exact standing.one
  case success => exact orderly.success
  case loser =>
    intro thread position call creation failure call_here creates returned
    rw [result?_eq_some_iff] at returned
    exact failsBy_runTicks named calls ticks call_here creates returned
  case known =>
    intro target
    constructor
    · exact standing.known
    · rintro (first | ⟨thread, position, creation, wins, rfl⟩)
      · exact standing.kept.knows first
      · exact (standing.won wins).1
  case new => exact fun wins => (standing.won wins).2
  case table => exact standing.header
  case found => exact standing.found
  case files => exact fun stored => standing.files (Storage.beginsWith_of_content stored)
  case kept =>
    intro late
    have later := @runTicks_turns _ (fun crew => Standing (ofCalls store calls) crew ∧
      ((ofCalls store calls).runTicks ticks).shared.store.catalog.Extends
        crew.shared.store.catalog) ⟨standing, .refl _⟩
      (fun _ _ both turn => ⟨both.1.turn turn, both.2.trans (both.1.creating.kept turn)⟩) late
    rw [runTicks_append]
    exact later.2
  case completes =>
    exact exists_completion (Store.not_isHeld_of_load loaded) calls ticks

/-! ## A race -/

/-- Two threads create the same table with different columns, and one of them inserts a row. -/
def raceCalls : List (List Call) :=
  [[.createTable "shop".toList "depot".toList ["a".toList]],
    [.createTable "shop".toList "depot".toList ["b".toList],
      .insert "shop".toList "depot".toList ["y".toList]]]

/-- Both creations are checked before the first one takes the catalog lock. -/
def raceTicks : List Tick :=
  [0, 1, 0, 1, 0, 0, 0, 0, 1, 1, 1, 1, 1, 1, 1, 1, 1, 1, 1].map .turn

/-- The two threads at the loaded store. -/
def raceCrew : Crew := ofCalls (Store.sampleStore Store.endedText) raceCalls

/-- The table that both threads create. -/
def raceRef : TableRef := ⟨"shop".toList, "depot".toList⟩

/-- The first creation wins, the second one finds a duplicate, and the row goes behind the header of
the first one. -/
theorem runTicks_creates_race :
    CreatesOnce raceCrew raceTicks ∧
      ((raceCrew.runTicks raceTicks).result? 1 0).bind error? =
        some (.store (.tableExists "depot".toList)) ∧
      ((raceCrew.runTicks raceTicks).result? 1 1).bind Except.toOption = some (.id 1) ∧
      ∃ table, (raceCrew.runTicks raceTicks).shared.store.catalog.tables.find? raceRef =
        some table ∧ table.schema = Schema.ofColumns ["a".toList] ∧
        (raceCrew.runTicks raceTicks).shared.store.storage.BeginsWith raceRef.path
          (Utf8.encode (Schema.ofColumns ["a".toList]).header) := by
  have creates : CreatesOnce raceCrew raceTicks :=
    runTicks_creates Store.load_endedText raceCalls raceTicks
  have first_returned : ((raceCrew.runTicks raceTicks).result? 0 0).bind Except.toOption =
      some (.created (.ofColumns "shop".toList "depot".toList ["a".toList])) := by
    decide +kernel
  obtain ⟨result, here, ok⟩ := Option.bind_eq_some_iff.1 first_returned
  rw [eq_ok_of_toOption ok] at here
  obtain ⟨-, wins⟩ := creates.success rfl rfl here
  obtain ⟨columns, table, call_here, found, -, schema_eq, begins⟩ := creates.table wins
  cases call_here
  exact ⟨creates, by decide +kernel, by decide +kernel, table, found, schema_eq, begins⟩

end Crew
end FlatStore
