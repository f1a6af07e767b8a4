import FlatStore.Proofs.Figures
import FlatStore.Proofs.IdentityLimit
import FlatStore.Proofs.Locality
import FlatStore.Proofs.Runs
import Mathlib.Algebra.GroupWithZero.Nat

/-!
# Accounts of runs

Over a run every figure grows by what the single lines are due, so the figures fit together: as many
durations as successes, as many rows as were shown, as many spans as lines that were read.  The one
line that has no part in this is an insert that meets the digit limit: its failure is no error of
the store, so no ending is counted, although its span is finished.
-/

namespace FlatStore

/-! ## Failures that are not counted -/

theorem Status.of?_map {α β : Type} (change : α → β) (found : Except Failure α) :
    Status.of? (found.map change) = Status.of? found := by
  rcases found with (_ | _ | _ | _) | _ <;> rfl

theorem Status.of?_mapError_store {α : Type} (found : Except StoreError α) :
    Status.of? (found.mapError .store) ≠ none := by
  cases found with
  | error error => exact Option.some_ne_none _
  | ok value => exact Option.some_ne_none _

/-- An append is not refused by an error of the store only if the identity has too many digits. -/
theorem Storage.status_appendRow {storage : Storage} {path : Path} (id : Int) (values : List Text)
    (no_null : path.any (·.contains '\x00') = false) :
    Status.of? (storage.appendRow path id values).2 = none ↔
      storage.troubles.failingAppends = 0 ∧ Numeral.isWritable id = false := by
  rw [appendRow]
  split
  · rename_i left failing
    simp [Status.of?, failing]
  · rename_i unhurt
    rw [rowLine?, no_null]
    cases written : Numeral.write? id with
    | none => simp [Status.of?, unhurt, Numeral.write?_eq_none_iff.1 written]
    | some numeral =>
        have writable := (Numeral.write?_eq_some_iff.1 written).1
        dsimp only [Option.map_some]
        rw [if_neg Bool.false_ne_true]
        split
        · simp [Status.of?, writable]
        · -- Whatever the disk does to the line is an error of the store.
          simp only [writable, Bool.true_eq_false, and_false, iff_false]
          exact Status.of?_mapError_store _

namespace Store

variable {store : Store} {database name : Text} {values : List Text}

/-- The files of registered tables have no null characters in their paths. -/
theorem Housed.no_null (housed : Housed store) {ref : TableRef} {table : Table}
    (registered : store.catalog.tables.find? ref = some table) :
    table.path.any (·.contains '\x00') = false := by
  obtain ⟨known, -, path_eq, content, found⟩ := housed.tables ref table registered
  have database := housed.isEntryName known
  have file : IsEntryName ref.fileName :=
    housed.rooted.names ref.home (by rw [found]; rfl) _ (by simp [TableRef.home])
  obtain ⟨-, -, -, -, no_null⟩ := database
  obtain ⟨-, -, -, -, no_null_too⟩ := file
  rw [path_eq, TableRef.path]
  simp [no_null, no_null_too]

/-- An insert into a table with an identity that has too many digits, if it gets so far. -/
theorem status_runInsert (housed : Housed store) :
    Status.of? (Plan.runInsert store database name values).2 = none ↔
      ∃ table, store.catalog.resolve database name = .ok table ∧
        values.length = table.schema.valueColumns.length ∧
        store.storage.troubles.failingAppends = 0 ∧
        Numeral.isWritable table.allocator.next = false := by
  rw [Plan.runInsert]
  cases resolved : store.catalog.resolve database name with
  | error error => simp [Status.of?]
  | ok table =>
      have registered := (Catalog.resolve_eq_ok_iff.1 resolved).2
      obtain ⟨-, ref_eq, -, -⟩ := housed.tables _ table registered
      have next : store.allocatorOf table = table.allocator :=
        allocatorOf_of_find? (by rw [ref_eq]; exact registered)
      dsimp only
      split
      · rename_i fits
        have inserted : (store.insert database name values).2 =
            (store.storage.appendRow table.path table.allocator.next values).2.map fun _ =>
              table.allocator.next := by
          rw [insert_snd, resolved, ← next]
          rfl
        rw [Status.of?_map, inserted, Status.of?_map,
          Storage.status_appendRow _ _ (housed.no_null registered)]
        simp [fits]
      · rename_i unfit
        simp [Status.of?, unfit]

end Store

namespace Service

variable {service : Service} {order : Order}

theorem housed_obey (housed : service.store.Housed) : (service.obey order).1.store.Housed :=
  ((Store.execute_effect service.store order.strict (service.session order.number)
    order.line).housed_grown housed).1

/-- The line gives a row for a known table, the append is not made to fail, and the identity that is
due has too many digits to be written. -/
def MeetsLimit (service : Service) (order : Order) : Prop :=
  ∃ database name values table, Plan.read order.line = .ok (.insert name values) ∧
    service.selected order.number = some database ∧
    service.store.catalog.resolve database name = .ok table ∧
    values.length = table.schema.valueColumns.length ∧
    service.store.storage.troubles.failingAppends = 0 ∧
    Numeral.isWritable table.allocator.next = false

/-- Every line succeeds or fails with an error of the store, unless it meets the limit. -/
theorem status_obey (housed : service.store.Housed) :
    Status.of? (service.obey order).2 = none ↔ service.MeetsLimit order := by
  have result : (service.obey order).2 =
      (service.store.execute order.strict (service.session order.number) order.line).result := rfl
  rw [result, Store.execute, MeetsLimit]
  cases read : Plan.read order.line with
  | error error => simp [Status.of?]
  | ok plan =>
      dsimp only
      constructor
      · intro uncounted
        rcases run : (plan.run order.strict service.store (service.session order.number)).result
          with failure | answer
        · rw [run] at uncounted
          cases Plan.fails_of_run run with
          | @insert database name values after _ selected failed =>
              have limit : Status.of? (Plan.runInsert service.store database name values).2 =
                  none := by
                rw [failed]
                exact uncounted
              obtain ⟨table, meets⟩ := (Store.status_runInsert housed).1 limit
              exact ⟨database, name, values, table, rfl, selected, meets⟩
          | _ => cases uncounted
        · rw [run] at uncounted
          cases uncounted
      · rintro ⟨database, name, values, table, same, selected, meets⟩
        cases same
        have run : ((Plan.insert name values).run order.strict service.store
            (service.session order.number)).result =
              (Plan.runInsert service.store database name values).2 := by
          rw [session, selected]
          rfl
        rw [run]
        exact (Store.status_runInsert housed).2 ⟨table, meets⟩

/-! ## Counting each line -/

/-- What a line adds to a figure. -/
theorem figure_obey (service : Service) (order : Order) (figure : Figure) :
    (service.obey order).1.store.figure figure =
      service.store.figure figure + figure.due (Verb.ofLine order.line) (service.obey order).2 :=
  Store.figure_execute ..

/-- The line succeeds or fails with an error of the store, and exactly one number of endings grows
by one: that of its verb with its status. -/
def CountedOnce (service : Service) (order : Order) : Prop :=
  ∃ status, Status.of? (service.obey order).2 = some status ∧
    ∀ label, (service.obey order).1.store.telemetry.metrics.commands.count label =
      service.store.telemetry.metrics.commands.count label +
        if label = (Verb.ofLine order.line, status) then 1 else 0

theorem countedOnce_iff :
    service.CountedOnce order ↔ (Status.of? (service.obey order).2).isSome = true := by
  constructor
  · rintro ⟨status, counted, -⟩
    rw [counted]
    rfl
  · intro counted
    obtain ⟨status, counted⟩ := Option.isSome_iff_exists.1 counted
    refine ⟨status, counted, fun ⟨verb, other⟩ => ?_⟩
    have grown := service.figure_obey order (.commands verb other)
    rw [Figure.due, counted] at grown
    simpa [Store.figure, eq_comm] using grown

/-- A property of each line of a run in the service that it is given to. -/
def Throughout (holds : Service → Order → Prop) (service : Service) : List Order → Prop
  | [] => True
  | order :: rest => holds service order ∧ Throughout holds (service.obey order).1 rest

/-- Every line of a run is counted once unless it meets the limit. -/
theorem throughout_countedOnce_iff (housed : service.store.Housed) (orders : List Order) :
    service.Throughout CountedOnce orders ↔
      service.Throughout (fun service order => ¬service.MeetsLimit order) orders := by
  induction orders generalizing service with
  | nil => rfl
  | cons order rest ih =>
      rw [Throughout, Throughout, ih (housed_obey housed), countedOnce_iff, ← status_obey housed,
        Option.isSome_iff_ne_none]

/-- The lines of a run are counted once if their results are counted. -/
theorem throughout_countedOnce_iff_isSome {orders : List Order} :
    service.Throughout CountedOnce orders ↔
      ∀ exchange ∈ (service.run orders).2, (Status.of? exchange.result).isSome = true := by
  induction orders generalizing service with
  | nil => exact iff_of_true trivial nofun
  | cons order rest ih =>
      rw [Throughout, run_cons, List.forall_mem_cons, countedOnce_iff, ih]

end Service

/-! ## Whole runs -/

namespace Exchange

variable (exchange : Exchange)

/-- The verb that the line is counted under. -/
def verb : Verb := Verb.ofLine exchange.order.line

/-- What a line adds to a figure. -/
def due (figure : Figure) : Nat := figure.due exchange.verb exchange.result

theorem due_latencies (verb : Verb) :
    exchange.due (.latencies verb) = exchange.due (.commands verb .ok) := by
  simp only [due, Figure.due, Status.of?_eq_ok_iff]

theorem due_rowsInserted : exchange.due .rowsInserted = exchange.due (.commands .insert .ok) := by
  simp only [due, Figure.due, Status.of?_eq_ok_iff]

/-- A line that is read finishes a span, as it ends. -/
theorem due_spans_ok {verb : Verb} (valid : verb ≠ .invalid) :
    exchange.due (.spans verb false) = exchange.due (.commands verb .ok) := by
  simp only [due, Figure.due, Status.of?_eq_ok_iff, ne_eq, valid, not_false_eq_true, true_and,
    Bool.not_false]

theorem due_spans_error {verb : Verb} (valid : verb ≠ .invalid)
    (counted : (Status.of? exchange.result).isSome = true) :
    exchange.due (.spans verb true) = exchange.due (.commands verb .error) := by
  simp only [due, Figure.due, Status.of?_eq_error_iff counted, ne_eq, valid, not_false_eq_true,
    true_and, Bool.not_true]

end Exchange

/-- What is counted and traced about a run fits the results of its lines. -/
structure Telemetry.Fits (telemetry : Telemetry) (exchanges : List Exchange) : Prop where
  latencies : ∀ verb,
    telemetry.metrics.latencies.count verb = telemetry.metrics.commands.count (verb, .ok)
  inserted : telemetry.metrics.rowsInserted = telemetry.metrics.commands.count (.insert, .ok)
  returned : telemetry.metrics.rowsReturned =
    (exchanges.map fun exchange => rowsIn exchange.result).sum
  /-- Lines that are no commands have no spans. -/
  spans : ∀ verb, verb ≠ .invalid → telemetry.spans.countP (fun span => span.verb = verb) =
    telemetry.metrics.commands.count (verb, .ok) + telemetry.metrics.commands.count (verb, .error)
  failed : ∀ verb, verb ≠ .invalid →
    telemetry.spans.countP (fun span => span.verb = verb && span.failed = true) =
      telemetry.metrics.commands.count (verb, .error)

theorem Store.countP_spans (store : Store) (verb : Verb) :
    store.telemetry.spans.countP (fun span => span.verb = verb) =
      store.figure (.spans verb false) + store.figure (.spans verb true) := by
  rw [Store.figure, Store.figure]
  induction store.telemetry.spans with
  | nil => rfl
  | cons span rest ih =>
      rw [List.countP_cons, List.countP_cons, List.countP_cons, ih]
      by_cases same : span.verb = verb <;> cases failed : span.failed <;> simp [same] <;> omega

namespace Service

variable {service : Service}

/-- A figure has grown by what each line adds. -/
theorem figure_run (orders : List Order) (figure : Figure) :
    (service.run orders).1.store.figure figure =
      service.store.figure figure + ((service.run orders).2.map (·.due figure)).sum := by
  induction orders generalizing service with
  | nil => rfl
  | cons order rest ih =>
      rw [run_cons, ih, figure_obey, List.map_cons, List.sum_cons, Nat.add_assoc]
      rfl

/-- Every line of a run is accounted for. -/
structure Accounted (service : Service) (orders : List Order) : Prop where
  once : service.Throughout CountedOnce orders
  fits : (service.run orders).1.store.telemetry.Fits (service.run orders).2

/-- If nothing was counted before and each line is counted once, everything fits. -/
theorem fits_of_throughout {orders : List Order}
    (zero : ∀ figure, service.store.figure figure = 0)
    (once : service.Throughout CountedOnce orders) :
    (service.run orders).1.store.telemetry.Fits (service.run orders).2 := by
  have total (figure : Figure) : (service.run orders).1.store.figure figure =
      ((service.run orders).2.map (·.due figure)).sum := by
    rw [figure_run, zero, Nat.zero_add]
  have same {left right : Figure}
      (due : ∀ exchange ∈ (service.run orders).2, exchange.due left = exchange.due right) :
      (service.run orders).1.store.figure left = (service.run orders).1.store.figure right := by
    rw [total, total, List.map_congr_left due]
  have counted := throughout_countedOnce_iff_isSome.1 once
  have failed {verb : Verb} (valid : verb ≠ .invalid) :=
    same fun exchange member => exchange.due_spans_error valid (counted exchange member)
  refine ⟨fun verb => same fun exchange _ => exchange.due_latencies verb,
    same fun exchange _ => exchange.due_rowsInserted, total .rowsReturned, fun verb valid => ?_,
    fun verb => failed⟩
  rw [Store.countP_spans, failed valid, same fun exchange _ => exchange.due_spans_ok valid]
  rfl

/-- Nothing is counted about commands when a store was just loaded. -/
theorem figure_zero {storage : Storage} {store : Store}
    (loaded : (Store.ofStorage storage).load = .ok store) (figure : Figure) :
    store.figure figure = 0 := by
  rw [Store.figure_load figure loaded]
  cases figure <;> rfl

/-- Whatever lines are given to a store that was loaded, every line is accounted for exactly if none
of them meets the limit. -/
theorem accounted_iff {storage : Storage} {store : Store} (rooted : storage.tree.Rooted)
    (loaded : (Store.ofStorage storage).load = .ok store) (orders : List Order) :
    (ofStore store).Accounted orders ↔
      (ofStore store).Throughout (fun service order => ¬service.MeetsLimit order) orders := by
  rw [← throughout_countedOnce_iff (Store.housed_of_load rooted loaded)]
  exact ⟨fun accounted => accounted.once,
    fun once => ⟨once, fits_of_throughout (figure_zero loaded) once⟩⟩

/-- The database of a sample is selected. -/
def usingOrder : Order := ⟨false, 1, "USE shop".toList⟩

/-- A row is inserted into the table of a sample. -/
def insertingOrder : Order := ⟨false, 1, "INSERT INTO stock VALUES (y)".toList⟩

/-- Lines of two sessions, one of them no command and one without a database. -/
def variedOrders : List Order :=
  [usingOrder, insertingOrder, ⟨false, 2, "DROP x".toList⟩,
    ⟨false, 2, "SELECT * FROM stock".toList⟩, ⟨false, 1, "SELECT a FROM stock".toList⟩]

/-- All lines are accounted for, those that fail, too. -/
theorem accounted_iff_varied :
    let store := Store.sampleStore Store.endedText
    let after := ((ofStore store).run variedOrders).1.store.telemetry
    (Store.sampleStorage Store.endedText).tree.Rooted ∧
      (Store.ofStorage (Store.sampleStorage Store.endedText)).load = .ok store ∧
      after.metrics.commands.entries = [((.use, .ok), 1), ((.insert, .ok), 1),
        ((.invalid, .error), 1), ((.select, .error), 1), ((.select, .ok), 1)] ∧
      after.metrics.rowsReturned = 2 ∧ (ofStore store).Accounted variedOrders := by
  have rooted : (Store.sampleStorage Store.endedText).tree.Rooted := (Store.onDisk_sample _).rooted
  have housed := Store.housed_of_load rooted Store.load_endedText
  have counted : ∀ exchange ∈ ((ofStore (Store.sampleStore Store.endedText)).run variedOrders).2,
      (Status.of? exchange.result).isSome = true := by
    decide +kernel
  have no_limit := (throughout_countedOnce_iff housed _).1
    (throughout_countedOnce_iff_isSome.2 counted)
  exact ⟨rooted, Store.load_endedText, by decide +kernel, by decide +kernel,
    (accounted_iff rooted Store.load_endedText _).2 no_limit⟩

section Limit

variable {text : Text} {table : Table}

/-- A row for the table of a sample meets the limit if its identity does. -/
theorem meetsLimit_sample (entry : (Store.sampleStorage text).table? Store.sampleRef = some table)
    (fits : table.schema.valueColumns.length = 1)
    (unwritable : Numeral.isWritable table.allocator.next = false) :
    let used := (ofStore (Store.sampleStore text)).obey usingOrder
    used.2 = .ok (.selected "shop".toList) ∧ used.1.MeetsLimit insertingOrder := by
  obtain ⟨-, loads, resolved⟩ := Store.load_sample_of_table? entry
  have known : (Store.sampleStore text).catalog.hasDatabase "shop".toList = true :=
    (Catalog.resolve_eq_ok_iff.1 resolved).1
  have read : Plan.read usingOrder.line = .ok (.use "shop".toList) :=
    eq_ok_of_toOption (by decide)
  dsimp only
  rw [obey, execute, Store.execute, read]
  simp only [Plan.run, ofStore, known, if_true]
  exact ⟨trivial, "shop".toList, "stock".toList, ["y".toList], table,
    eq_ok_of_toOption (by decide), rfl, resolved, fits.symm,
    congrArg (·.troubles.failingAppends) loads.storage, unwritable⟩

/-- An insert that meets the limit ends in a failure that is no error of the store: its span is
finished as failed, and no ending is counted. -/
theorem not_accounted_sample
    (entry : (Store.sampleStorage text).table? Store.sampleRef = some table)
    (fits : table.schema.valueColumns.length = 1)
    (unwritable : Numeral.isWritable table.allocator.next = false) :
    let service := ofStore (Store.sampleStore text)
    let after := (service.run [usingOrder, insertingOrder]).1.store
    (service.run [usingOrder, insertingOrder]).2.map (fun exchange => Status.of? exchange.result) =
        [some .ok, none] ∧
      (∀ status, after.figure (.commands .insert status) = 0) ∧
      after.figure (.spans .insert true) = 1 ∧ ¬service.Accounted [usingOrder, insertingOrder] := by
  obtain ⟨loaded, -, -⟩ := Store.load_sample_of_table? entry
  obtain ⟨used, limit⟩ := meetsLimit_sample entry fits unwritable
  have housed := Store.housed_of_load (Store.onDisk_sample text).rooted loaded
  have uncounted := (status_obey (housed_obey housed)).2 limit
  have zero (figure : Figure) : (ofStore (Store.sampleStore text)).store.figure figure = 0 :=
    figure_zero loaded figure
  have use_verb : Verb.ofLine usingOrder.line = .use := by decide
  have insert_verb : Verb.ofLine insertingOrder.line = .insert := by decide
  dsimp only
  refine ⟨?_, fun status => ?_, ?_, fun accounted => ?_⟩
  · rw [run_cons, run_cons, run, List.map_cons, List.map_cons, List.map_nil, used, uncounted]
    rfl
  · rw [figure_run, zero, run_cons, run_cons, run]
    simp [Exchange.due, Exchange.verb, Figure.due, use_verb, uncounted]
  · have failed :
        (((ofStore (Store.sampleStore text)).obey usingOrder).1.obey insertingOrder).2.isOk =
          false := by
      rw [← Bool.not_eq_true, ← Status.of?_eq_ok_iff, uncounted]
      exact (Option.some_ne_none _).symm
    rw [figure_run, zero, run_cons, run_cons, run]
    simp [Exchange.due, Exchange.verb, Figure.due, use_verb, insert_verb, failed]
  · exact ((throughout_countedOnce_iff housed _).1 accounted.once).2.1 limit

end Limit

/-- This happens behind the greatest identity. -/
theorem not_accounted_greatest :
    let service := ofStore (Store.sampleStore Store.greatestText)
    let after := (service.run [usingOrder, insertingOrder]).1.store
    (Store.ofStorage (Store.sampleStorage Store.greatestText)).load = .ok service.store ∧
      (service.run [usingOrder, insertingOrder]).2.map
        (fun exchange => Status.of? exchange.result) = [some .ok, none] ∧
      (∀ status, after.figure (.commands .insert status) = 0) ∧
      after.figure (.spans .insert true) = 1 ∧
      ¬service.Accounted [usingOrder, insertingOrder] :=
  ⟨(Store.load_sample_of_table? Store.table?_greatest).1,
    not_accounted_sample Store.table?_greatest rfl Store.isWritable_greatestTable⟩

end Service
end FlatStore
