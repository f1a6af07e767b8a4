import FlatStore.Proofs.Locality
import FlatStore.Proofs.Runs

/-!
# Commands that commute

Commands on different tables commute: whichever is executed first, each of them gives the same
result, and the same files, the same catalog and the same selections are left behind.  Neither
command looks at what the other one changes, so each leaves behind at its own table what it would
leave behind alone, and all else stays as it was.
-/

namespace FlatStore

namespace Store

variable {ref other : TableRef} {before after : Store}

theorem ChangesOnly.tableState (only : ChangesOnly ref before after) (apart : other ≠ ref) :
    after.tableState other = before.tableState other := by
  rw [Store.tableState, Store.tableState, only.entries other apart,
    only.nodes other.home fun same => apart (TableRef.home_injective same)]

/-- What changes at one table only is alike at every other one. -/
theorem ChangesOnly.alikeAt (only : ChangesOnly ref before after) (apart : other ≠ ref) :
    AlikeAt other after before where
  root := by rw [only.storage]
  node := only.nodes other.home fun same => apart (TableRef.home_injective same)
  known := by rw [Catalog.hasDatabase, Catalog.hasDatabase, only.databases]
  entry := only.entries other apart

end Store

namespace Service

variable {service left right : Service} {order first second : Order} {ref other : TableRef}

/-- The table that a line addresses, in the database that its session has selected. -/
def target? (service : Service) (order : Order) : Option TableRef :=
  match Plan.read order.line, service.selected order.number with
  | .ok plan, some database => plan.table?.map fun name => ⟨database, name⟩
  | _, _ => none

theorem target?_eq_some (target : service.target? order = some ref) :
    ∃ plan, Plan.read order.line = .ok plan ∧ plan.table? = some ref.table ∧
      service.selected order.number = some ref.database := by
  rw [target?] at target
  split at target
  · rename_i plan database read selected
    obtain ⟨name, addressed, rfl⟩ := Option.map_eq_some_iff.1 target
    exact ⟨plan, read, addressed, selected⟩
  · cases target

/-- A command on a table selects nothing. -/
theorem selected_obey_of_target (target : service.target? order = some ref) :
    (service.obey order).1.selected = service.selected := by
  obtain ⟨plan, read, addressed, -⟩ := target?_eq_some target
  have selects := Store.execute_selects service.store order.strict
    (service.session order.number) order.line
  rw [obey, selected_execute]
  rcases selects.database_eq with kept | ⟨name, read_too, -⟩
  · rw [kept]
    exact Function.update_eq_self ..
  · cases read.symm.trans read_too
    cases addressed

/-- A command on a table gives the same result in services that are alike at this table. -/
theorem obey_snd_congr (housed : left.store.Housed) (housed_too : right.store.Housed)
    (alike : Store.AlikeAt ref left.store right.store)
    (spared : left.store.storage.troubles = .none)
    (spared_too : right.store.storage.troubles = .none)
    (selections : left.selected = right.selected)
    (target : right.target? order = some ref) : (left.obey order).2 = (right.obey order).2 := by
  obtain ⟨plan, read, addressed, selected⟩ := target?_eq_some target
  have session : left.session order.number = right.session order.number := by
    rw [Service.session, Service.session, selections]
  change (left.store.execute _ (left.session order.number) order.line).result =
    (right.store.execute _ (right.session order.number) order.line).result
  rw [Store.execute, Store.execute, read, session]
  exact alike.run housed housed_too spared spared_too addressed selected order.strict

/-- What commands on different tables need in common: everything is housed and nothing is about to
go wrong. -/
structure Calm (service : Service) : Prop where
  housed : service.store.Housed
  spared : service.store.storage.troubles = .none

theorem Calm.grows_obey (calm : Calm service) (order : Order) :
    Store.Grows (service.session order.number) order.line service.store
      (service.obey order).1.store (service.obey order).2 :=
  (Store.execute_effect service.store order.strict (service.session order.number)
    order.line).grows calm.housed fun place task loses => loses.full (by rw [calm.spared]; rfl)

theorem Calm.obey (calm : Calm service) (order : Order) : Calm (service.obey order).1 where
  housed := (calm.grows_obey order).housed calm.housed
  spared := troubles_obey calm.spared order

/-- A command on a table changes nothing else. -/
theorem changesOnly_obey (calm : Calm service)
    (target : service.target? order = some ref) :
    Store.ChangesOnly ref service.store (service.obey order).1.store := by
  obtain ⟨plan, read, addressed, selected⟩ := target?_eq_some target
  have effect := Store.execute_effect service.store order.strict
    (service.session order.number) order.line
  exact ((calm.grows_obey order).confined effect.storage read addressed selected).1

/-- What a command leaves behind of its table follows from what was there and from its result. -/
theorem tableState_obey (calm : Calm service)
    (target : service.target? order = some ref) {plan : Plan}
    (read : Plan.read order.line = .ok plan) :
    (service.obey order).1.store.tableState ref =
      plan.leaves ref (service.obey order).2 (service.store.tableState ref) := by
  obtain ⟨found, read_too, addressed, selected⟩ := target?_eq_some target
  cases read.symm.trans read_too
  have effect := Store.execute_effect service.store order.strict
    (service.session order.number) order.line
  exact ((calm.grows_obey order).confined effect.storage read addressed selected).2

/-! ## Two commands -/

/-- The same files, the same entries in the catalog and the same selections. -/
structure SameState (left right : Service) : Prop where
  root : left.store.storage.root = right.store.storage.root
  troubles : left.store.storage.troubles = right.store.storage.troubles
  unlistable : left.store.storage.unlistable = right.store.storage.unlistable
  nodes : ∀ place, left.store.storage.tree.find? place = right.store.storage.tree.find? place
  databases : left.store.catalog.databases = right.store.catalog.databases
  entries : ∀ ref, left.store.catalog.tables.find? ref = right.store.catalog.tables.find? ref
  selected : left.selected = right.selected

/-- A line addresses the same table behind a command on a table. -/
theorem target?_obey (target : service.target? first = some ref) :
    (service.obey first).1.target? second = service.target? second := by
  rw [target?, selected_obey_of_target target]
  rfl

section
variable (calm : Calm service) (target : service.target? first = some ref)
  (target_too : service.target? second = some other)

include calm target target_too

/-- Beside the tables of the commands all stays as it was. -/
theorem beside_obey_obey :
    let after := ((service.obey first).1.obey second).1.store
    after.storage = { service.store.storage with
        tree := after.storage.tree, troubles := after.storage.troubles } ∧
      after.catalog.databases = service.store.catalog.databases ∧
      (∀ place, place ≠ ref.home → place ≠ other.home →
        after.storage.tree.find? place = service.store.storage.tree.find? place) ∧
      ∀ table, table ≠ ref → table ≠ other →
        after.catalog.tables.find? table = service.store.catalog.tables.find? table := by
  have early := changesOnly_obey calm target
  have late := changesOnly_obey (calm.obey first) ((target?_obey target).trans target_too)
  refine ⟨?_, late.databases.trans early.databases, fun place away away_too => ?_,
    fun table away away_too => ?_⟩
  · have between := early.storage
    have behind := late.storage
    rw [between] at behind
    exact behind
  · exact (late.nodes place away_too).trans (early.nodes place away)
  · exact (late.entries table away_too).trans (early.entries table away)

variable (apart : ref ≠ other)

include apart

/-- The later one of the commands gives the result that it would give alone. -/
theorem obey_snd_behind : ((service.obey first).1.obey second).2 = (service.obey second).2 := by
  have alike := (changesOnly_obey calm target).alikeAt (Ne.symm apart)
  exact obey_snd_congr (calm.obey first).housed calm.housed alike
    (calm.obey first).spared calm.spared (selected_obey_of_target target) target_too

/-- The later one of the commands leaves its table behind as it would do alone. -/
theorem tableState_obey_behind :
    ((service.obey first).1.obey second).1.store.tableState other =
      (service.obey second).1.store.tableState other := by
  obtain ⟨plan, read, -, -⟩ := target?_eq_some target_too
  rw [tableState_obey (calm.obey first) ((target?_obey target).trans target_too) read,
    tableState_obey calm target_too read, obey_snd_behind calm target target_too apart,
    (changesOnly_obey calm target).tableState (Ne.symm apart)]

/-- The earlier one of the commands has left its table behind as it does alone. -/
theorem tableState_obey_before :
    ((service.obey first).1.obey second).1.store.tableState ref =
      (service.obey first).1.store.tableState ref :=
  (changesOnly_obey (calm.obey first)
    ((target?_obey target).trans target_too)).tableState apart

/-- Either order of the commands leaves the tables behind alike. -/
theorem tableState_obey_obey (table : TableRef) (either : table = ref ∨ table = other) :
    ((service.obey first).1.obey second).1.store.tableState table =
      ((service.obey second).1.obey first).1.store.tableState table := by
  rcases either with rfl | rfl
  · rw [tableState_obey_before calm target target_too apart,
      tableState_obey_behind calm target_too target (Ne.symm apart)]
  · rw [tableState_obey_behind calm target target_too apart,
      tableState_obey_before calm target_too target (Ne.symm apart)]

/-- Either order of the commands leaves the same behind. -/
theorem sameState_obey_obey :
    SameState ((service.obey first).1.obey second).1 ((service.obey second).1.obey first).1 := by
  obtain ⟨storage, databases, nodes, entries⟩ := beside_obey_obey calm target target_too
  obtain ⟨storage_too, databases_too, nodes_too, entries_too⟩ :=
    beside_obey_obey calm target_too target
  have states := tableState_obey_obey calm target target_too apart
  refine ⟨by rw [storage, storage_too], ?_, by rw [storage, storage_too], fun place => ?_,
    databases.trans databases_too.symm, fun table => ?_, ?_⟩
  · rw [((calm.obey first).obey second).spared, ((calm.obey second).obey first).spared]
  · by_cases here : place = ref.home
    · exact here ▸ congrArg TableState.node (states ref (.inl rfl))
    · by_cases there : place = other.home
      · exact there ▸ congrArg TableState.node (states other (.inr rfl))
      · rw [nodes place here there, nodes_too place there here]
  · by_cases here : table = ref
    · exact here ▸ congrArg TableState.entry (states ref (.inl rfl))
    · by_cases there : table = other
      · exact there ▸ congrArg TableState.entry (states other (.inr rfl))
      · rw [entries table here there, entries_too table there here]
  · rw [selected_obey_of_target ((target?_obey target).trans target_too),
      selected_obey_of_target target,
      selected_obey_of_target ((target?_obey target_too).trans target),
      selected_obey_of_target target_too]

end

/-- In every state that lines lead to from a store that was loaded, when nothing is about to go
wrong with files, two lines that address different tables through what their sessions have selected
can be executed in either order: each of them gives the same result, and the same is left behind. -/
theorem obey_commutes {storage : Storage} {store : Store} (rooted : storage.tree.Rooted)
    (loaded : (Store.ofStorage storage).load = .ok store)
    (leads : Leads DiskFills (ofStore store) service)
    (spared : service.store.storage.troubles = .none)
    (target : service.target? first = some ref) (target_too : service.target? second = some other)
    (apart : ref ≠ other) :
    ((service.obey second).1.obey first).2 = (service.obey first).2 ∧
      ((service.obey first).1.obey second).2 = (service.obey second).2 ∧
      SameState ((service.obey first).1.obey second).1
        ((service.obey second).1.obey first).1 := by
  have calm : Calm service :=
    ⟨(leads.housed_grown (Store.housed_of_load rooted loaded)).1, spared⟩
  exact ⟨obey_snd_behind calm target_too target (Ne.symm apart),
    obey_snd_behind calm target target_too apart, sameState_obey_obey calm target target_too apart⟩

/-- A database with a name that no line can give it, and a table in it. -/
def oldStorage : Storage :=
  ⟨"/data".toList,
    (Tree.bare.put (Place.root.child "shop.old".toList) .directory).put
      ((Place.root.child "shop.old".toList).child "stock.tsv".toList)
      (.file (Utf8.encode Store.endedText)),
    Troubles.none, Index.empty⟩

/-- The store that is loaded from it. -/
def oldStore : Store :=
  match (Store.ofStorage oldStorage).load with
  | .ok store => store
  | .error _ => Store.ofStorage oldStorage

/-- One session has selected this database, the other one a new database. -/
def pairedService : Service :=
  ((((ofStore oldStore).execute false 1 "USE shop.old".toList).1.execute false 2
    "CREATE DATABASE shop".toList).1.execute false 2 "USE shop".toList).1

/-- One session inserts a row, and the other one creates a table of the same name. -/
def pairedOrders : Order × Order :=
  (⟨false, 1, "INSERT INTO stock VALUES (y)".toList⟩,
    ⟨false, 2, "CREATE TABLE stock (b)".toList⟩)

/-- Tables of the same name in two databases are different tables. -/
theorem obey_commutes_paired :
    pairedService.target? pairedOrders.1 = some ⟨"shop.old".toList, "stock".toList⟩ ∧
      pairedService.target? pairedOrders.2 = some ⟨"shop".toList, "stock".toList⟩ ∧
      ((pairedService.obey pairedOrders.2).1.obey pairedOrders.1).2 =
        .ok (.inserted "stock".toList 2) ∧
      ((pairedService.obey pairedOrders.1).1.obey pairedOrders.2).2 =
        .ok (.tableCreated "stock".toList) ∧
      SameState ((pairedService.obey pairedOrders.1).1.obey pairedOrders.2).1
        ((pairedService.obey pairedOrders.2).1.obey pairedOrders.1).1 := by
  have rooted : oldStorage.tree.Rooted := by decide +kernel
  have loaded : (Store.ofStorage oldStorage).load = .ok oldStore := by
    obtain ⟨store, loaded⟩ : ∃ store, (Store.ofStorage oldStorage).load = .ok store :=
      exists_ok_of_isSome (by decide +kernel)
    rw [oldStore, loaded]
  have leads : Leads DiskFills (ofStore oldStore) pairedService :=
    .command (.command (.command .refl false 1 "USE shop.old".toList) false 2
      "CREATE DATABASE shop".toList) false 2 "USE shop".toList
  have spared : pairedService.store.storage.troubles = .none := by decide +kernel
  have target :
      pairedService.target? pairedOrders.1 = some ⟨"shop.old".toList, "stock".toList⟩ := by
    decide +kernel
  have target_too :
      pairedService.target? pairedOrders.2 = some ⟨"shop".toList, "stock".toList⟩ := by
    decide +kernel
  obtain ⟨first, second, same⟩ :=
    obey_commutes rooted loaded leads spared target target_too (by decide)
  have inserted : (pairedService.obey pairedOrders.1).2 = .ok (.inserted "stock".toList 2) :=
    eq_ok_of_toOption (by decide +kernel)
  have created : (pairedService.obey pairedOrders.2).2 = .ok (.tableCreated "stock".toList) :=
    eq_ok_of_toOption (by decide +kernel)
  exact ⟨target, target_too, first.trans inserted, second.trans created, same⟩

end Service
end FlatStore
