import FlatStore.Proofs.Agreement
import FlatStore.Proofs.Reachable

/-!
# Runs

Sessions give lines in any order, and each line is executed before the next one.  A session whose
lines all select or fail is not noticed by the others: without its lines everyone else gets the same
results, and the same files and the same catalog are left behind.
-/

namespace FlatStore

/-- A line that a session gives. -/
structure Order where
  /-- Whether columns are strict for this line. -/
  strict : Bool
  number : Nat
  line : Text
deriving DecidableEq, Repr

/-- A line with what came of it. -/
structure Exchange where
  order : Order
  result : Except Failure Answer

namespace Exchange

/-- Whether the line failed, or selected a database or rows. -/
def isPassive (exchange : Exchange) : Bool :=
  match exchange.result, Plan.read exchange.order.line with
  | .error _, _ => true
  | .ok _, .ok plan => plan.verb = .use || plan.verb = .select
  | .ok _, .error _ => false

end Exchange

namespace Service

/-- Execute the line that a session gives. -/
def obey (service : Service) (order : Order) : Service × Except Failure Answer :=
  service.execute order.strict order.number order.line

/-- Execute lines one after the other, with what came of each. -/
def run (service : Service) : List Order → Service × List Exchange
  | [] => (service, [])
  | order :: rest =>
      let (between, result) := service.obey order
      let (after, exchanges) := between.run rest
      (after, ⟨order, result⟩ :: exchanges)

theorem run_cons (service : Service) (order : Order) (rest : List Order) :
    service.run (order :: rest) =
      (((service.obey order).1.run rest).1,
        ⟨order, (service.obey order).2⟩ :: ((service.obey order).1.run rest).2) := rfl

end Service

/-! ## Passive sessions -/

namespace Service

/-- The services agree, but for what one session has selected. -/
structure AgreesBeside (number : Nat) (left right : Service) : Prop where
  store : left.store.Agrees right.store
  selected : ∀ other, other ≠ number → left.selected other = right.selected other

variable {left right : Service} {number : Nat} {order : Order}

/-- A line brings no trouble where there is none. -/
theorem troubles_obey {service : Service} (spared : service.store.storage.troubles = .none)
    (order : Order) : (service.obey order).1.store.storage.troubles = .none :=
  (Store.execute_effect service.store order.strict (service.session order.number)
    order.line).troubles_eq_none spared

/-- A passive line leaves files and catalog as they are, if nothing goes wrong. -/
theorem agrees_of_isPassive {service : Service} (spared : service.store.storage.troubles = .none)
    (passive : Exchange.isPassive ⟨order, (service.obey order).2⟩ = true) :
    (service.obey order).1.store.Agrees service.store := by
  have no_more := troubles_obey spared order
  have effect : Store.Effect _ order.line service.store (service.obey order).1.store
    (service.obey order).2 := Store.execute_effect ..
  generalize (service.obey order).2 = result at effect passive
  cases effect with
  | nothing spends catalog quiet =>
      refine ⟨?_, catalog⟩
      rw [spends.same, no_more, ← spared]
  | database read | table read | row read =>
      rw [Exchange.isPassive, read] at passive
      cases passive
  | stranded loses =>
      have full := loses.full
      rw [spared] at full
      exact absurd rfl full

/-- A line of another session has the same result in both services. -/
theorem AgreesBeside.obey (agrees : AgreesBeside number left right)
    (apart : order.number ≠ number) :
    (left.obey order).2 = (right.obey order).2 ∧
      AgreesBeside number (left.obey order).1 (right.obey order).1 := by
  have session : right.session order.number = left.session order.number := by
    rw [Service.session, ← agrees.selected order.number apart]
    rfl
  have alike := agrees.store.execute order.strict (left.session order.number) order.line
  rw [Service.obey, Service.obey]
  refine ⟨?_, ?_, fun other beside => ?_⟩
  · rw [Service.execute, Service.execute, session]
    exact alike.result
  · rw [Service.execute, Service.execute, session]
    exact alike.store
  · rw [selected_execute, selected_execute, session, ← alike.session]
    by_cases same : other = order.number
    · rw [same, Function.update_self, Function.update_self]
    · rw [Function.update_of_ne same, Function.update_of_ne same, agrees.selected other beside]

/-- A passive line of the session is not noticed. -/
theorem AgreesBeside.skip (agrees : AgreesBeside number left right) (own : order.number = number)
    (spared : left.store.storage.troubles = .none)
    (passive : Exchange.isPassive ⟨order, (left.obey order).2⟩ = true) :
    AgreesBeside number (left.obey order).1 right where
  store :=
    let kept := agrees_of_isPassive spared passive
    ⟨kept.storage.trans agrees.store.storage, kept.catalog.trans agrees.store.catalog⟩
  selected other beside := by
    rw [Service.obey, selected_execute, own, Function.update_of_ne beside,
      agrees.selected other beside]

/-- Without the lines of a passive session the others get the same results. -/
theorem AgreesBeside.run (agrees : AgreesBeside number left right) {orders : List Order}
    (spared : left.store.storage.troubles = .none)
    (passive : ∀ exchange ∈ (left.run orders).2, exchange.order.number = number →
      exchange.isPassive = true) :
    (right.run (orders.filter (·.number ≠ number))).2 =
        (left.run orders).2.filter (·.order.number ≠ number) ∧
      AgreesBeside number (left.run orders).1
        (right.run (orders.filter (·.number ≠ number))).1 := by
  induction orders generalizing left right with
  | nil => exact ⟨rfl, agrees⟩
  | cons order rest ih =>
      rw [run_cons, List.forall_mem_cons] at passive
      have no_more : (left.obey order).1.store.storage.troubles = .none :=
        troubles_obey spared order
      rw [run_cons]
      by_cases own : order.number = number
      · obtain ⟨results, after⟩ := ih (agrees.skip own spared (passive.1 own)) no_more passive.2
        rw [List.filter_cons_of_neg (by simp [own]), List.filter_cons_of_neg (by simp [own])]
        exact ⟨results, after⟩
      · obtain ⟨result, between⟩ := agrees.obey own
        obtain ⟨results, after⟩ := ih between no_more passive.2
        rw [List.filter_cons_of_pos (by simp [own]), List.filter_cons_of_pos (by simp [own]),
          run_cons, ← result, results]
        exact ⟨rfl, after⟩

/-- The lines of a session that only selects or fails can be left out of a run, if nothing goes
wrong with files: every other session gets the same results and has selected the same database in
the end, and the files and the catalog are the same. -/
theorem run_without_passive {service : Service} {orders : List Order} {number : Nat}
    (spared : service.store.storage.troubles = .none)
    (passive : ∀ exchange ∈ (service.run orders).2, exchange.order.number = number →
      exchange.isPassive = true) :
    let whole := service.run orders
    let without := service.run (orders.filter (·.number ≠ number))
    without.2 = whole.2.filter (·.order.number ≠ number) ∧
      without.1.store.storage = whole.1.store.storage ∧
      without.1.store.catalog = whole.1.store.catalog ∧
      ∀ other, other ≠ number → without.1.selected other = whole.1.selected other := by
  have same : AgreesBeside number service service := ⟨⟨rfl, rfl⟩, fun _ _ => rfl⟩
  obtain ⟨results, after⟩ := same.run spared passive
  exact ⟨results, after.store.storage.symm, after.store.catalog.symm,
    fun other beside => (after.selected other beside).symm⟩

/-- The second session reads and fails between the lines of the first one. -/
def watchedOrders : List Order :=
  [⟨false, 2, "USE shop".toList⟩, ⟨false, 1, "CREATE DATABASE shop".toList⟩,
    ⟨false, 2, "CREATE DATABASE shop".toList⟩, ⟨false, 2, "USE shop".toList⟩,
    ⟨false, 1, "USE shop".toList⟩, ⟨false, 2, "CREATE TABLE a/b (a)".toList⟩,
    ⟨false, 1, "CREATE TABLE stock (a)".toList⟩,
    ⟨false, 2, "INSERT INTO stock VALUES (x, y)".toList⟩,
    ⟨true, 2, "SELECT b FROM stock".toList⟩, ⟨false, 2, "SELECT * FROM stock".toList⟩,
    ⟨false, 1, "INSERT INTO stock VALUES (z)".toList⟩]

/-- The second session selects the database and reads the empty table; everything else that it tries
fails, and the row of the first session is numbered as if there was no second one. -/
theorem run_without_passive_watched :
    let whole := (ofStore Store.emptyStore).run watchedOrders
    let without := (ofStore Store.emptyStore).run (watchedOrders.filter (·.number ≠ 2))
    ((whole.2.filter (·.order.number = 2)).filterMap (·.result.toOption) =
        [.selected "shop".toList, .read ["id".toList, "a".toList] []]) ∧
      (without.2.filterMap (·.result.toOption)).getLast? = some (.inserted "stock".toList 1) ∧
      without.2 = whole.2.filter (·.order.number ≠ 2) ∧
      without.1.store.storage = whole.1.store.storage ∧
      without.1.store.catalog = whole.1.store.catalog ∧
      ∀ other, other ≠ 2 → without.1.selected other = whole.1.selected other := by
  have spared : (ofStore Store.emptyStore).store.storage.troubles = .none := by decide +kernel
  have passive : ∀ exchange ∈ ((ofStore Store.emptyStore).run watchedOrders).2,
      exchange.order.number = 2 → exchange.isPassive = true := by
    decide +kernel
  exact ⟨by decide +kernel, by decide +kernel, run_without_passive spared passive⟩

end Service
end FlatStore
