import FlatStore.Proofs.NumberedRows
import FlatStore.Proofs.RowCalls

/-!
# Inserts side by side

Any number of threads insert and scan, in any order of their steps, and any append may find the disk
full.  The books of a table say at every moment which rows stand in its file, which of them were
returned, and what the thread that has the table locked still owes: between the append and the
return the file is one row ahead of what was returned, and before the allocator is moved on, one row
ahead of the allocator.
-/

namespace FlatStore

/-! ## Rows that were returned -/

/-- The row that a call has put into a table if it returns the result. -/
def Call.row? (ref : TableRef) : Call → Except Failure Value → Option NumberedRow
  | .insert database name values, .ok (.id id) =>
      if ref = ⟨database, name⟩ then some ⟨id, values⟩ else none
  | _, _ => none

theorem Call.row?_error (ref : TableRef) (call : Call) (failure : Failure) :
    call.row? ref (.error failure) = none := by
  cases call <;> rfl

namespace Thread

/-- The rows of a table that a thread with the given calls has been told of. -/
def returnedRows (ref : TableRef) (calls : List Call) (thread : Thread) : List NumberedRow :=
  (calls.zip thread.finishedResults).filterMap fun (call, result) => call.row? ref result

theorem returnedRows_eq {ref : TableRef} {calls done pending : List Call} {call : Call}
    {results : List (Except Failure Value)} (calls_eq : calls = done ++ call :: pending)
    (size : done.length = results.length) (stage : Stage) :
    returnedRows ref calls ⟨stage, pending, results⟩ =
      ((done.zip results).filterMap fun (call, result) => call.row? ref result) ++
        (stage.result?.bind (call.row? ref)).toList := by
  rw [returnedRows, finishedResults_eq, calls_eq, List.zip_append size, List.filterMap_append]
  cases stage.result? with
  | none => simp
  | some result => cases row : call.row? ref result <;> simp [row]

/-- A move adds the row that the present call returns. -/
theorem returnedRows_move {ref : TableRef} {calls done pending : List Call} {call : Call}
    {results : List (Except Failure Value)} (calls_eq : calls = done ++ call :: pending)
    (size : done.length = results.length) {shared after : Shared} {stage next : Stage}
    (move : stage.Move shared next after) :
    returnedRows ref calls ⟨next, pending, results⟩ =
      returnedRows ref calls ⟨stage, pending, results⟩ ++
        (next.result?.bind (call.row? ref)).toList := by
  rw [returnedRows_eq calls_eq size, returnedRows_eq calls_eq size, move.result?_eq_none]
  simp

end Thread

/-- What one of the paired lists adds is added to the whole. -/
theorem perm_flatMap_zip_set {α β γ : Type} (rows : α × β → List γ) {lefts : List α}
    {rights : List β} {position : Nat} {left : α} {right next : β} {added : List γ}
    (left_here : lefts[position]? = some left) (right_here : rights[position]? = some right)
    (grows : rows (left, next) = rows (left, right) ++ added) :
    ((lefts.zip (rights.set position next)).flatMap rows).Perm
      ((lefts.zip rights).flatMap rows ++ added) := by
  induction lefts generalizing rights position with
  | nil => cases left_here
  | cons first lefts ih =>
      cases rights with
      | nil => cases right_here
      | cons second rights =>
          cases position with
          | zero =>
              cases left_here
              cases right_here
              simp only [List.set_cons_zero, List.zip_cons_cons, List.flatMap_cons, grows,
                List.append_assoc]
              exact List.Perm.append_left _ List.perm_append_comm
          | succ position =>
              simp only [List.set_cons_succ, List.zip_cons_cons, List.flatMap_cons,
                List.append_assoc]
              exact List.Perm.append_left _ (ih left_here right_here)

/-- The rows of a table that all threads have been told of. -/
def Crew.returnedRows (start crew : Crew) (ref : TableRef) : List NumberedRow :=
  (start.threads.zip crew.threads).flatMap fun (first, thread) =>
    thread.returnedRows ref first.ahead

/-! ## A table and what is shared -/

/-- The file of a table has the content, and its next identity is the given one. -/
structure Shared.Holds (shared : Shared) (ref : TableRef) (content : Octets) (next : Int) :
    Prop where
  file : shared.store.storage.contentAt ref.path = .ok content
  entry : ∃ table, shared.store.catalog.tables.find? ref = some table ∧
    table.allocator.next = next

namespace Stage

variable {Known : TableRef → Prop} {call : Call} {shared after : Shared} {stage next : Stage}
  {ref : TableRef} {content : Octets} {current : Int}

/-- A move of a call that has not locked a table leaves the table alone. -/
theorem Move.holds_of_ne (move : Move shared stage next after) (serves : stage.Serves Known call)
    (clean : call.Clean) (apart : stage.locked? ≠ some ref)
    (holds : shared.Holds ref content current) : after.Holds ref content current := by
  cases move with
  | @refuseRow table values id storage failure refused =>
      cases serves with
      | numbered here =>
          have other : table.ref ≠ ref := fun same => apart (congrArg some same)
          rw [here.path_eq, ← here.ref_eq] at refused
          exact ⟨Storage.contentAt_appendRow_of_ne other holds.file refused, holds.entry⟩
  | @append table values id storage appended =>
      cases serves with
      | numbered here =>
          have other : table.ref ≠ ref := fun same => apart (congrArg some same)
          rw [here.path_eq, ← here.ref_eq] at appended
          exact ⟨Storage.contentAt_appendRow_of_ne other holds.file appended, holds.entry⟩
  | @advance table id store advanced =>
      have other : table.ref ≠ ref := fun same => apart (congrArg some same)
      rw [Store.advance] at advanced
      split at advanced
      · cases advanced
      · cases advanced
        refine ⟨holds.file, ?_⟩
        rw [Catalog.find?_setAllocator, if_neg other]
        exact holds.entry
  | nextId | enter | make | refuseMake => cases serves <;> cases clean
  | _ => exact ⟨holds.file, holds.entry⟩

/-- A call that has not locked a table returns no row of it. -/
theorem Move.row?_of_ne (move : Move shared stage next after) (serves : stage.Serves Known call)
    (apart : stage.locked? ≠ some ref) : next.result?.bind (call.row? ref) = none := by
  cases move with
  | refuseInsert | refuseDatabase | refuseTable | refuseScan | leaveFailed =>
      exact Call.row?_error ..
  | @leave table id =>
      cases serves with
      | leaving here =>
          refine if_neg fun same => apart ?_
          rw [same, ← here.ref_eq]
          rfl
  | nextId | resolve | read | closeFailed | close => cases serves <;> rfl
  | _ => rfl

/-! ## What a thread owes -/

/-- How far the insert of some values is: `due` is the first identity that was not returned,
`current` the current one, and `owed` what stands in the file and was not returned. -/
inductive Owes (values : List Text) (due : Int) : Stage → Int → List (List Text) → Prop
  | holding {table : Table} : Owes values due (.holding table values) due []
  /-- The insert has the identity that is due. -/
  | numbered {table : Table} : Owes values due (.numbered table values due) due []
  /-- The row stands in the file, and its identity is still current. -/
  | appended {table : Table} : Owes values due (.appended table due) due [values]
  /-- The row stands in the file, and its identity is used up. -/
  | advanced {table : Table} : Owes values due (.leaving table (.ok due)) (due + 1) [values]
  | refused {table : Table} {failure : Failure} :
      Owes values due (.leaving table (.error failure)) due []

/-- One row is owed at most, and the allocator is moved on for no other row. -/
theorem Owes.bounds {values : List Text} {due : Int} {owed : List (List Text)}
    (owes : Owes values due stage current owed) :
    owed.length ≤ 1 ∧ due ≤ current ∧ current ≤ due + (owed.length : Int) := by
  cases owes with
  | holding | numbered | refused => simp
  | appended | advanced =>
      simp only [List.length_singleton]
      omega

/-- What follows from a move of the call that has locked a table: it returns some rows, and goes on
with the lock or gives it back and owes nothing. -/
structure Settled (ref : TableRef) (call : Call) (values : List Text) (due : Int)
    (content : Octets) (next : Stage) (after : Shared) (returned owed : List (List Text))
    (current : Int) : Prop where
  rows : (next.result?.bind (call.row? ref)).toList = numberFrom due returned
  holds : after.Holds ref
    (content ++ Utf8.encode (linesOf (numberFrom due (returned ++ owed)))) current
  /-- There are no other rows. -/
  values_eq : ∀ other ∈ returned ++ owed, other = values
  /-- The insert goes on or is over. -/
  goes_on : next.locked? = some ref ∧ next.Owes values (due + returned.length) current owed ∨
    next.locked? ≠ some ref ∧ owed = [] ∧ current = due + returned.length

theorem next_allocatorOf {table : Table} (here : table.IsAt Known ref)
    (holds : shared.Holds ref content current) :
    (shared.store.allocatorOf table).next = current := by
  obtain ⟨entry, found, next_eq⟩ := holds.entry
  rw [← here.ref_eq] at found
  rw [Store.allocatorOf_of_find? found]
  exact next_eq

/-- A row is refused without a trace, or it is appended, counted and returned with the identity that
is due. -/
theorem Owes.move {database name : Text} {values : List Text} {due current : Int}
    {owed : List (List Text)} (owes : Owes values due stage current owed)
    (serves : stage.Serves Known (.insert database name values))
    (holds : shared.Holds ⟨database, name⟩
      (content ++ Utf8.encode (linesOf (numberFrom due owed))) current)
    (move : Move shared stage next after) :
    ∃ returned owed current, Settled ⟨database, name⟩ (.insert database name values) values due
      content next after returned owed current := by
  cases owes with
  | @holding table =>
      cases serves with
      | holding here =>
          cases move with
          | number =>
              refine ⟨[], [], due, ⟨rfl, holds, by simp, .inl ⟨congrArg some here.ref_eq, ?_⟩⟩⟩
              rw [next_allocatorOf here holds]
              simpa using Owes.numbered
  | @numbered table =>
      cases serves with
      | numbered here =>
          cases move with
          | @refuseRow _ _ _ storage failure refused =>
              refine ⟨[], [], due, ⟨rfl, ⟨?_, holds.entry⟩, by simp,
                .inl ⟨congrArg some here.ref_eq, ?_⟩⟩⟩
              · exact Storage.contentAt_of_appendRow_error refused holds.file
              · simpa using Owes.refused
          | append appended =>
              rw [here.path_eq] at appended
              have extended := Storage.contentAt_of_appendRow holds.file appended
              refine ⟨[], [values], due, ⟨rfl, ⟨?_, holds.entry⟩, by simp,
                .inl ⟨congrArg some here.ref_eq, ?_⟩⟩⟩
              · simpa [numberFrom, linesOf, rowCells] using extended
              · simpa using Owes.appended
  | @appended table =>
      cases serves with
      | appended here =>
          cases move with
          | refuseAdvance refused =>
              -- The lock keeps the identity of the row current.
              have current_ok := shared.store.advance_current table
              rw [next_allocatorOf here holds, refused] at current_ok
              cases current_ok
          | advance advanced =>
              have current_ok := shared.store.advance_current table
              rw [next_allocatorOf here holds, advanced] at current_ok
              cases current_ok
              refine ⟨[], [values], due + 1, ⟨rfl, ⟨holds.file, ?_⟩, by simp,
                .inl ⟨congrArg some here.ref_eq, ?_⟩⟩⟩
              · obtain ⟨entry, found, next_eq⟩ := holds.entry
                rw [Catalog.find?_setAllocator, if_pos here.ref_eq, here.ref_eq, found]
                refine ⟨_, rfl, ?_⟩
                rw [Allocator.next_step, next_allocatorOf here holds]
              · simpa using Owes.advanced
  | @advanced table =>
      cases serves with
      | leaving here =>
          cases move with
          | leave =>
              refine ⟨[values], [], due + 1, ⟨?_, ⟨holds.file, holds.entry⟩, by simp, .inr ?_⟩⟩
              · simp [result?, Call.row?, numberFrom]
              · exact ⟨(Option.some_ne_none _).symm, rfl, rfl⟩
  | @refused table failure =>
      cases serves with
      | leaving here =>
          cases move with
          | leaveFailed =>
              refine ⟨[], [], due, ⟨rfl, ⟨holds.file, holds.entry⟩, by simp, .inr ?_⟩⟩
              exact ⟨(Option.some_ne_none _).symm, rfl, by simp⟩

end Stage

/-! ## Books -/

namespace Crew

variable {Known : TableRef → Prop} {start before after : Crew} {ref : TableRef}
  {content : Octets} {first due current : Int} {written owed : List (List Text)}

/-- Whether some thread has locked a table, and what it owes. -/
inductive Balance (start crew : Crew) (ref : TableRef) (due : Int) : Int → List (List Text) → Prop
  | idle (nobody : ∀ thread, crew.locked? thread ≠ some ref) : Balance start crew ref due due []
  | busy {turn : Nat} {thread : Thread} {values : List Text} {current : Int}
      {owed : List (List Text)} (here : crew.threads[turn]? = some thread)
      (locked : thread.stage.locked? = some ref)
      (inserts : start.call? turn thread.results.length =
        some (.insert ref.database ref.table values))
      (owes : thread.stage.Owes values due current owed) : Balance start crew ref due current owed

/-- A thread that has not locked the table and does not lock it changes nothing of the balance. -/
theorem Balance.set (balance : Balance start before ref due current owed) {turn : Nat}
    {thread next : Thread} {shared : Shared} (here : before.threads[turn]? = some thread)
    (free : thread.stage.locked? ≠ some ref) (stays_free : next.stage.locked? ≠ some ref) :
    Balance start ⟨shared, before.threads.set turn next⟩ ref due current owed := by
  cases balance with
  | idle nobody =>
      refine .idle fun other => ?_
      rw [locked?_set here]
      split
      · exact stays_free
      · exact nobody other
  | @busy other holder values _ _ holder_here locked inserts owes =>
      have apart : other ≠ turn := by
        rintro rfl
        rw [here, Option.some.injEq] at holder_here
        subst holder_here
        exact free locked
      refine .busy ?_ locked inserts owes
      rw [getElem?_set_of_some here, if_neg apart]
      exact holder_here

theorem Balance.bounds (balance : Balance start before ref due current owed) :
    owed.length ≤ 1 ∧ due ≤ current ∧ current ≤ due + (owed.length : Int) := by
  cases balance with
  | idle nobody => simp
  | busy here locked inserts owes => exact owes.bounds

/-- The books of a table: the rows that were written and returned, and those that are owed. -/
structure Books (start crew : Crew) (ref : TableRef) (content : Octets) (first : Int)
    (written owed : List (List Text)) (current : Int) : Prop where
  holds : crew.shared.Holds ref
    (content ++ Utf8.encode (linesOf (numberFrom first (written ++ owed)))) current
  /-- The rows that were written are those that were returned. -/
  returned : (returnedRows start crew ref).Perm (numberFrom first written)
  cells : ∀ values ∈ written ++ owed, ∀ value ∈ values, IsCell value
  /-- The thread that has locked the table knows what is owed. -/
  balance : Balance start crew ref (first + written.length) current owed

theorem returnedRows_set {turn : Nat} {first_thread thread next : Thread} {shared : Shared}
    {added : List NumberedRow} (first_here : start.threads[turn]? = some first_thread)
    (here : before.threads[turn]? = some thread)
    (grows : next.returnedRows ref first_thread.ahead =
      thread.returnedRows ref first_thread.ahead ++ added) :
    (returnedRows start ⟨shared, before.threads.set turn next⟩ ref).Perm
      (returnedRows start before ref ++ added) :=
  perm_flatMap_zip_set _ first_here here grows

section Step

variable {turn : Nat} {stage next : Stage} {pending : List Call} {call : Call}
  {results : List (Except Failure Value)} {shared : Shared}

/-- The thread that has locked the table settles what it owes. -/
theorem Books.settle (books : Books start before ref content first written owed current)
    (exclusive : Exclusive before) (here : before.threads[turn]? = some ⟨stage, pending, results⟩)
    (present : start.call? turn results.length = some call) (serves : stage.Serves Known call)
    (clean : call.Clean) (locked : stage.locked? = some ref)
    (move : stage.Move before.shared next shared)
    (grows : (returnedRows start
        ⟨shared, before.threads.set turn ⟨next, pending, results⟩⟩ ref).Perm
      (returnedRows start before ref ++ (next.result?.bind (call.row? ref)).toList)) :
    ∃ written owed current, Books start
      ⟨shared, before.threads.set turn ⟨next, pending, results⟩⟩ ref content first written owed
      current := by
  obtain ⟨holds, returned, cells, balance⟩ := books
  have turn_locked : before.locked? turn = some ref := by
    rw [locked?, here, Option.bind_some, locked]
  cases balance with
  | idle nobody => exact absurd turn_locked (nobody turn)
  | @busy holder thread values _ _ holder_here holder_locked inserts owes =>
      have holder_turn : holder = turn := by
        refine exclusive.one holder turn ref ?_ turn_locked
        rw [locked?, holder_here, Option.bind_some, holder_locked]
      subst holder_turn
      rw [here, Option.some.injEq] at holder_here
      subst holder_here
      rw [present, Option.some.injEq] at inserts
      subst inserts
      rw [numberFrom_append, linesOf_append, Utf8.encode_append, ← List.append_assoc] at holds
      obtain ⟨more, rest, next_current, settled⟩ := owes.move serves holds move
      refine ⟨written ++ more, rest, next_current, ?_, ?_, ?_, ?_⟩
      · rw [List.append_assoc, numberFrom_append, linesOf_append, Utf8.encode_append,
          ← List.append_assoc]
        exact settled.holds
      · rw [numberFrom_append, ← settled.rows]
        exact grows.trans (returned.append_right _)
      · intro row member
        rw [List.append_assoc, List.mem_append] at member
        rcases member with early | late
        · exact cells row (List.mem_append_left _ early)
        · rw [settled.values_eq row late]
          cases clean with
          | insert values_clean => exact values_clean
      · have due_eq : first + ((written ++ more).length : Int) =
            first + (written.length : Int) + (more.length : Int) := by
          rw [List.length_append]
          omega
        rw [due_eq]
        rcases settled.goes_on with ⟨next_locked, next_owes⟩ | ⟨next_free, rfl, rfl⟩
        · exact .busy (getElem?_set_self_of_some here _) next_locked present next_owes
        · refine .idle fun other => ?_
          rw [locked?_set here]
          split
          · exact next_free
          · rename_i apart
            intro other_locked
            exact apart (exclusive.one other holder ref other_locked turn_locked)

/-- A thread that locks the table owes nothing yet. -/
theorem Balance.take (balance : Balance start before ref due current owed)
    (exclusive : Exclusive before) (here : before.threads[turn]? = some ⟨stage, pending, results⟩)
    (present : start.call? turn results.length = some call) (serves : stage.Serves Known call)
    (move : stage.Move before.shared next shared) (free : stage.locked? ≠ some ref)
    (locks : next.locked? = some ref) :
    Balance start ⟨shared, before.threads.set turn ⟨next, pending, results⟩⟩ ref due current
      owed := by
  obtain ⟨table, values, rfl, rfl, same, not_held⟩ := move.of_locks free locks
  cases serves with
  | waiting table_at =>
      cases balance with
      | idle nobody =>
          have ref_eq := table_at.ref_eq.symm.trans same
          subst ref_eq
          exact .busy (getElem?_set_self_of_some here _) locks present .holding
      | busy holder_here holder_locked _ _ =>
          rw [exclusive.held _ ref (by rw [locked?, holder_here, Option.bind_some, holder_locked])]
            at not_held
          cases not_held

end Step

/-- The books stay in order. -/
theorem Books.change (books : Books start before ref content first written owed current)
    (exclusive : Exclusive before) (follows : Follows Known start before)
    (clean : start.CleanCalls) (change : Change before after) :
    ∃ written owed current, Books start after ref content first written owed current := by
  obtain ⟨holds, returned, cells, balance⟩ := books
  cases change with
  | nothing => exact ⟨written, owed, current, holds, returned, cells, balance⟩
  | trouble =>
      refine ⟨written, owed, current, ⟨holds.file, holds.entry⟩, returned, cells, ?_⟩
      cases balance with
      | idle nobody => exact .idle nobody
      | busy here locked inserts owes => exact .busy here locked inserts owes
  | @thread turn thread next shared here move =>
      obtain ⟨first_thread, first_here, thread_follows⟩ := follows.threads turn thread here
      cases thread_follows with
      | @present done pending call stage results calls_eq size serves =>
          have call_clean : call.Clean :=
            clean first_thread (List.mem_of_getElem? first_here) call (by simp [calls_eq])
          have present : start.call? turn results.length = some call := by
            rw [call?, first_here, Option.bind_some, Thread.Follows.getElem? calls_eq size]
          cases move with
          | @call result following rest _ =>
              have same : (returnedRows start
                    ⟨before.shared, before.threads.set turn
                      ⟨.begun following, rest, results ++ [result]⟩⟩ ref).Perm
                  (returnedRows start before ref ++ []) :=
                returnedRows_set first_here here (List.append_nil _).symm
              rw [List.append_nil] at same
              exact ⟨written, owed, current, holds, same.trans returned, cells,
                balance.set here (Option.some_ne_none ref).symm (Option.some_ne_none ref).symm⟩
          | @stage _ next pending results _ move =>
              have grows : (returnedRows start
                    ⟨shared, before.threads.set turn ⟨next, pending, results⟩⟩ ref).Perm
                  (returnedRows start before ref ++ (next.result?.bind (call.row? ref)).toList) :=
                returnedRows_set first_here here (Thread.returnedRows_move calls_eq size move)
              by_cases locked : stage.locked? = some ref
              · exact Books.settle ⟨holds, returned, cells, balance⟩ exclusive here present serves
                  call_clean locked move grows
              · rw [move.row?_of_ne serves locked, Option.toList_none, List.append_nil] at grows
                refine ⟨written, owed, current, move.holds_of_ne serves call_clean locked holds,
                  grows.trans returned, cells, ?_⟩
                by_cases locks : next.locked? = some ref
                · exact balance.take exclusive here present serves move locked locks
                · exact balance.set here locked locks

/-- In every run the books stay in order. -/
theorem Books.runTicks (books : ∃ written owed current,
      Books start before ref content first written owed current)
    (exclusive : Exclusive before) (follows : Follows Known start before)
    (clean : start.CleanCalls) (ticks : List Tick) :
    ∃ written owed current,
      Books start (before.runTicks ticks) ref content first written owed current := by
  let InOrder (crew : Crew) : Prop :=
    Exclusive crew ∧ Follows Known start crew ∧
      ∃ written owed current, Books start crew ref content first written owed current
  have in_order : InOrder (before.runTicks ticks) := by
    refine @runTicks_induction InOrder before ⟨exclusive, follows, books⟩ ?_ ticks
    rintro before after ⟨exclusive, follows, written, owed, current, books⟩ change
    exact ⟨exclusive.change change, follows.change clean change,
      books.change exclusive follows clean change⟩
  exact in_order.2.2

end Crew
end FlatStore
