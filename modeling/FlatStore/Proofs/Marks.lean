import FlatStore.Proofs.ConcurrentCreates
import FlatStore.Proofs.Failing

/-!
# Marks

The mark of a call says which identity of a table it has got, and how.  A turn changes one mark at
most: an insert reads the current identity if no other insert has one that it has not yet used up,
but a call for the next identity takes the current one whoever has read it.
-/

namespace FlatStore

/-! ## Marks -/

/-- The identity of a table that a call has got, and how. -/
inductive Mark
  | none
  /-- An insert has read it and is to append its row. -/
  | held (id : Int)
  /-- An insert has appended its row and is to move the allocator on. -/
  | wrote (id : Int)
  /-- An insert has appended its row and moved the allocator on. -/
  | passed (id : Int)
  /-- An insert has appended its row and the allocator has refused to move on. -/
  | refused (id : Int)
  /-- A call for the next identity has returned it. -/
  | took (id : Int)
deriving DecidableEq, Repr

namespace Mark

/-- The identity that an insert has read before the allocator moves on. -/
def pending? : Mark → Option Int
  | .held id => some id
  | .wrote id => some id
  | _ => Option.none

/-- The identity of a row that an insert has appended. -/
def written? : Mark → Option Int
  | .wrote id => some id
  | .passed id => some id
  | .refused id => some id
  | _ => Option.none

variable {mark : Mark} {given id : Int}

theorem ne_none_of_pending (pending : mark.pending? = some given) : mark ≠ .none := by
  rintro rfl
  cases pending

theorem ne_took_of_pending (pending : mark.pending? = some given) : mark ≠ .took id := by
  rintro rfl
  cases pending

theorem ne_none_of_written (written : mark.written? = some given) : mark ≠ .none := by
  rintro rfl
  cases written

theorem ne_took_of_written (written : mark.written? = some given) : mark ≠ .took id := by
  rintro rfl
  cases written

end Mark

namespace Stage

/-- The mark of an insert. -/
def insertMark : Stage → Mark
  | .numbered _ _ id => .held id
  | .appended _ id => .wrote id
  | .leaving _ (.ok id) => .passed id
  | .leaving _ (.error (.misuse (.notCurrent id _))) => .refused id
  | .finished (.ok (.id id)) => .passed id
  | .finished (.error (.misuse (.notCurrent id _))) => .refused id
  | _ => .none

/-- The mark of a call for the next identity. -/
def takeMark : Stage → Mark
  | .finished (.ok (.id id)) => .took id
  | _ => .none

end Stage

namespace Stage

theorem takeMark_eq (stage : Stage) : stage.takeMark = .none ∨ ∃ id, stage.takeMark = .took id := by
  unfold takeMark
  split
  · exact .inr ⟨_, rfl⟩
  · exact .inl rfl

/-- An insert with an identity that is not used up is behind the reading or behind the append. -/
theorem of_pending_insertMark {stage : Stage} {id : Int}
    (pending : stage.insertMark.pending? = some id) :
    (∃ table values, stage = .numbered table values id) ∨ ∃ table, stage = .appended table id := by
  unfold insertMark at pending
  split at pending <;> cases pending
  · exact .inl ⟨_, _, rfl⟩
  · exact .inr ⟨_, rfl⟩

/-- An insert that has appended its row returns its identity, unless the allocator has refused. -/
theorem of_written_insertMark {result : Except Failure Value} {id : Int}
    (written : (insertMark (.finished result)).written? = some id) :
    result = .ok (.id id) ∨ insertMark (.finished result) = .refused id := by
  cases result with
  | ok value =>
      cases value with
      | id given =>
          cases written
          exact .inl rfl
      | _ => cases written
  | error failure =>
      cases failure with
      | misuse cause =>
          cases cause with
          | notCurrent given current =>
              cases written
              exact .inr rfl
          | startTooSmall => cases written
      | _ => cases written

end Stage

/-- The mark of a call at a stage, as far as a table is concerned. -/
def Call.mark (ref : TableRef) (call : Call) (stage : Stage) : Mark :=
  match call with
  | .insert database name _ => if ref = ⟨database, name⟩ then stage.insertMark else .none
  | .nextId database name => if ref = ⟨database, name⟩ then stage.takeMark else .none
  | _ => .none

namespace Call

variable {ref : TableRef} {database name : Text} {values : List Text} {stage : Stage}

theorem mark_insert :
    (insert database name values).mark ⟨database, name⟩ stage = stage.insertMark :=
  if_pos rfl

theorem mark_insert_of_ne (apart : ref ≠ ⟨database, name⟩) :
    (insert database name values).mark ref stage = .none :=
  if_neg apart

theorem mark_nextId : (nextId database name).mark ⟨database, name⟩ stage = stage.takeMark :=
  if_pos rfl

theorem mark_nextId_of_ne (apart : ref ≠ ⟨database, name⟩) :
    (nextId database name).mark ref stage = .none :=
  if_neg apart

theorem mark_begun (ref : TableRef) (call first : Call) : call.mark ref (.begun first) = .none := by
  cases call with
  | insert | nextId => exact ite_self _
  | _ => rfl

/-- What is marked and has taken nothing is an insert into the table. -/
theorem eq_insert_of_mark {call : Call} (marked : call.mark ref stage ≠ .none)
    (untaken : ∀ id, call.mark ref stage ≠ .took id) :
    ∃ values, call = .insert ref.database ref.table values ∧
      call.mark ref stage = stage.insertMark := by
  cases call with
  | insert database name values =>
      by_cases here : ref = ⟨database, name⟩
      · subst here
        exact ⟨values, rfl, mark_insert⟩
      · exact absurd (mark_insert_of_ne here) marked
  | nextId database name =>
      by_cases here : ref = ⟨database, name⟩
      · subst here
        rw [mark_nextId] at marked untaken
        rcases stage.takeMark_eq with unmarked | ⟨id, taken⟩
        · exact absurd unmarked marked
        · exact absurd taken (untaken id)
      · exact absurd (mark_nextId_of_ne here) marked
  | _ => exact absurd rfl marked

/-- Creations have no marks. -/
theorem mark_eq_of_creates {call : Call} {creation : Creation} {next : Stage}
    (creates : call.creation? = some creation) : call.mark ref next = call.mark ref stage := by
  cases call with
  | createDatabase | createTable => rfl
  | _ => cases creates

end Call

/-! ## Moves and marks -/

namespace Store

theorem advance_error {store : Store} {table : Table} {id : Int} {misuse : Misuse}
    (refused : store.advance table id = .error misuse) :
    id ≠ (store.allocatorOf table).next ∧
      misuse = .notCurrent id (store.allocatorOf table).next := by
  rw [advance, Allocator.advancePast] at refused
  by_cases current : id = (store.allocatorOf table).next
  · rw [if_pos current] at refused
    cases refused
  · rw [if_neg current] at refused
    cases refused
    exact ⟨current, rfl⟩

end Store

/-- An append is never refused by an allocator. -/
theorem Storage.ne_misuse_of_appendRow {storage after : Storage} {path : Path} {id : Int}
    {values : List Text} {failure : Failure}
    (refused : storage.appendRow path id values = (after, .error failure)) (cause : Misuse) :
    failure ≠ .misuse cause := by
  rcases appendRow_eq_error refused with ⟨trouble, rfl⟩ | rfl | rfl <;> nofun

namespace Shared.Holds

variable {shared : Shared} {ref : TableRef} {content : Octets} {current : Int}

/-- A step of another allocator is of no concern. -/
theorem setAllocator_of_ne (holds : shared.Holds ref content current) {other : TableRef}
    (apart : other ≠ ref) (allocator : Allocator) :
    Holds { shared with store.catalog := shared.store.catalog.setAllocator other allocator } ref
      content current where
  file := holds.file
  entry := by
    rw [Catalog.find?_setAllocator, if_neg apart]
    exact holds.entry

/-- A step of the allocator uses up the current identity. -/
theorem setAllocator (holds : shared.Holds ref content current) {allocator : Allocator}
    (steps : allocator.next = current + 1) :
    Holds { shared with store.catalog := shared.store.catalog.setAllocator ref allocator } ref
      content (current + 1) where
  file := holds.file
  entry := by
    obtain ⟨table, found, -⟩ := holds.entry
    rw [Catalog.find?_setAllocator, if_pos rfl, found]
    exact ⟨_, rfl, steps⟩

end Shared.Holds

/-- What a move does to the mark of its call, to the next identity of the table and to the rows in
its file. -/
inductive MarkMove (Locked : Prop) (next : Int) : Mark → Mark → Int → List NumberedRow → Prop
  | stay {mark : Mark} : MarkMove Locked next mark mark next []
  | take : MarkMove Locked next .none (.took next) (next + 1) []
  | read (locked : Locked) : MarkMove Locked next .none (.held next) next []
  | append {id : Int} {values : List Text} :
      MarkMove Locked next (.held id) (.wrote id) next [⟨id, values⟩]
  | drop {id : Int} : MarkMove Locked next (.held id) .none next []
  | advance : MarkMove Locked next (.wrote next) (.passed next) (next + 1) []
  | refuse {id : Int} (apart : id ≠ next) : MarkMove Locked next (.wrote id) (.refused id) next []

namespace MarkMove

variable {Locked Alone : Prop} {next now id : Int} {old new : Mark} {added : List NumberedRow}

theorem imp (moved : MarkMove Locked next old new now added)
    (alone : Locked → old = .none → Alone) : MarkMove Alone next old new now added := by
  cases moved with
  | stay => exact .stay
  | take => exact .take
  | read locked => exact .read (alone locked rfl)
  | append => exact .append
  | drop => exact .drop
  | advance => exact .advance
  | refuse apart => exact .refuse apart

/-- The next identity is used up by a call for it or by the insert that wrote it. -/
theorem next_or (moved : MarkMove Locked next old new now added) :
    now = next ∨ now = next + 1 ∧ (new = .took next ∨ old = .wrote next) := by
  cases moved with
  | take => exact .inr ⟨rfl, .inl rfl⟩
  | advance => exact .inr ⟨rfl, .inr rfl⟩
  | _ => exact .inl rfl

/-- What is taken stays taken. -/
theorem took (moved : MarkMove Locked next old new now added) (taken : old = .took id) :
    new = .took id := by
  cases moved with
  | stay => exact taken
  | _ => cases taken

theorem of_took (moved : MarkMove Locked next old new now added) (taken : new = .took id) :
    old = .took id ∨ old = .none ∧ id = next ∧ now = next + 1 := by
  cases moved with
  | stay => exact .inl taken
  | take =>
      cases taken
      exact .inr ⟨rfl, rfl, rfl⟩
  | _ => cases taken

theorem of_pending (moved : MarkMove Locked next old new now added)
    (pending : new.pending? = some id) :
    old.pending? = some id ∧ now = next ∨ Locked ∧ old = .none ∧ id = next ∧ now = next := by
  cases moved with
  | stay => exact .inl ⟨pending, rfl⟩
  | read locked =>
      cases pending
      exact .inr ⟨locked, rfl, rfl, rfl⟩
  | append => exact .inl ⟨pending, rfl⟩
  | _ => cases pending

theorem of_held (moved : MarkMove Locked next old new now added) (held : new = .held id) :
    (old = .held id ∨ Locked ∧ old = .none ∧ id = next) ∧ added = [] := by
  cases moved with
  | stay => exact ⟨.inl held, rfl⟩
  | read locked =>
      cases held
      exact ⟨.inr ⟨locked, rfl, rfl⟩, rfl⟩
  | _ => cases held

/-- The row of an insert stays written. -/
theorem written (moved : MarkMove Locked next old new now added)
    (written : old.written? = some id) : new.written? = some id ∧ added = [] := by
  cases moved with
  | stay => exact ⟨written, rfl⟩
  | advance => exact ⟨written, rfl⟩
  | refuse => exact ⟨written, rfl⟩
  | _ => cases written

theorem of_written (moved : MarkMove Locked next old new now added)
    (written : new.written? = some id) :
    old.written? = some id ∧ added = [] ∨
      old = .held id ∧ new = .wrote id ∧ ∃ values, added = [⟨id, values⟩] := by
  cases moved with
  | stay => exact .inl ⟨written, rfl⟩
  | @append _ values =>
      cases written
      exact .inr ⟨rfl, rfl, values, rfl⟩
  | advance => exact .inl ⟨written, rfl⟩
  | refuse => exact .inl ⟨written, rfl⟩
  | _ => cases written

/-- A row is added by the insert that holds its identity. -/
theorem of_mem_added (moved : MarkMove Locked next old new now added) {row : NumberedRow}
    (member : row ∈ added) : old = .held row.id ∧ new = .wrote row.id ∧ added = [row] := by
  cases moved with
  | append =>
      obtain rfl := List.mem_singleton.1 member
      exact ⟨rfl, rfl, rfl⟩
  | _ => cases member

theorem pairwise_added (moved : MarkMove Locked next old new now added) :
    (added.map NumberedRow.id).Pairwise (· < ·) := by
  cases moved with
  | append => exact List.pairwise_singleton ..
  | _ => exact List.Pairwise.nil

theorem of_passed (moved : MarkMove Locked next old new now added) (passed : new = .passed id) :
    old = .passed id ∨ old = .wrote id ∧ id = next ∧ now = next + 1 := by
  cases moved with
  | stay => exact .inl passed
  | advance =>
      cases passed
      exact .inr ⟨rfl, rfl, rfl⟩
  | _ => cases passed

theorem of_refused (moved : MarkMove Locked next old new now added) (refused : new = .refused id) :
    old = .refused id ∨ old = .wrote id ∧ id ≠ next ∧ now = next := by
  cases moved with
  | stay => exact .inl refused
  | refuse apart =>
      cases refused
      exact .inr ⟨rfl, apart, rfl⟩
  | _ => cases refused

end MarkMove

namespace Stage

variable {ref : TableRef} {call : Call} {shared after : Shared} {stage next : Stage}
  {content : Octets} {current : Int}

theorem insertMark_of_ne_misuse {table : Table} {failure : Failure}
    (plain : ∀ cause, failure ≠ .misuse cause) :
    insertMark (.leaving table (.error failure)) = .none := by
  cases failure with
  | misuse cause => exact absurd rfl (plain cause)
  | _ => rfl

/-- What a move does as far as a table is concerned. -/
structure Marks (ref : TableRef) (call : Call) (stage next : Stage) (after : Shared)
    (content : Octets) (current : Int) (added : List NumberedRow) (now : Int) : Prop where
  mark : MarkMove (stage.locked? = some ref) current (call.mark ref stage) (call.mark ref next) now
    added
  holds : after.Holds ref (content ++ Utf8.encode (linesOf added)) now
  /-- A row has the values of its call. -/
  rows : ∀ row ∈ added, call = .insert ref.database ref.table row.values

theorem Marks.of_same (mark : call.mark ref next = call.mark ref stage)
    (holds : after.Holds ref content current) :
    Marks ref call stage next after content current [] current where
  mark := by
    rw [mark]
    exact .stay
  holds := (List.append_nil content).symm ▸ holds
  rows := List.forall_mem_nil _

/-- A call for the next identity of a table. -/
theorem marks_nextId {database name : Text} {store : Store} {result : Except StoreError Int}
    (named : shared.store.catalog.Named) (holds : shared.Holds ref content current)
    (taken : shared.store.nextId database name = (store, result)) :
    ∃ added now, Marks ref (.nextId database name) (.begun (.nextId database name))
      (finish (result.map .id)) { shared with store } content current added now := by
  by_cases here : ref = ⟨database, name⟩
  · subst here
    obtain ⟨table, found, rfl⟩ := holds.entry
    rw [Store.nextId, found] at taken
    cases taken
    refine ⟨[], table.allocator.next + 1, ?_, ?_, List.forall_mem_nil _⟩
    · rw [Call.mark_nextId, Call.mark_nextId]
      exact .take
    · rw [(named _ table found).ref_eq]
      exact (List.append_nil content).symm ▸ holds.setAllocator rfl
  · refine ⟨[], current, .of_same ?_ ?_⟩
    · rw [Call.mark_nextId_of_ne here, Call.mark_nextId_of_ne here]
    · rw [Store.nextId] at taken
      split at taken
      · cases taken
        exact holds
      · rename_i table found
        cases taken
        refine holds.setAllocator_of_ne ?_ _
        rw [(named _ table found).ref_eq]
        exact Ne.symm here

/-- An insert that reads the current identity. -/
theorem marks_number {database name : Text} {values : List Text} {table : Table}
    (names : table.Names ⟨database, name⟩) (holds : shared.Holds ref content current) :
    ∃ added now, Marks ref (.insert database name values) (.holding table values)
      (.numbered table values (shared.store.allocatorOf table).next) shared content current added
      now := by
  refine ⟨[], current, ?_, (List.append_nil content).symm ▸ holds, List.forall_mem_nil _⟩
  by_cases here : ref = ⟨database, name⟩
  · subst here
    rw [Call.mark_insert, Call.mark_insert, next_allocatorOf names holds]
    exact .read (congrArg some names.ref_eq)
  · rw [Call.mark_insert_of_ne here, Call.mark_insert_of_ne here]
    exact .stay

/-- An insert that appends its row. -/
theorem marks_append {database name : Text} {values : List Text} {table : Table} {id : Int}
    {storage : Storage} (names : table.Names ⟨database, name⟩)
    (holds : shared.Holds ref content current)
    (appended : shared.store.storage.appendRow table.path id values = (storage, .ok ())) :
    ∃ added now, Marks ref (.insert database name values) (.numbered table values id)
      (.appended table id) { shared with store.storage := storage } content current added now := by
  rw [names.path_eq] at appended
  by_cases here : ref = ⟨database, name⟩
  · subst here
    refine ⟨[⟨id, values⟩], current, ?_, ?_, ?_⟩
    · rw [Call.mark_insert, Call.mark_insert]
      exact .append
    · refine ⟨(Storage.contentAt_of_appendRow holds.file appended).trans ?_, holds.entry⟩
      simp [linesOf, rowCells]
    · intro row member
      rw [List.mem_singleton.1 member]
  · refine ⟨[], current, .of_same ?_ ⟨?_, holds.entry⟩⟩
    · rw [Call.mark_insert_of_ne here, Call.mark_insert_of_ne here]
    · exact Storage.contentAt_appendRow_of_ne (Ne.symm here) holds.file appended

/-- An insert whose row can not be appended. -/
theorem marks_refuseRow {database name : Text} {values : List Text} {table : Table} {id : Int}
    {storage : Storage} {failure : Failure} (holds : shared.Holds ref content current)
    (refused : shared.store.storage.appendRow table.path id values = (storage, .error failure)) :
    ∃ added now, Marks ref (.insert database name values) (.numbered table values id)
      (.leaving table (.error failure)) { shared with store.storage := storage } content current
      added now := by
  refine ⟨[], current, ?_, ?_, List.forall_mem_nil _⟩
  · by_cases here : ref = ⟨database, name⟩
    · subst here
      rw [Call.mark_insert, Call.mark_insert,
        insertMark_of_ne_misuse (Storage.ne_misuse_of_appendRow refused)]
      exact .drop
    · rw [Call.mark_insert_of_ne here, Call.mark_insert_of_ne here]
      exact .stay
  · exact (List.append_nil content).symm ▸
      ⟨Storage.contentAt_of_appendRow_error refused holds.file, holds.entry⟩

/-- An insert that moves the allocator on. -/
theorem marks_advance {database name : Text} {values : List Text} {table : Table} {id : Int}
    {store : Store} (names : table.Names ⟨database, name⟩)
    (holds : shared.Holds ref content current)
    (advanced : shared.store.advance table id = .ok store) :
    ∃ added now, Marks ref (.insert database name values) (.appended table id)
      (.leaving table (.ok id)) { shared with store } content current added now := by
  obtain ⟨rfl, rfl⟩ := Store.advance_ok advanced
  by_cases here : ref = ⟨database, name⟩
  · subst here
    have current_eq := next_allocatorOf names holds
    refine ⟨[], current + 1, ?_, ?_, List.forall_mem_nil _⟩
    · rw [Call.mark_insert, Call.mark_insert, current_eq]
      exact .advance
    · rw [names.ref_eq]
      refine (List.append_nil content).symm ▸ holds.setAllocator ?_
      rw [Allocator.next_step, current_eq]
  · refine ⟨[], current, .of_same ?_ (holds.setAllocator_of_ne ?_ _)⟩
    · rw [Call.mark_insert_of_ne here, Call.mark_insert_of_ne here]
    · rw [names.ref_eq]
      exact Ne.symm here

/-- An insert whose identity the allocator does not take. -/
theorem marks_refuseAdvance {database name : Text} {values : List Text} {table : Table} {id : Int}
    {misuse : Misuse} (names : table.Names ⟨database, name⟩)
    (holds : shared.Holds ref content current)
    (refused : shared.store.advance table id = .error misuse) :
    ∃ added now, Marks ref (.insert database name values) (.appended table id)
      (.leaving table (.error (.misuse misuse))) shared content current added now := by
  refine ⟨[], current, ?_, (List.append_nil content).symm ▸ holds, List.forall_mem_nil _⟩
  by_cases here : ref = ⟨database, name⟩
  · subst here
    obtain ⟨apart, rfl⟩ := Store.advance_error refused
    rw [next_allocatorOf names holds] at apart
    rw [Call.mark_insert, Call.mark_insert]
    exact .refuse apart
  · rw [Call.mark_insert_of_ne here, Call.mark_insert_of_ne here]
    exact .stay

/-- Every move is one of these or of no concern to the table. -/
theorem Move.marks (move : Move shared stage next after) (suits : stage.Suits call)
    (named : shared.store.catalog.Named)
    (new : ∀ creation, stage = .entering creation →
      ¬shared.store.catalog.Knows creation.target)
    (holds : shared.Holds ref content current) :
    ∃ added now, Marks ref call stage next after content current added now := by
  have quiet (mark : call.mark ref next = call.mark ref stage)
      (after_holds : after.Holds ref content current) :
      ∃ added now, Marks ref call stage next after content current added now :=
    ⟨[], current, .of_same mark after_holds⟩
  cases suits with
  | begun =>
      cases move with
      | nextId taken => exact marks_nextId named holds taken
      | refuseInsert | beginInsert | refuseDatabase | beginDatabase | refuseTable | beginTable
      | resolve | refuseScan | beginScan => exact quiet rfl holds
  | resolved names =>
      cases move
      exact quiet rfl ⟨holds.file, holds.entry⟩
  | waiting names =>
      cases move
      exact quiet rfl ⟨holds.file, holds.entry⟩
  | holding names =>
      cases move
      exact marks_number names holds
  | numbered names =>
      cases move with
      | refuseRow refused => exact marks_refuseRow holds refused
      | append appended => exact marks_append names holds appended
  | appended names =>
      cases move with
      | refuseAdvance refused => exact marks_refuseAdvance names holds refused
      | advance advanced => exact marks_advance names holds advanced
  | leaving names =>
      cases move with
      | @leaveFailed table failure =>
          refine quiet ?_ ⟨holds.file, holds.entry⟩
          cases failure with
          | misuse cause => cases cause <;> rfl
          | _ => rfl
      | leave => exact quiet rfl ⟨holds.file, holds.entry⟩
  | reading names =>
      cases move
      exact quiet rfl holds
  | queued creates =>
      cases move
      exact quiet (Call.mark_eq_of_creates creates) ⟨holds.file, holds.entry⟩
  | checking creates =>
      cases move with
      | refuseDuplicate | check => exact quiet (Call.mark_eq_of_creates creates) holds
  | making creates =>
      cases move with
      | refuseMake made | make made =>
          refine quiet (Call.mark_eq_of_creates creates) ⟨Store.contentAt_make made holds.file, ?_⟩
          rw [Store.catalog_make made]
          exact holds.entry
  | @entering _ creation creates =>
      cases move
      refine quiet (Call.mark_eq_of_creates creates) ⟨?_, ?_⟩
      · rw [Store.storage_enter]
        exact holds.file
      · obtain ⟨table, found, same⟩ := holds.entry
        exact ⟨table, Store.find?_enter (new creation rfl) found, same⟩
  | closing creates =>
      cases move with
      | closeFailed | close =>
          exact quiet (Call.mark_eq_of_creates creates) ⟨holds.file, holds.entry⟩
  | finished => cases move

end Stage

/-! ## The marks of all calls -/

namespace Crew

variable {start before after crew : Crew} {ref : TableRef} {thread position : Nat}

/-- The mark of a call, given by its thread and its position among the calls of the thread. -/
def mark (start crew : Crew) (ref : TableRef) (thread position : Nat) : Mark :=
  ((start.call? thread position).bind fun call =>
    (crew.stage? thread position).map (call.mark ref)).getD .none

theorem mark_eq {call : Call} {stage : Stage}
    (call_here : start.call? thread position = some call)
    (here : crew.stage? thread position = some stage) :
    start.mark crew ref thread position = call.mark ref stage := by
  rw [mark, call_here, here]
  rfl

/-- Whoever has a mark is at a stage. -/
theorem exists_stage_of_mark (marked : start.mark crew ref thread position ≠ .none) :
    ∃ call stage, start.call? thread position = some call ∧
      crew.stage? thread position = some stage ∧
      start.mark crew ref thread position = call.mark ref stage := by
  cases call_here : start.call? thread position with
  | none =>
      rw [mark, call_here] at marked
      exact absurd rfl marked
  | some call =>
      cases here : crew.stage? thread position with
      | none =>
          rw [mark, call_here, here] at marked
          exact absurd rfl marked
      | some stage => exact ⟨call, stage, rfl, rfl, mark_eq call_here here⟩

/-- Whoever has read an identity or written a row is an insert. -/
theorem exists_insert_of_mark (marked : start.mark crew ref thread position ≠ .none)
    (untaken : ∀ id, start.mark crew ref thread position ≠ .took id) :
    ∃ values stage, start.call? thread position =
        some (.insert ref.database ref.table values) ∧
      crew.stage? thread position = some stage ∧
      start.mark crew ref thread position = stage.insertMark := by
  obtain ⟨call, stage, call_here, here, same⟩ := exists_stage_of_mark marked
  rw [same] at marked untaken ⊢
  obtain ⟨values, rfl, is_insert⟩ := Call.eq_insert_of_mark marked untaken
  exact ⟨values, stage, call_here, here, is_insert⟩

theorem exists_insert_of_written {id : Int}
    (written : (start.mark crew ref thread position).written? = some id) :
    ∃ values stage, start.call? thread position =
        some (.insert ref.database ref.table values) ∧
      crew.stage? thread position = some stage ∧
      start.mark crew ref thread position = stage.insertMark :=
  exists_insert_of_mark (Mark.ne_none_of_written written) fun _ =>
    Mark.ne_took_of_written written

/-- Whoever has read an identity and not moved the allocator on has locked the table. -/
theorem exists_locked_of_pending (orderly : Orderly start crew) {id : Int}
    (pending : (start.mark crew ref thread position).pending? = some id) :
    ∃ stage, crew.stage? thread position = some stage ∧ stage.locked? = some ref := by
  obtain ⟨values, stage, call_here, here, same⟩ := exists_insert_of_mark
    (Mark.ne_none_of_pending pending) fun _ => Mark.ne_took_of_pending pending
  obtain ⟨call, other_here, suits⟩ := orderly.suits here
  rw [call_here, Option.some.injEq] at other_here
  subst other_here
  refine ⟨stage, here, ?_⟩
  rw [same] at pending
  rcases Stage.of_pending_insertMark pending with ⟨table, _, rfl⟩ | ⟨table, rfl⟩
  · cases suits with
    | numbered names => exact congrArg some names.ref_eq
  · cases suits with
    | appended names => exact congrArg some names.ref_eq

/-- One mark changes by a move, and the others stay. -/
structure MarkTurn (start : Crew) (ref : TableRef) (marks later : Nat → Nat → Mark)
    (mover spot : Nat) (next now : Int) (added : List NumberedRow) : Prop where
  /-- An identity is read when no other one is pending. -/
  moved : MarkMove (∀ other place id, (marks other place).pending? ≠ some id) next
    (marks mover spot) (later mover spot) now added
  others : ∀ other place, ¬(other = mover ∧ place = spot) → later other place = marks other place
  /-- A row has the values of its call. -/
  values : ∀ row ∈ added, start.call? mover spot =
    some (.insert ref.database ref.table row.values)

/-- No two inserts into a table have pending identities. -/
theorem pending_one (orderly : Orderly start crew)
    (guarded : Guarded (fun stage => stage.locked? = some ref)
      (fun shared => shared.store.locks.isHeld ref) crew)
    {other place : Nat} {id given : Int}
    (pending : (start.mark crew ref thread position).pending? = some id)
    (other_pending : (start.mark crew ref other place).pending? = some given) :
    other = thread ∧ place = position := by
  obtain ⟨stage, here, locked⟩ := exists_locked_of_pending orderly pending
  obtain ⟨there, other_here, other_locked⟩ := exists_locked_of_pending orderly other_pending
  exact guarded.one here locked other_here other_locked

/-- A turn changes one mark at most. -/
theorem Creating.exists_markTurn (creating : Creating start before)
    (guarded : Guarded (fun stage => stage.locked? = some ref)
      (fun shared => shared.store.locks.isHeld ref) before)
    (turn : Turn before after) {content : Octets} {next : Int}
    (holds : before.shared.Holds ref content next) :
    ∃ mover spot now added,
      MarkTurn start ref (start.mark before ref) (start.mark after ref) mover spot next now added ∧
      after.shared.Holds ref (content ++ Utf8.encode (linesOf added)) now := by
  cases turn with
  | rest shared calls =>
      have same (other place : Nat) :
          start.mark after ref other place = start.mark before ref other place := by
        rw [mark, calls]
        rfl
      refine ⟨0, 0, next, [],
        ⟨?_, fun other place _ => same other place, List.forall_mem_nil _⟩, ?_⟩
      · rw [same]
        exact .stay
      · rw [shared]
        exact (List.append_nil content).symm ▸ ⟨holds.file, holds.entry⟩
  | @move mover spot stage behind here move calls =>
      obtain ⟨call, call_here, suits⟩ := creating.orderly.suits here
      have new (creation : Creation) (entering : stage = .entering creation) :
          ¬before.shared.store.catalog.Knows creation.target := by
        subst entering
        exact creating.new here rfl
      obtain ⟨added, now, marks⟩ := move.marks suits creating.orderly.named new holds
      refine ⟨mover, spot, now, added, ⟨?_, ?_, ?_⟩, marks.holds⟩
      · rw [mark_eq call_here here, mark_eq call_here (stage?_of_move calls)]
        refine marks.mark.imp fun locked unmarked other place id pending => ?_
        obtain ⟨there, other_here, other_locked⟩ :=
          exists_locked_of_pending creating.orderly pending
        obtain ⟨rfl, rfl⟩ := guarded.one here locked other_here other_locked
        rw [mark_eq call_here here, unmarked] at pending
        cases pending
      · intro other place apart
        rw [mark, calls, if_neg apart]
        rfl
      · intro row member
        rw [call_here, marks.rows row member]

namespace MarkTurn

variable {marks later : Nat → Nat → Mark} {mover spot : Nat} {next now id : Int}
  {added : List NumberedRow}

theorem eq_or (turn : MarkTurn start ref marks later mover spot next now added)
    (thread position : Nat) :
    (thread = mover ∧ position = spot) ∨
      ¬(thread = mover ∧ position = spot) ∧ later thread position = marks thread position := by
  by_cases here : thread = mover ∧ position = spot
  · exact .inl here
  · exact .inr ⟨here, turn.others thread position here⟩

theorem next_le (turn : MarkTurn start ref marks later mover spot next now added) : next ≤ now := by
  rcases turn.moved.next_or with same | ⟨more, -⟩ <;> omega

/-- What is taken stays taken. -/
theorem took (turn : MarkTurn start ref marks later mover spot next now added)
    (taken : marks thread position = .took id) : later thread position = .took id := by
  rcases turn.eq_or thread position with ⟨rfl, rfl⟩ | ⟨-, same⟩
  · exact turn.moved.took taken
  · exact same.trans taken

theorem of_took (turn : MarkTurn start ref marks later mover spot next now added)
    (taken : later thread position = .took id) :
    marks thread position = .took id ∨
      (thread = mover ∧ position = spot) ∧ marks mover spot = .none ∧ id = next ∧
        now = next + 1 := by
  rcases turn.eq_or thread position with ⟨rfl, rfl⟩ | ⟨-, same⟩
  · exact (turn.moved.of_took taken).imp_right fun new => ⟨⟨rfl, rfl⟩, new⟩
  · exact .inl (same.symm.trans taken)

/-- What is written stays written. -/
theorem written (turn : MarkTurn start ref marks later mover spot next now added)
    (written : (marks thread position).written? = some id) :
    (later thread position).written? = some id := by
  rcases turn.eq_or thread position with ⟨rfl, rfl⟩ | ⟨-, same⟩
  · exact (turn.moved.written written).1
  · rw [same, written]

theorem of_written (turn : MarkTurn start ref marks later mover spot next now added)
    (written : (later thread position).written? = some id) :
    (marks thread position).written? = some id ∨
      (thread = mover ∧ position = spot) ∧ marks mover spot = .held id ∧
        ∃ values, added = [⟨id, values⟩] := by
  rcases turn.eq_or thread position with ⟨rfl, rfl⟩ | ⟨-, same⟩
  · exact (turn.moved.of_written written).imp And.left fun new => ⟨⟨rfl, rfl⟩, new.1, new.2.2⟩
  · exact .inl (same ▸ written)

end MarkTurn

end Crew
end FlatStore
