import FlatStore.Proofs.Marks

/-!
# Identities side by side

Identities are used up in two ways.  An insert reads the current identity, appends its row and then
moves the allocator on, all this under the lock of the table; a call for the next identity takes the
current one at once, without that lock.  So such a call can come between the reading and the moving
on, and then both have the same identity.  Nothing else gives an identity twice.
-/

namespace FlatStore
namespace Crew

variable {start before after crew : Crew} {ref : TableRef} {thread position : Nat}

/-! ## The ledger of a table -/

/-- The marks of the calls on a table, its next identity and the rows that were appended to its
file: every identity below the next one has been given out once, but for the one that an insert has
read and that a call for the next identity may have taken meanwhile. -/
structure Ledger (start : Crew) (ref : TableRef) (marks : Nat → Nat → Mark) (first next : Int)
    (rows : List NumberedRow) : Prop where
  first_le : first ≤ next
  took : ∀ {thread position : Nat} {id : Int}, marks thread position = .took id →
    first ≤ id ∧ id < next
  took_once : ∀ {thread position other place : Nat} {id : Int},
    marks thread position = .took id → marks other place = .took id →
    other = thread ∧ place = position
  pending : ∀ {thread position : Nat} {id : Int}, (marks thread position).pending? = some id →
    first ≤ id ∧ (id = next ∨ id < next ∧ ∃ other place, marks other place = .took id)
  /-- An insert that has read an identity and not written it comes behind all that are written. -/
  held : ∀ {thread position : Nat} {id : Int}, marks thread position = .held id →
    ∀ row ∈ rows, row.id < id
  passed : ∀ {thread position : Nat} {id : Int}, marks thread position = .passed id →
    first ≤ id ∧ id < next
  /-- The allocator refuses an identity only if it was taken. -/
  refused : ∀ {thread position : Nat} {id : Int}, marks thread position = .refused id →
    first ≤ id ∧ id < next ∧ ∃ other place, marks other place = .took id
  written_once : ∀ {thread position other place : Nat} {id : Int},
    (marks thread position).written? = some id → (marks other place).written? = some id →
    other = thread ∧ place = position
  mem_rows : ∀ {row : NumberedRow}, row ∈ rows ↔ ∃ thread position,
    start.call? thread position = some (.insert ref.database ref.table row.values) ∧
      (marks thread position).written? = some row.id
  increasing : (rows.map NumberedRow.id).Pairwise (· < ·)

namespace Ledger

variable {marks later : Nat → Nat → Mark} {mover spot : Nat} {first next now id : Int}
  {rows added : List NumberedRow}

/-- A written identity is not below the first one, and below the next one or still pending. -/
theorem of_written (ledger : Ledger start ref marks first next rows)
    (written : (marks thread position).written? = some id) :
    first ≤ id ∧ ((marks thread position).pending? = some id ∨ id < next) := by
  cases marked : marks thread position with
  | wrote other =>
      rw [marked] at written
      have pending : (marks thread position).pending? = some id := by rw [marked]; exact written
      exact ⟨(ledger.pending pending).1, .inl written⟩
  | passed other =>
      rw [marked] at written
      cases written
      exact (ledger.passed marked).imp_right .inr
  | refused other =>
      rw [marked] at written
      cases written
      obtain ⟨lower, upper, -⟩ := ledger.refused marked
      exact ⟨lower, .inr upper⟩
  | _ =>
      rw [marked] at written
      cases written

/-- Where no identity is pending, the rows have identities below the next one. -/
theorem lt_of_mem (ledger : Ledger start ref marks first next rows)
    (alone : ∀ other place id, (marks other place).pending? ≠ some id) {row : NumberedRow}
    (member : row ∈ rows) : row.id < next := by
  obtain ⟨thread, position, -, written⟩ := ledger.mem_rows.1 member
  exact (ledger.of_written written).2.resolve_left (alone thread position row.id)

section

variable (ledger : Ledger start ref marks first next rows)
  (turn : MarkTurn start ref marks later mover spot next now added)
  (one : ∀ {thread position other place : Nat} {id given : Int},
    (marks thread position).pending? = some id → (marks other place).pending? = some given →
    other = thread ∧ place = position)
  (inserts : ∀ {thread position : Nat} {id : Int}, (marks thread position).written? = some id →
    ∃ values, start.call? thread position = some (.insert ref.database ref.table values))

include ledger turn

theorem took_turn (taken : later thread position = .took id) : first ≤ id ∧ id < now := by
  rcases turn.of_took taken with old | ⟨-, -, rfl, more⟩
  · have grows := turn.next_le
    obtain ⟨lower, upper⟩ := ledger.took old
    omega
  · have lower := ledger.first_le
    omega

theorem took_once_turn {other place : Nat} (taken : later thread position = .took id)
    (other_taken : later other place = .took id) : other = thread ∧ place = position := by
  rcases turn.of_took taken with old | ⟨here, -, id_eq, -⟩ <;>
    rcases turn.of_took other_taken with other_old | ⟨other_here, -, other_eq, -⟩
  · exact ledger.took_once old other_old
  · have upper := (ledger.took old).2
    omega
  · have upper := (ledger.took other_old).2
    omega
  · exact ⟨other_here.1.trans here.1.symm, other_here.2.trans here.2.symm⟩

theorem passed_turn (passed : later thread position = .passed id) : first ≤ id ∧ id < now := by
  have grows := turn.next_le
  rcases turn.eq_or thread position with ⟨rfl, rfl⟩ | ⟨-, same⟩
  · rcases turn.moved.of_passed passed with old | ⟨-, rfl, more⟩
    · obtain ⟨lower, upper⟩ := ledger.passed old
      omega
    · have lower := ledger.first_le
      omega
  · obtain ⟨lower, upper⟩ := ledger.passed (same ▸ passed)
    omega

theorem refused_turn (refused : later thread position = .refused id) :
    first ≤ id ∧ id < now ∧ ∃ other place, later other place = .took id := by
  have grows := turn.next_le
  have old_or : marks thread position = .refused id ∨
      marks thread position = .wrote id ∧ id ≠ next := by
    rcases turn.eq_or thread position with ⟨rfl, rfl⟩ | ⟨-, same⟩
    · exact (turn.moved.of_refused refused).imp_right fun new => ⟨new.1, new.2.1⟩
    · exact .inl (same ▸ refused)
  rcases old_or with old | ⟨wrote, apart⟩
  · obtain ⟨lower, upper, other, place, taken⟩ := ledger.refused old
    exact ⟨lower, by omega, other, place, turn.took taken⟩
  · obtain ⟨lower, current | ⟨upper, other, place, taken⟩⟩ := ledger.pending (by rw [wrote]; rfl)
    · exact absurd current apart
    · exact ⟨lower, by omega, other, place, turn.took taken⟩

include one in
theorem pending_turn (pending : (later thread position).pending? = some id) :
    first ≤ id ∧ (id = now ∨ id < now ∧ ∃ other place, later other place = .took id) := by
  have grows := turn.next_le
  have old_or : (marks thread position).pending? = some id ∧
        (now = next ∨ ¬(thread = mover ∧ position = spot)) ∨
      id = next ∧ now = next := by
    rcases turn.eq_or thread position with ⟨rfl, rfl⟩ | ⟨apart, same⟩
    · exact (turn.moved.of_pending pending).imp (fun old => ⟨old.1, .inl old.2⟩) fun new => new.2.2
    · exact .inl ⟨same ▸ pending, .inr apart⟩
  rcases old_or with ⟨old, still⟩ | ⟨rfl, now_eq⟩
  · obtain ⟨lower, rfl | ⟨upper, other, place, taken⟩⟩ := ledger.pending old
    · -- The identity is the next one; if that is used up, it was taken.
      rcases turn.moved.next_or with now_eq | ⟨more, taken | wrote⟩
      · exact ⟨lower, .inl now_eq.symm⟩
      · exact ⟨lower, .inr ⟨by omega, mover, spot, taken⟩⟩
      · have mover_pending : (marks mover spot).pending? = some id := by rw [wrote]; rfl
        exact absurd (one mover_pending old) (still.resolve_left (by omega))
    · exact ⟨lower, .inr ⟨by omega, other, place, turn.took taken⟩⟩
  · exact ⟨ledger.first_le, .inl now_eq.symm⟩

include one in
theorem held_turn (held : later thread position = .held id) :
    ∀ row ∈ rows ++ added, row.id < id := by
  intro row member
  rcases turn.eq_or thread position with ⟨rfl, rfl⟩ | ⟨apart, same⟩
  · obtain ⟨old | ⟨alone, -, rfl⟩, rfl⟩ := turn.moved.of_held held
    · exact ledger.held old row (by simpa using member)
    · exact ledger.lt_of_mem alone (by simpa using member)
  · rw [same] at held
    rcases List.mem_append.1 member with old | added_row
    · exact ledger.held held row old
    · have mover_held := (turn.moved.of_mem_added added_row).1
      exact absurd (one (by rw [mover_held]; rfl) (by rw [held]; rfl)) apart

include inserts in
theorem written_once_turn {other place : Nat}
    (written : (later thread position).written? = some id)
    (other_written : (later other place).written? = some id) :
    other = thread ∧ place = position := by
  have not_both {thread position : Nat} (old : (marks thread position).written? = some id) :
      marks mover spot ≠ .held id := by
    intro held
    obtain ⟨values, call_here⟩ := inserts old
    have member : ⟨id, values⟩ ∈ rows := ledger.mem_rows.2 ⟨thread, position, call_here, old⟩
    exact absurd (ledger.held held _ member) (Int.lt_irrefl id)
  rcases turn.of_written written with old | ⟨here, held, -⟩ <;>
    rcases turn.of_written other_written with other_old | ⟨other_here, other_held, -⟩
  · exact ledger.written_once old other_old
  · exact absurd other_held (not_both old)
  · exact absurd held (not_both other_old)
  · exact ⟨other_here.1.trans here.1.symm, other_here.2.trans here.2.symm⟩

theorem mem_rows_turn {row : NumberedRow} :
    row ∈ rows ++ added ↔ ∃ thread position,
      start.call? thread position = some (.insert ref.database ref.table row.values) ∧
        (later thread position).written? = some row.id := by
  constructor
  · intro member
    rcases List.mem_append.1 member with old | added_row
    · obtain ⟨thread, position, call_here, written⟩ := ledger.mem_rows.1 old
      exact ⟨thread, position, call_here, turn.written written⟩
    · obtain ⟨-, wrote, -⟩ := turn.moved.of_mem_added added_row
      exact ⟨mover, spot, turn.values row added_row, by rw [wrote]; rfl⟩
  · rintro ⟨thread, position, call_here, written⟩
    rcases turn.of_written written with old | ⟨⟨rfl, rfl⟩, -, own, rfl⟩
    · exact List.mem_append_left _ (ledger.mem_rows.2 ⟨thread, position, call_here, old⟩)
    · have own_here := turn.values ⟨row.id, own⟩ (List.mem_singleton_self _)
      rw [call_here, Option.some.injEq, Call.insert.injEq] at own_here
      obtain ⟨-, -, rfl⟩ := own_here
      exact List.mem_append_right _ (List.mem_singleton_self _)

theorem increasing_turn : ((rows ++ added).map NumberedRow.id).Pairwise (· < ·) := by
  rw [List.map_append, List.pairwise_append]
  refine ⟨ledger.increasing, turn.moved.pairwise_added, ?_⟩
  intro old_id old_member new_id new_member
  obtain ⟨old, old_here, rfl⟩ := List.mem_map.1 old_member
  obtain ⟨row, added_row, rfl⟩ := List.mem_map.1 new_member
  exact ledger.held (turn.moved.of_mem_added added_row).1 old old_here

include one inserts in
/-- A move keeps the ledger. -/
theorem turn_ledger : Ledger start ref later first now (rows ++ added) where
  first_le := Int.le_trans ledger.first_le turn.next_le
  took := ledger.took_turn turn
  took_once := ledger.took_once_turn turn
  pending := ledger.pending_turn turn one
  held := ledger.held_turn turn one
  passed := ledger.passed_turn turn
  refused := ledger.refused_turn turn
  written_once := ledger.written_once_turn turn inserts
  mem_rows := ledger.mem_rows_turn turn
  increasing := ledger.increasing_turn turn

end

end Ledger

/-! ## Calls that overtake an insert -/

/-- In a run a call for the next identity is given one while an insert has read an identity and not
yet moved the allocator on. -/
def Overtakes (start : Crew) (ticks : List Tick) (ref : TableRef) (thread position : Nat)
    (id : Int) : Prop :=
  ∃ early tick taker place given, early ++ [tick] <+: ticks ∧
    (start.mark (start.runTicks early) ref thread position).pending? = some id ∧
    start.mark (start.runTicks early) ref taker place = .none ∧
    start.mark (start.runTicks (early ++ [tick])) ref taker place = .took given

theorem Overtakes.concat {ticks : List Tick} {id : Int}
    (overtakes : Overtakes start ticks ref thread position id) (tick : Tick) :
    Overtakes start (ticks ++ [tick]) ref thread position id := by
  obtain ⟨early, last, taker, place, given, begins, rest⟩ := overtakes
  exact ⟨early, last, taker, place, given, begins.trans (List.prefix_append ticks [tick]), rest⟩

/-- The ledger at the end of a run: an identity is given out twice exactly by overtaking. -/
structure Audit (start : Crew) (ticks : List Tick) (ref : TableRef) (content : Octets)
    (first next : Int) (rows : List NumberedRow) : Prop where
  holds : (start.runTicks ticks).shared.Holds ref (content ++ Utf8.encode (linesOf rows)) next
  ledger : Ledger start ref (start.mark (start.runTicks ticks) ref) first next rows
  overtaken : ∀ {thread position other place : Nat} {id : Int},
    start.mark (start.runTicks ticks) ref other place = .took id →
    (start.mark (start.runTicks ticks) ref thread position).pending? = some id ∨
      (start.mark (start.runTicks ticks) ref thread position).written? = some id →
    Overtakes start ticks ref thread position id
  taken : ∀ {thread position : Nat} {id : Int}, Overtakes start ticks ref thread position id →
    ∃ other place, start.mark (start.runTicks ticks) ref other place = .took id

variable {ticks : List Tick} {content : Octets} {first next : Int} {rows : List NumberedRow}

/-- At the start nobody has a mark. -/
theorem audit_ofCalls {store : Store} {calls : List (List Call)} {table : Table}
    (found : store.catalog.tables.find? ref = some table)
    (stored : store.storage.contentAt ref.path = .ok content) :
    Audit (ofCalls store calls) [] ref content table.allocator.next table.allocator.next [] := by
  have unmarked (thread position : Nat) :
      (ofCalls store calls).mark ((ofCalls store calls).runTicks []) ref thread position =
        .none := by
    by_contra marked
    obtain ⟨call, stage, -, here, same⟩ := exists_stage_of_mark marked
    obtain ⟨first, -, rfl⟩ := stage?_ofCalls here
    rw [same, Call.mark_begun] at marked
    exact marked rfl
  have nothing_overtaken {thread position : Nat} {id : Int} :
      ¬Overtakes (ofCalls store calls) [] ref thread position id := by
    rintro ⟨early, tick, -, -, -, begins, -⟩
    cases List.append_eq_nil_iff.1 (List.prefix_nil.1 begins) |>.2
  refine ⟨⟨stored.trans (congrArg Except.ok (List.append_nil content).symm), table, found, rfl⟩,
    ?_, ?_, fun overtaken => absurd overtaken nothing_overtaken⟩
  · constructor
    case first_le => exact Int.le_refl _
    case mem_rows => simp [unmarked, Mark.written?]
    case increasing => exact List.Pairwise.nil
    all_goals simp [unmarked, Mark.written?, Mark.pending?]
  · intro thread position other place id taken
    rw [unmarked] at taken
    cases taken

/-- Whoever has an identity that is taken in a turn has it before, or it was taken before. -/
theorem Ledger.overtaken_turn {marks later : Nat → Nat → Mark} {mover spot : Nat} {now id : Int}
    {added : List NumberedRow} {other place : Nat}
    (ledger : Ledger start ref marks first next rows)
    (turn : MarkTurn start ref marks later mover spot next now added)
    (taken : later other place = .took id)
    (claimed : (later thread position).pending? = some id ∨
      (later thread position).written? = some id) :
    marks other place = .took id ∧ ((marks thread position).pending? = some id ∨
        (marks thread position).written? = some id) ∨
      marks other place = .none ∧ (marks thread position).pending? = some id := by
  have claimed_before : (marks thread position).pending? = some id ∨
      (marks thread position).written? = some id ∨ id = next ∧ now = next := by
    rcases claimed with pending | written
    · rcases turn.eq_or thread position with ⟨rfl, rfl⟩ | ⟨-, same⟩
      · rcases turn.moved.of_pending pending with ⟨old, -⟩ | ⟨-, -, read⟩
        · exact .inl old
        · exact .inr (.inr read)
      · exact .inl (same ▸ pending)
    · rcases turn.of_written written with old | ⟨⟨rfl, rfl⟩, held, -⟩
      · exact .inr (.inl old)
      · exact .inl (by rw [held]; rfl)
  rcases turn.of_took taken with old | ⟨⟨rfl, rfl⟩, unmarked, rfl, more⟩
  · rcases claimed_before with pending | written | ⟨rfl, -⟩
    · exact .inl ⟨old, .inl pending⟩
    · exact .inl ⟨old, .inr written⟩
    · exact absurd (ledger.took old).2 (Int.lt_irrefl _)
  · -- The next identity is taken now; if an insert has it, it has not used it up yet.
    refine .inr ⟨unmarked, ?_⟩
    rcases claimed_before with pending | written | ⟨-, same⟩
    · exact pending
    · exact (ledger.of_written written).2.resolve_right (Int.lt_irrefl id)
    · omega

/-- If an identity is taken while another call has a pending one, that one is taken, too. -/
theorem Ledger.taken_turn {marks later : Nat → Nat → Mark} {mover spot taker place : Nat}
    {now id given : Int} {added : List NumberedRow}
    (ledger : Ledger start ref marks first next rows)
    (turn : MarkTurn start ref marks later mover spot next now added)
    (pending : (marks thread position).pending? = some id) (unmarked : marks taker place = .none)
    (taken : later taker place = .took given) : ∃ other place, later other place = .took id := by
  rcases turn.of_took taken with old | ⟨-, -, given_eq, -⟩
  · rw [unmarked] at old
    cases old
  · obtain ⟨-, rfl | ⟨-, other, other_place, old⟩⟩ := ledger.pending pending
    · exact ⟨taker, place, given_eq ▸ taken⟩
    · exact ⟨other, other_place, turn.took old⟩

/-- A tick keeps the accounts. -/
theorem Audit.concat (audit : Audit start ticks ref content first next rows)
    (standing : Standing start (start.runTicks ticks))
    (guarded : Guarded (fun stage => stage.locked? = some ref)
      (fun shared => shared.store.locks.isHeld ref) (start.runTicks ticks)) (tick : Tick) :
    ∃ now added, Audit start (ticks ++ [tick]) ref content first now (rows ++ added) := by
  have changes := turn_tick (start.runTicks ticks) tick
  obtain ⟨mover, spot, now, added, turn, holds⟩ :=
    standing.creating.exists_markTurn guarded changes audit.holds
  rw [← runTicks_concat] at turn holds
  have ledger := audit.ledger
  refine ⟨now, added, ?_⟩
  constructor
  case holds =>
    rw [linesOf_append, Utf8.encode_append, ← List.append_assoc]
    exact holds
  case ledger =>
    exact ledger.turn_ledger turn (pending_one standing.creating.orderly guarded) fun written => by
      obtain ⟨values, -, call_here, -⟩ := exists_insert_of_written written
      exact ⟨values, call_here⟩
  case overtaken =>
    intro thread position other place id taken claimed
    rcases ledger.overtaken_turn turn taken claimed with ⟨old, claimed_before⟩ | ⟨unmarked, pending⟩
    · exact (audit.overtaken old claimed_before).concat tick
    · exact ⟨ticks, tick, other, place, id, List.prefix_refl _, pending, unmarked, taken⟩
  case taken =>
    rintro thread position id ⟨early, last, taker, place, given, begins, rest⟩
    rcases List.prefix_concat_iff.1 begins with whole | shorter
    · obtain ⟨rfl, same⟩ := List.append_inj' whole rfl
      cases same
      obtain ⟨pending, unmarked, taken⟩ := rest
      exact ledger.taken_turn turn pending unmarked taken
    · obtain ⟨other, other_place, old⟩ :=
        audit.taken ⟨early, last, taker, place, given, shorter, rest⟩
      exact ⟨other, other_place, turn.took old⟩

/-- The ledger can be kept in every run. -/
theorem exists_audit {store : Store} {table : Table} (named : store.catalog.Named)
    (found : store.catalog.tables.find? ref = some table)
    (stored : store.storage.contentAt ref.path = .ok content) (calls : List (List Call))
    (ticks : List Tick) :
    ∃ next rows, Audit (ofCalls store calls) ticks ref content table.allocator.next next rows := by
  induction ticks using List.reverseRecOn with
  | nil => exact ⟨_, _, audit_ofCalls found stored⟩
  | append_singleton early tick ih =>
      obtain ⟨next, rows, audit⟩ := ih
      obtain ⟨now, added, later⟩ := audit.concat (standing_runTicks named calls early)
        (guarded_runTicks (Stage.isLock_table ref) store calls early) tick
      exact ⟨now, rows ++ added, later⟩

/-! ## Runs -/

/-- No identity of a table is given to two calls, and an insert that has appended its row returns
its identity. -/
structure GivenOnce (start crew : Crew) (ref : TableRef) : Prop where
  /-- What a call for the next identity returns is not the identity of a row that was appended. -/
  apart : ∀ {thread position other place : Nat} {id : Int},
    start.mark crew ref thread position = .took id →
    (start.mark crew ref other place).written? ≠ some id
  taken_once : ∀ {thread position other place : Nat} {id : Int},
    start.mark crew ref thread position = .took id → start.mark crew ref other place = .took id →
    other = thread ∧ place = position
  written_once : ∀ {thread position other place : Nat} {id : Int},
    (start.mark crew ref thread position).written? = some id →
    (start.mark crew ref other place).written? = some id → other = thread ∧ place = position
  returned : ∀ {thread position : Nat} {id : Int} {result : Except Failure Value},
    (start.mark crew ref thread position).written? = some id →
    crew.result? thread position = some result → result = .ok (.id id)

/-- What an insert with an appended row returns: its identity, unless the allocator has refused. -/
theorem eq_ok_or_refused {id : Int} {result : Except Failure Value}
    (written : (start.mark crew ref thread position).written? = some id)
    (returned : crew.result? thread position = some result) :
    result = .ok (.id id) ∨ start.mark crew ref thread position = .refused id := by
  obtain ⟨-, stage, -, here, same⟩ := exists_insert_of_written written
  rw [result?_eq_some_iff, here, Option.some.injEq] at returned
  subst returned
  rw [same] at written ⊢
  exact Stage.of_written_insertMark written

/-- Any number of calls of all kinds run side by side.  The rows that the inserts into a table
append stand in its file in the order of their identities, no two of the same one, and no identity
from before the start is given again.  No identity is given to two calls exactly if no call for the
next identity has overtaken an insert that has appended its row: has come after the insert had read
the identity and before it moved the allocator on. -/
theorem givenOnce_iff {store : Store} {table : Table} (consistent : store.catalog.Consistent)
    (found : store.catalog.tables.find? ref = some table)
    (stored : store.storage.contentAt table.path = .ok content) (calls : List (List Call))
    (ticks : List Tick) :
    (∃ rows : List NumberedRow,
      ((ofCalls store calls).runTicks ticks).shared.store.storage.contentAt table.path =
        .ok (content ++ Utf8.encode (linesOf rows)) ∧
      (rows.map NumberedRow.id).Pairwise (· < ·) ∧
      ∀ row, row ∈ rows ↔ ∃ thread position,
        (ofCalls store calls).call? thread position =
          some (.insert ref.database ref.table row.values) ∧
        ((ofCalls store calls).mark ((ofCalls store calls).runTicks ticks) ref thread
          position).written? = some row.id) ∧
    (∀ thread position id,
      (ofCalls store calls).mark ((ofCalls store calls).runTicks ticks) ref thread position =
          .took id ∨
        ((ofCalls store calls).mark ((ofCalls store calls).runTicks ticks) ref thread
          position).written? = some id → table.allocator.next ≤ id) ∧
    (GivenOnce (ofCalls store calls) ((ofCalls store calls).runTicks ticks) ref ↔
      ¬∃ thread position id, ((ofCalls store calls).mark ((ofCalls store calls).runTicks ticks) ref
          thread position).written? = some id ∧
        Overtakes (ofCalls store calls) ticks ref thread position id) := by
  have named : store.catalog.Named := fun ref table found =>
    ⟨(consistent ref table found).2.1, (consistent ref table found).2.2, trivial⟩
  rw [(named ref table found).path_eq] at stored ⊢
  obtain ⟨next, rows, audit⟩ := exists_audit named found stored calls ticks
  have ledger := audit.ledger
  refine ⟨⟨rows, audit.holds.file, ledger.increasing, fun row => ledger.mem_rows⟩, ?_, ?_⟩
  · rintro thread position id (taken | written)
    · exact (ledger.took taken).1
    · exact (ledger.of_written written).1
  constructor
  · rintro once ⟨thread, position, id, written, overtakes⟩
    obtain ⟨other, place, taken⟩ := audit.taken overtakes
    exact once.apart taken written
  · intro undisturbed
    constructor
    case apart =>
      intro thread position other place id taken written
      exact undisturbed ⟨other, place, id, written, audit.overtaken taken (.inr written)⟩
    case taken_once => exact ledger.took_once
    case written_once => exact ledger.written_once
    case returned =>
      intro thread position id result written returned
      refine (eq_ok_or_refused written returned).resolve_right fun refused => ?_
      obtain ⟨-, -, other, place, taken⟩ := ledger.refused refused
      exact undisturbed ⟨thread, position, id, written, audit.overtaken taken (.inr written)⟩

/-! ## An insert that is overtaken -/

/-- One thread inserts a row, the other one calls for the next identity. -/
def overtakenCalls : List (List Call) :=
  [[.insert "shop".toList "stock".toList ["y".toList]], [.nextId "shop".toList "stock".toList]]

/-- The call comes when the row is appended and the allocator is to be moved on. -/
def overtakenTicks : List Tick := [0, 0, 0, 0, 0, 1, 0, 0].map .turn

/-- The two threads at a table of one row. -/
def overtakenCrew : Crew := ofCalls (Store.sampleStore Store.endedText) overtakenCalls

/-- The call has taken the identity of the row. -/
theorem given_twice_overtaken :
    ¬GivenOnce overtakenCrew (overtakenCrew.runTicks overtakenTicks) Store.sampleRef := by
  have taken : overtakenCrew.mark (overtakenCrew.runTicks overtakenTicks) Store.sampleRef 1 0 =
      .took 2 := by
    decide +kernel
  have written : (overtakenCrew.mark (overtakenCrew.runTicks overtakenTicks) Store.sampleRef 0
      0).written? = some 2 := by
    decide +kernel
  exact fun once => once.apart taken written

/-- The call and the insert have the same identity; the insert fails, and its row is in the file. -/
theorem not_givenOnce_overtaken :
    ¬GivenOnce overtakenCrew (overtakenCrew.runTicks overtakenTicks) Store.sampleRef ∧
      ((overtakenCrew.runTicks overtakenTicks).result? 1 0).bind Except.toOption = some (.id 2) ∧
      ((overtakenCrew.runTicks overtakenTicks).result? 0 0).bind error? =
        some (.misuse (.notCurrent 2 3)) ∧
      (overtakenCrew.runTicks overtakenTicks).shared.store.storage.rows Store.sampleRef.path =
        .ok [["1".toList, "x".toList], ["2".toList, "y".toList]] := by
  exact ⟨given_twice_overtaken, by decide +kernel, by decide +kernel,
    eq_ok_of_toOption (by decide +kernel)⟩

/-- It is the overtaking that is to blame. -/
theorem givenOnce_iff_overtaken :
    ∃ thread position id,
      (overtakenCrew.mark (overtakenCrew.runTicks overtakenTicks) Store.sampleRef thread
        position).written? = some id ∧
      Overtakes overtakenCrew overtakenTicks Store.sampleRef thread position id := by
  have found : (Store.sampleStore Store.endedText).catalog.tables.find? Store.sampleRef =
      some Store.sampleTable := by
    decide +kernel
  have stored : (Store.sampleStore Store.endedText).storage.contentAt Store.sampleTable.path =
      .ok (Utf8.encode Store.endedText) :=
    eq_ok_of_toOption (by decide +kernel)
  have exactly : GivenOnce overtakenCrew (overtakenCrew.runTicks overtakenTicks) Store.sampleRef ↔
      ¬∃ thread position id,
        (overtakenCrew.mark (overtakenCrew.runTicks overtakenTicks) Store.sampleRef thread
          position).written? = some id ∧
        Overtakes overtakenCrew overtakenTicks Store.sampleRef thread position id :=
    (givenOnce_iff (Store.consistent_of_load Store.load_endedText) found stored overtakenCalls
      overtakenTicks).2.2
  by_contra undisturbed
  exact given_twice_overtaken (exactly.2 undisturbed)

end Crew
end FlatStore
