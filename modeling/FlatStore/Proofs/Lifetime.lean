import FlatStore.Proofs.Reloading
import FlatStore.Proofs.RoundTrip

/-!
# Identities over the life of a store

A store executes lines, fails at appends that are made to fail, and is loaded anew from its files,
in any order.  Whatever the inserted values hold, every identity that is given out stands at the
begin of a line of its own, so that a load puts the allocator behind all of them.  Hence the
identities given out for a table increase over the whole life, and no load loses a table.
-/

namespace FlatStore

/-- What a command has done to a table. -/
inductive Deed
  | created (table : TableRef)
  /-- A row was inserted and received an identity. -/
  | numbered (table : TableRef) (id : Int)
deriving DecidableEq, Repr

namespace Deed

/-- What a command of a session has done to a table, by its result. -/
def ofResult (session : Session) (result : Except Failure Answer) : List Deed :=
  match session.database, result with
  | some database, .ok (.tableCreated name) => [.created ⟨database, name⟩]
  | some database, .ok (.inserted name id) => [.numbered ⟨database, name⟩ id]
  | _, _ => []

/-- Only a new table and a new row are deeds. -/
theorem ofResult_eq_nil {session : Session} {result : Except Failure Answer}
    (no_table : ∀ name, result ≠ .ok (.tableCreated name))
    (no_row : ∀ name id, result ≠ .ok (.inserted name id)) : ofResult session result = [] := by
  unfold ofResult
  split
  · exact absurd rfl (no_table _)
  · exact absurd rfl (no_row _ _)
  · rfl

/-- The identity that a deed gives out for a table. -/
def identity? (table : TableRef) : Deed → Option Int
  | .created _ => none
  | .numbered other id => if other = table then some id else none

/-- The identities given out for a table, in the order of the deeds. -/
def identities (table : TableRef) (deeds : List Deed) : List Int :=
  deeds.filterMap (identity? table)

@[simp]
theorem identities_nil (table : TableRef) : identities table [] = [] := rfl

theorem identities_append (table : TableRef) (left right : List Deed) :
    identities table (left ++ right) = identities table left ++ identities table right :=
  List.filterMap_append

theorem mem_identities_numbered {table other : TableRef} {id given : Int}
    (member : given ∈ identities table [.numbered other id]) : other = table ∧ given = id := by
  obtain ⟨deed, here, found⟩ := List.mem_filterMap.1 member
  rw [List.mem_singleton.1 here, identity?, Option.ite_none_right_eq_some] at found
  exact ⟨found.1, (Option.some.inj found.2).symm⟩

theorem pairwise_identities_numbered (table other : TableRef) (id : Int) :
    (identities table [.numbered other id]).Pairwise (· < ·) := by
  by_cases same : other = table <;> simp [identities, identity?, same]

end Deed

/-- What can happen to a store. -/
inductive Happening
  | command (strict : Bool) (session : Session) (line : Text)
  /-- The next appends are made to fail. -/
  | failAppends (appends : Nat)
  /-- The store is loaded anew from its files. -/
  | restart

namespace Store

/-- A store after something has happened to it, with what was done to its tables. -/
def happen (store : Store) : Happening → Except Refusal (Store × List Deed)
  | .command strict session line =>
      let outcome := store.execute strict session line
      .ok (outcome.store, Deed.ofResult session outcome.result)
  | .failAppends appends => .ok ({ store with storage.troubles.failingAppends := appends }, [])
  | .restart => store.load.map fun loaded => (loaded, [])

/-- A store after one thing after the other has happened to it, with what was done to its tables. -/
def live (store : Store) : List Happening → Except Refusal (Store × List Deed)
  | [] => .ok (store, [])
  | happening :: rest => do
      let (store, deeds) ← store.happen happening
      let (store, others) ← store.live rest
      return (store, deeds ++ others)

/-! ## Recovered identities -/

/-- The text can be read, and every identity before the next one is behind the allocator that is
recovered from it. -/
structure Covered (table : Table) (text : Text) : Prop where
  readable : Readable table text
  next_le : table.allocator.next ≤ highestIdentity (Reading.ofText text).rows + 1

/-- Behind any row, with whatever values, the identities are still covered. -/
theorem keeps_covered : Keeps Covered fun _ => True where
  new database name columns plain :=
    { readable := keeps_readable.new database name columns plain
      next_le := by
        have nonneg :=
          highestIdentity_nonneg (Reading.ofText (Schema.ofColumns columns).header).rows
        change 1 ≤ _
        omega }
  row table text values covered allowed written :=
    { readable := keeps_readable.row table text values covered.readable allowed written
      next_le := by
        -- The row begins a line of its own, so its identity is read whatever follows it there.
        obtain ⟨cells, rows, read⟩ := exists_row_of_lineOf table.allocator.next values
        have first : Numeral.integer table.allocator.next :: cells ∈
            (Numeral.integer table.allocator.next :: cells) :: rows := List.mem_cons_self
        have reached := le_highestIdentity first (identity?_of_write? written cells)
        rw [Reading.rows_ofText_append covered.readable.ends (head?_lineOf_integer _ _),
          highestIdentity_append, read, Allocator.next_step]
        omega }

theorem recovers_covered : Recovers Covered where
  schema _ _ covered := covered.readable.schema
  fits _ _ covered := ⟨⟨covered.readable.schema, covered.readable.ends⟩, Int.le_refl _⟩

/-! ## What every happening keeps -/

/-- One store comes from another by some deeds: no table is lost, no allocator falls back, and the
identities given out lie between the allocators, in increasing order. -/
structure Advances (before : Store) (deeds : List Deed) (after : Store) : Prop where
  kept : ∀ ref table, before.catalog.tables.find? ref = some table →
    ∃ now, after.catalog.tables.find? ref = some now ∧ table.allocator.next ≤ now.allocator.next
  created : ∀ ref, .created ref ∈ deeds → ∃ table, after.catalog.tables.find? ref = some table
  increasing : ∀ ref, (Deed.identities ref deeds).Pairwise (· < ·)
  positive : ∀ ref, ∀ id ∈ Deed.identities ref deeds, 0 < id
  /-- What the allocator has passed is not given out. -/
  lower : ∀ ref table, before.catalog.tables.find? ref = some table →
    ∀ id ∈ Deed.identities ref deeds, table.allocator.next ≤ id
  /-- The allocator passes what is given out. -/
  upper : ∀ ref, ∀ id ∈ Deed.identities ref deeds,
    ∃ table, after.catalog.tables.find? ref = some table ∧ id < table.allocator.next

namespace Advances

variable {before between after : Store} {deeds others : List Deed}

/-- Without deeds it is enough that no table is lost and no allocator falls back. -/
theorem of_kept (kept : ∀ ref table, before.catalog.tables.find? ref = some table →
    ∃ now, after.catalog.tables.find? ref = some now ∧
      table.allocator.next ≤ now.allocator.next) : Advances before [] after where
  kept := kept
  created := nofun
  increasing _ := List.Pairwise.nil
  positive := nofun
  lower := nofun
  upper := nofun

theorem of_catalog (same : after.catalog = before.catalog) : Advances before [] after :=
  of_kept fun ref table found => ⟨table, by rw [same]; exact found, Int.le_refl _⟩

theorem trans (first : Advances before deeds between) (second : Advances between others after) :
    Advances before (deeds ++ others) after where
  kept ref table found := by
    obtain ⟨middle, found_middle, le_middle⟩ := first.kept ref table found
    obtain ⟨now, found_now, le_now⟩ := second.kept ref middle found_middle
    exact ⟨now, found_now, Int.le_trans le_middle le_now⟩
  created ref member := by
    rcases List.mem_append.1 member with member | member
    · obtain ⟨table, found⟩ := first.created ref member
      obtain ⟨now, found_now, -⟩ := second.kept ref table found
      exact ⟨now, found_now⟩
    · exact second.created ref member
  increasing ref := by
    rw [Deed.identities_append, List.pairwise_append]
    -- The allocator between the two lies above the old identities and not above the new ones.
    refine ⟨first.increasing ref, second.increasing ref, fun old here new later => ?_⟩
    obtain ⟨table, found, passed⟩ := first.upper ref old here
    exact Int.lt_of_lt_of_le passed (second.lower ref table found new later)
  positive ref id member := by
    rw [Deed.identities_append, List.mem_append] at member
    exact member.elim (first.positive ref id) (second.positive ref id)
  lower ref table found id member := by
    rw [Deed.identities_append, List.mem_append] at member
    rcases member with member | member
    · exact first.lower ref table found id member
    · obtain ⟨middle, found_middle, le_middle⟩ := first.kept ref table found
      exact Int.le_trans le_middle (second.lower ref middle found_middle id member)
  upper ref id member := by
    rw [Deed.identities_append, List.mem_append] at member
    rcases member with member | member
    · obtain ⟨table, found, passed⟩ := first.upper ref id member
      obtain ⟨now, found_now, le_now⟩ := second.kept ref table found
      exact ⟨now, found_now, Int.lt_of_lt_of_le passed le_now⟩
    · exact second.upper ref id member

end Advances

variable {before after : Store} {session : Session} {line : Text}

/-- A new table advances a store. -/
theorem advances_of_created {table : Table}
    (new : before.catalog.tables.find? table.ref = none)
    (catalog : after.catalog = before.catalog.addTable table) :
    Advances before [.created table.ref] after where
  kept other entry found := by
    refine ⟨entry, ?_, Int.le_refl _⟩
    have apart : table.ref ≠ other := by
      rintro rfl
      rw [new] at found
      cases found
    rw [catalog, Catalog.addTable, Index.find?_put_of_ne apart, found]
  created other member := by
    rw [List.mem_singleton, Deed.created.injEq] at member
    subst member
    exact ⟨table, by rw [catalog]; exact Index.find?_put_self ..⟩
  increasing _ := List.Pairwise.nil
  positive := nofun
  lower := nofun
  upper := nofun

/-- A new row advances a store. -/
theorem advances_of_numbered {ref : TableRef} {table : Table}
    (found : before.catalog.tables.find? ref = some table)
    (catalog : after.catalog = before.catalog.setAllocator ref table.allocator.step) :
    Advances before [.numbered ref table.allocator.next] after := by
  have found_after : after.catalog.tables.find? ref =
      some { table with allocator := table.allocator.step } := by
    rw [catalog, Catalog.find?_setAllocator, if_pos rfl, found]
    rfl
  exact
    { kept := fun other entry found_other => by
        by_cases same : ref = other
        · subst same
          rw [found, Option.some.injEq] at found_other
          subst found_other
          exact ⟨_, found_after, by rw [Allocator.next_step]; omega⟩
        · refine ⟨entry, ?_, Int.le_refl _⟩
          rw [catalog, Catalog.find?_setAllocator, if_neg same, found_other]
      created := fun other member => by
        rw [List.mem_singleton] at member
        cases member
      increasing := fun other => Deed.pairwise_identities_numbered ..
      positive := fun other id member => by
        obtain ⟨-, rfl⟩ := Deed.mem_identities_numbered member
        have positive := table.allocator.one_le_next
        omega
      lower := fun other entry found_other id member => by
        obtain ⟨rfl, rfl⟩ := Deed.mem_identities_numbered member
        rw [found, Option.some.injEq] at found_other
        subst found_other
        exact Int.le_refl _
      upper := fun other id member => by
        obtain ⟨rfl, rfl⟩ := Deed.mem_identities_numbered member
        exact ⟨_, found_after, by rw [Allocator.next_step]; omega⟩ }

/-- What a command does advances a store by its deeds. -/
theorem Effect.advances {result : Except Failure Answer} (sound : Sound Covered before)
    (effect : Effect session line before after result) :
    Advances before (Deed.ofResult session result) after := by
  cases effect with
  | nothing _ catalog quiet =>
      rw [Deed.ofResult_eq_nil (fun name same => by simpa using quiet _ same)
        fun name id same => by simpa using quiet _ same]
      exact .of_catalog catalog
  | database _ _ _ _ catalog =>
      rw [Deed.ofResult_eq_nil (by simp) (by simp)]
      refine .of_kept fun ref table found => ⟨table, ?_, Int.le_refl _⟩
      rw [catalog, tables_addDatabase, found]
  | @table database name columns _ selected _ _ _ new _ catalog =>
      have advances : Advances before [.created (newTable database name columns).ref] after :=
        advances_of_created new catalog
      simp only [Deed.ofResult, selected]
      exact advances
  | @row database name values entry _ selected resolved _ _ catalog =>
      obtain ⟨-, found⟩ := Catalog.resolve_eq_ok_iff.1 resolved
      have ref_eq := (sound.tables _ entry found).2.ref_eq
      have allocator_eq : before.allocatorOf entry = entry.allocator :=
        allocatorOf_of_find? (by rw [ref_eq]; exact found)
      simp only [Deed.ofResult, selected]
      rw [allocator_eq]
      rw [allocator_eq, ref_eq] at catalog
      exact advances_of_numbered found catalog
  | stranded loses strands catalog =>
      rw [Deed.ofResult_eq_nil (by simp) (by simp)]
      exact .of_catalog catalog

/-- A store that is loaded anew has advanced. -/
theorem Reloads.advances (reloads : Reloads Covered before after) : Advances before [] after :=
  .of_kept fun ref table found => by
    obtain ⟨text, covered, found_after, -⟩ := reloads.tables ref table found
    exact ⟨_, found_after, covered.next_le⟩

/-- Whatever happens to a sound store, it advances and stays sound. -/
theorem Sound.exists_happen (sound : Sound Covered before) (happening : Happening) :
    ∃ after deeds, before.happen happening = .ok (after, deeds) ∧ Sound Covered after ∧
      Advances before deeds after := by
  cases happening with
  | command strict session line =>
      have effect := execute_effect before strict session line
      exact ⟨_, _, rfl, sound.effect keeps_covered effect fun _ _ _ _ _ => trivial,
        effect.advances sound⟩
  | failAppends appends => exact ⟨_, _, rfl, sound.congr rfl sound.spared rfl, .of_catalog rfl⟩
  | restart =>
      obtain ⟨loaded, loads, reloads⟩ := sound.exists_reload recovers_covered
      refine ⟨loaded, [], ?_, reloads.sound sound, reloads.advances⟩
      rw [happen, loads]
      rfl

/-- A sound store lives through everything that happens to it, and it advances all the time. -/
theorem Sound.exists_live (sound : Sound Covered before) (happenings : List Happening) :
    ∃ after deeds, before.live happenings = .ok (after, deeds) ∧ Advances before deeds after := by
  induction happenings generalizing before with
  | nil => exact ⟨before, [], rfl, .of_catalog rfl⟩
  | cons happening rest ih =>
      obtain ⟨between, deeds, happened, sound_between, first⟩ := sound.exists_happen happening
      obtain ⟨after, others, lived, second⟩ := ih sound_between
      refine ⟨after, deeds ++ others, ?_, first.trans second⟩
      rw [live, happened]
      simp only [bind, Except.bind, lived]
      rfl

/-- Over the whole life of a store that begins empty, the identities given out for a table increase
and are positive, and a table that was created is never lost. -/
theorem identities_increase {root : Text} {start : Store}
    (loaded : (ofStorage ⟨root, Tree.bare, Troubles.none, Index.empty⟩).load = .ok start)
    (happenings : List Happening) :
    ∃ after deeds, start.live happenings = .ok (after, deeds) ∧
      (∀ ref, (Deed.identities ref deeds).Pairwise (· < ·) ∧
        ∀ id ∈ Deed.identities ref deeds, 0 < id) ∧
      ∀ ref, .created ref ∈ deeds → ∃ table, after.catalog.tables.find? ref = some table := by
  have sound : Sound Covered start := sound_start loaded
  obtain ⟨after, deeds, lived, advances⟩ := sound.exists_live happenings
  exact ⟨after, deeds, lived, fun ref => ⟨advances.increasing ref, advances.positive ref⟩,
    advances.created⟩

/-- A life in which a value brings an identity of its own into the file before the store is loaded
anew. -/
def forgedLife : List Happening :=
  (creatingLines "stock".toList ++ ["INSERT INTO stock VALUES (x\n7)".toList]).map
      (.command false sampleSession) ++
    [.restart, .command false sampleSession "INSERT INTO stock VALUES (y)".toList]

/-- Behind the forged identity the next one is greater than both. -/
theorem identities_increase_forged :
    ∃ after deeds, emptyStore.live forgedLife = .ok (after, deeds) ∧
      Deed.identities ⟨"shop".toList, "stock".toList⟩ deeds = [1, 8] ∧
      (Deed.identities ⟨"shop".toList, "stock".toList⟩ deeds).Pairwise (· < ·) ∧
      ∃ table, after.catalog.tables.find? ⟨"shop".toList, "stock".toList⟩ = some table := by
  obtain ⟨after, deeds, lived, increase, created⟩ := identities_increase load_emptyStore forgedLife
  have done : (emptyStore.live forgedLife).toOption.map Prod.snd =
      some [.created ⟨"shop".toList, "stock".toList⟩,
        .numbered ⟨"shop".toList, "stock".toList⟩ 1,
        .numbered ⟨"shop".toList, "stock".toList⟩ 8] := by
    decide +kernel
  rw [lived] at done
  cases done
  exact ⟨after, _, lived, by decide, (increase _).1, created _ List.mem_cons_self⟩

end Store
end FlatStore
