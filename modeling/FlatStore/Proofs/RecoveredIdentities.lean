import FlatStore.Proofs.Starting
import FlatStore.Proofs.WrittenTables

/-!
# Identities that are written and recovered

An identity that can be written is read back from its row whatever the values are: it is the first
cell of a line of its own, and reading has the same digit limit as writing.  So the allocator that
is recovered behind an append comes after the identity.  Behind the greatest identity the next one
has a digit too many.  Recovery gives it all the same, but it also logs it, at the lowest level, and
there it can not be written.
-/

namespace FlatStore

/-! ## The limit -/

/-- Of the positive identities those above the greatest one have no line. -/
theorem rowLine?_eq_none_iff {id : Int} (positive : 1 ≤ id) (values : List Text) :
    rowLine? id values = none ↔ greatestIdentity < id := by
  rw [rowLine?, Option.map_eq_none_iff, Numeral.write?_eq_none_iff, Numeral.isWritable_eq_false_iff,
    greatestIdentity]
  omega

/-- The next identity can be written if the greatest one is not among those of the rows. -/
theorem Allocator.isWritable_behind_iff {rows : List (List Text)} :
    Numeral.isWritable (behind rows).next = true ↔
      ∀ cells ∈ rows, identity? cells ≠ some greatestIdentity := by
  rw [← Bool.not_eq_false, isWritable_behind_eq_false_iff]
  constructor
  · intro below cells member found
    have within := Numeral.isWritable_iff.1 (isWritable_highestIdentity rows)
    have reached := le_highestIdentity member found
    have nonneg := highestIdentity_nonneg rows
    refine below ?_
    rw [greatestIdentity] at reached ⊢
    omega
  · intro absent highest
    rcases exists_highestIdentity rows with zero | ⟨cells, member, found⟩
    · have positive := one_le_greatestIdentity
      omega
    · exact absent cells member (highest ▸ found)

namespace Storage

variable {storage : Storage} {path : Path} {threshold : Level} {rows : List (List Text)}

/-! ## Recovery with a log -/

/-- Recover the allocator of a table file, each record being written when it is made: one that can
not be written ends the recovery. -/
def recoverAt (storage : Storage) (threshold : Level) (path : Path) : Except Failure Allocator :=
  let recovery := storage.recover path
  if (Logger.mk threshold []).canWrite ((recovery.1.map (⟨·, none⟩)).map Notice.record) then
    recovery.2.mapError .store
  else .error .unwritable

/-- Of what a recovery logs only the next identity may be too long, and only the lowest level keeps
it. -/
theorem canWrite_recover_iff :
    (Logger.mk threshold []).canWrite
        (((storage.recover path).1.map (⟨·, none⟩)).map Notice.record) = true ↔
      (threshold = .debug → ∀ rows, storage.rows path = .ok rows →
        ∀ cells ∈ rows, identity? cells ≠ some greatestIdentity) := by
  -- Complaints about rows are texts, so they never stand in the way.
  have complaint_isWritable {event : Event}
      (member : event ∈ (unreadableIdentities (storage.scan path).rows).map
        (.unreadableIdentity (stemOf (storage.nameAt path)))) : event.IsWritable := by
    obtain ⟨cell, -, rfl⟩ := List.mem_map.1 member
    exact (Event.OfTexts.unreadableIdentity ..).isWritable
  rw [Logger.canWrite_iff, recover, Storage.rows, Scan.complete]
  cases failed : (storage.scan path).failure with
  | some error =>
      exact iff_of_true (fun event member _ => complaint_isWritable member)
        fun _ _ impossible => by cases impossible
  | none =>
      have lowest : threshold.rank ≤ Level.debug.rank ↔ threshold = .debug := by
        cases threshold <;> decide
      simp only [Except.ok.injEq, forall_eq', List.forall_mem_append, List.forall_mem_singleton,
        Event.level, Event.isWritable_identityRecovered, Allocator.isWritable_behind_iff, lowest]
      exact and_iff_right fun event member _ => complaint_isWritable member

/-- The allocator of a file that can be read comes behind its rows, if it is recovered. -/
theorem recoverAt_eq_ok_iff (readable : storage.rows path = .ok rows) {allocator : Allocator} :
    storage.recoverAt threshold path = .ok allocator ↔
      allocator = .behind rows ∧
        (threshold = .debug → ∀ cells ∈ rows, identity? cells ≠ some greatestIdentity) := by
  have found : (storage.recover path).2 = .ok (.behind rows) := by
    rw [recover_eq, readable]
    rfl
  have logged := @canWrite_recover_iff storage path threshold
  simp only [readable, Except.ok.injEq, forall_eq'] at logged
  rw [← logged, recoverAt, found]
  split
  · rename_i written
    constructor
    · intro same
      exact ⟨(Except.ok.inj same).symm, written⟩
    · rintro ⟨rfl, -⟩
      rfl
  · rename_i lost
    refine iff_of_false ?_ fun both => lost both.2
    intro impossible
    cases impossible

theorem recoverAt_eq_unwritable_iff :
    storage.recoverAt threshold path = .error .unwritable ↔
      threshold = .debug ∧ ∃ rows, storage.rows path = .ok rows ∧
        ∃ cells ∈ rows, identity? cells = some greatestIdentity := by
  have logged := @canWrite_recover_iff storage path threshold
  rw [recoverAt]
  split
  · rename_i written
    have absent := logged.1 written
    refine iff_of_false ?_ ?_
    · cases (storage.recover path).2 <;> nofun
    · rintro ⟨lowest, rows, readable, cells, member, greatest⟩
      exact absent lowest rows readable cells member greatest
  · rename_i lost
    refine iff_of_true rfl ?_
    simpa using mt logged.2 lost

end Storage

namespace Program

variable {settings : Settings} {tree : Tree}

/-- A record keeps a server from being built if and only if it keeps a table from being recovered,
of those whose header can be read. -/
theorem build_eq_record_iff (onDisk : tree.OnDisk) (root : tree.find? .root = some .directory)
    (short : (storage settings tree).ShortBelow .root) :
    build settings tree = .error .record ↔
      ∃ ref content schema, (storage settings tree).OffersTable ref content ∧
        (storage settings tree).readSchema ref.path = .ok schema ∧
        (storage settings tree).recoverAt settings.observability.logLevel ref.path =
          .error .unwritable := by
  have builds := exists_build_iff onDisk root short
  constructor
  · intro failed
    have none_built : ¬∃ server, build settings tree = .ok server := by
      rw [failed]
      nofun
    rw [builds] at none_built
    push Not at none_built
    obtain ⟨lowest, ref, text, table, offers, depicts, unwritable⟩ := none_built
    obtain ⟨schema, rows, header, data, rfl⟩ := Storage.table?_eq_some_iff.1
      ((Storage.table?_eq_some_iff_depicts offers onDisk).2 ⟨text, rfl, depicts⟩)
    rw [Ne, Allocator.isWritable_behind_iff] at unwritable
    push Not at unwritable
    exact ⟨ref, _, schema, offers, header,
      Storage.recoverAt_eq_unwritable_iff.2 ⟨lowest, rows, data, unwritable⟩⟩
  · rintro ⟨ref, content, schema, offers, header, lost⟩
    obtain ⟨lowest, rows, data, cells, member, greatest⟩ :=
      Storage.recoverAt_eq_unwritable_iff.1 lost
    obtain ⟨text, rfl, depicts⟩ := (Storage.table?_eq_some_iff_depicts offers onDisk).1
      (Storage.table?_eq_some_iff.2 ⟨schema, rows, header, data, rfl⟩)
    cases built : build settings tree with
    | error failure => rw [eq_record_of_build onDisk root short built]
    | ok server =>
        have writable := builds.1 ⟨server, built⟩ lowest ref text _ offers depicts
        exact absurd greatest (Allocator.isWritable_behind_iff.1 writable cells member)

end Program

namespace Storage

variable {storage after : Storage} {path : Path} {content : Octets} {rows : List (List Text)}
  {id : Int} {values : List Text}

/-! ## Recovery behind an append -/

/-- An append to an ended file adds a row that begins with the identity, and more rows behind it
only if a value holds a line end. -/
theorem rows_of_appendRow (stored : storage.contentAt path = .ok content)
    (readable : storage.rows path = .ok rows) (ends : Utf8.EndsLine content)
    (appended : storage.appendRow path id values = (after, .ok ())) :
    ∃ cells more, after.rows path = .ok (rows ++ (Numeral.integer id :: cells) :: more) ∧
      ((∀ value ∈ values, Text.IsLine value) → more = []) := by
  obtain ⟨text, stored_text, rfl⟩ := exists_text_of_rows readable
  rw [stored, Except.ok.injEq] at stored_text
  subst stored_text
  have extended := contentAt_of_appendRow stored appended
  rw [← Utf8.encode_append] at extended
  rw [Utf8.endsLine_encode_iff] at ends
  obtain ⟨cells, more, read⟩ := exists_row_of_lineOf id values
  refine ⟨cells, more, ?_, fun inner => ?_⟩
  · rw [rows_of_text extended, Reading.rows_ofText_append ends (head?_lineOf_integer id values),
      read]
  · obtain ⟨others, one_row⟩ := exists_rowsOf_lineOf_eq_singleton id inner
    rw [read] at one_row
    exact (List.cons_eq_cons.1 one_row).2

/-- The allocator is recovered before and after a row with an identity was appended.  Afterwards it
comes behind the identity and not before where it was, and if no value holds a line end it is where
these two put it. -/
def RecoversPast (before after : Storage) (threshold : Level) (path : Path) (id : Int)
    (values : List Text) : Prop :=
  ∃ old new, before.recoverAt threshold path = .ok old ∧ after.recoverAt threshold path = .ok new ∧
    id + 1 ≤ new.next ∧ old.next ≤ new.next ∧
    ((∀ value ∈ values, Text.IsLine value) → new.next = max old.next (id + 1))

theorem recoversPast_iff (threshold : Level) (stored : storage.contentAt path = .ok content)
    (readable : storage.rows path = .ok rows) (ends : Utf8.EndsLine content) (positive : 1 ≤ id)
    (appended : storage.appendRow path id values = (after, .ok ())) :
    ∃ rowsAfter, after.rows path = .ok rowsAfter ∧
      (storage.RecoversPast after threshold path id values ↔
        (threshold = .debug → ∀ cells ∈ rowsAfter, identity? cells ≠ some greatestIdentity)) := by
  obtain ⟨cells, more, readable_after, one_row⟩ := rows_of_appendRow stored readable ends appended
  refine ⟨_, readable_after, ?_, fun absent => ?_⟩
  · rintro ⟨old, new, -, recovered, -⟩
    exact ((recoverAt_eq_ok_iff readable_after).1 recovered).2
  · have absent_before : threshold = .debug → ∀ cells ∈ rows,
        identity? cells ≠ some greatestIdentity :=
      fun lowest cells member => absent lowest cells (List.mem_append_left _ member)
    obtain ⟨line, -, has_line, -⟩ := appendRow_ok appended
    have written := (rowLine?_eq_some has_line).1
    -- The greatest identity is an old one, that of the row or one that its values bring in.
    have added : highestIdentity ((Numeral.integer id :: cells) :: more) =
        max id (highestIdentity more) := by
      rw [highestIdentity, identity?_of_write? written, Option.getD_some]
    have next_old : (Allocator.behind rows).next = highestIdentity rows + 1 := rfl
    have next_new : (Allocator.behind (rows ++ (Numeral.integer id :: cells) :: more)).next =
        max (highestIdentity rows) (max id (highestIdentity more)) + 1 := by
      rw [← added, ← highestIdentity_append]
      rfl
    refine ⟨_, _, (recoverAt_eq_ok_iff readable).2 ⟨rfl, absent_before⟩,
      (recoverAt_eq_ok_iff readable_after).2 ⟨rfl, absent⟩, ?_, ?_, fun inner => ?_⟩
    · rw [next_new]
      omega
    · rw [next_new, next_old]
      omega
    · have none_more : highestIdentity more = 0 := by
        rw [one_row inner]
        rfl
      rw [next_new, next_old, none_more]
      omega

/-- A row that is not appended to a file that is there has no line, or it meets some trouble, or the
path holds the null character.  No file is touched then. -/
theorem tree_of_appendRow_error {failure : Failure} (stored : storage.contentAt path = .ok content)
    (failed : storage.appendRow path id values = (after, .error failure)) :
    after.tree = storage.tree ∧
      (rowLine? id values = none ∨ storage.troubles ≠ .none ∨
        path.any (·.contains '\x00') = true) := by
  constructor
  · rcases appendRow_error failed with spends | ⟨place, loses, -⟩
    · exact spends.tree_eq
    · exact absurd stored loses.free.ne_content
  · by_contra no_cause
    simp only [not_or, not_not, Bool.not_eq_true] at no_cause
    obtain ⟨has_line, room, no_null⟩ := no_cause
    have writable : (Numeral.write? id).isSome = true := by
      rw [rowLine?, Option.map_eq_none_iff] at has_line
      exact Option.isSome_iff_ne_none.2 has_line
    obtain ⟨other, appended, -⟩ := exists_appendRow values room no_null writable stored
    rw [failed] at appended
    cases appended

/-- Identities above the greatest one have no line, and no file is touched for them.  Behind any
other identity that is appended to an ended file the allocator is recovered, unless all levels are
logged and a row of the file has the greatest identity. -/
theorem appendRow_recoversPast_iff (threshold : Level) (values : List Text)
    (stored : storage.contentAt path = .ok content) (readable : storage.rows path = .ok rows)
    (ends : Utf8.EndsLine content) (positive : 1 ≤ id) :
    (rowLine? id values = none ↔ greatestIdentity < id) ∧
      ((∃ after failure, storage.appendRow path id values = (after, .error failure) ∧
          after.tree = storage.tree ∧
          (rowLine? id values = none ∨ storage.troubles ≠ .none ∨
            path.any (·.contains '\x00') = true)) ∨
        ∃ after rowsAfter, rowLine? id values ≠ none ∧
          storage.appendRow path id values = (after, .ok ()) ∧
          after.rows path = .ok rowsAfter ∧
          (storage.RecoversPast after threshold path id values ↔
            (threshold = .debug →
              ∀ cells ∈ rowsAfter, identity? cells ≠ some greatestIdentity))) := by
  refine ⟨rowLine?_eq_none_iff positive values, ?_⟩
  rcases appended : storage.appendRow path id values with ⟨after, failure | done⟩
  · exact .inl ⟨after, failure, rfl, tree_of_appendRow_error stored appended⟩
  · obtain ⟨line, -, has_line, -⟩ := appendRow_ok appended
    obtain ⟨rowsAfter, readable_after, recovers⟩ :=
      recoversPast_iff threshold stored readable ends positive appended
    exact .inr ⟨after, rowsAfter, by simp [has_line], rfl, readable_after, recovers⟩

/-! ## The greatest identity in a file -/

theorem appendRow_sample {text : Text} (writable : Numeral.isWritable id = true) :
    (Store.sampleStorage text).appendRow Store.sampleRef.path id values =
      (Store.sampleStorage (text ++ lineOf (Numeral.integer id :: values)), .ok ()) := by
  have has_line : rowLine? id values = some (lineOf (Numeral.integer id :: values)) := by
    rw [rowLine?, Numeral.write?_eq_some_iff.2 ⟨writable, rfl⟩]
    rfl
  have extended : (Store.sampleStorage text).tree.append Store.sampleRef.path
      (Utf8.encode (lineOf (Numeral.integer id :: values))) =
        .ok (Store.sampleStorage (text ++ lineOf (Numeral.integer id :: values))).tree := by
    rw [Store.sampleStorage, Store.sampleStorage, Utf8.encode_append]
    rfl
  exact appendRow_of_append rfl (by decide) has_line rfl extended

/-- An ended file to which a row with the greatest identity was appended. -/
def greatestStorage : Storage :=
  Store.sampleStorage (Store.endedText ++ lineOf [Numeral.integer greatestIdentity, "y".toList])

theorem appendRow_greatest :
    (Store.sampleStorage Store.endedText).appendRow Store.sampleRef.path greatestIdentity
      ["y".toList] = (greatestStorage, .ok ()) :=
  appendRow_sample isWritable_greatestIdentity

theorem rows_endedText :
    (Store.sampleStorage Store.endedText).rows Store.sampleRef.path =
      .ok [["1".toList, "x".toList]] := by
  rw [rows_of_text (Store.contentAt_sample _)]
  decide

theorem endsLine_endedText : Utf8.EndsLine (Utf8.encode Store.endedText) :=
  Utf8.endsLine_encode_iff.2 (by decide)

/-- If the lowest level is not logged, the greatest identity is recovered like the others. -/
theorem appendRow_recoversPast_greatest :
    (Store.sampleStorage Store.endedText).appendRow Store.sampleRef.path greatestIdentity
        ["y".toList] = (greatestStorage, .ok ()) ∧
      (Store.sampleStorage Store.endedText).RecoversPast greatestStorage .info
        Store.sampleRef.path greatestIdentity ["y".toList] := by
  refine ⟨appendRow_greatest, ?_⟩
  obtain ⟨-, ⟨after, failure, failed, -⟩ | ⟨after, rows, -, appended, -, recovers⟩⟩ :=
    appendRow_recoversPast_iff .info ["y".toList] (Store.contentAt_sample _) rows_endedText
      endsLine_endedText one_le_greatestIdentity
  · rw [appendRow_greatest] at failed
    cases congrArg Prod.snd failed
  · rw [appendRow_greatest] at appended
    obtain rfl : greatestStorage = after := congrArg Prod.fst appended
    exact recovers.2 nofun

/-- The greatest identity is appended to an ended file that can be read.  If all levels are logged,
neither is the allocator recovered behind it nor is a server built. -/
theorem not_recoversPast_greatest :
    (Store.sampleStorage Store.endedText).rows Store.sampleRef.path =
        .ok [["1".toList, "x".toList]] ∧
      Utf8.EndsLine (Utf8.encode Store.endedText) ∧
      (Store.sampleStorage Store.endedText).appendRow Store.sampleRef.path greatestIdentity
        ["y".toList] = (greatestStorage, .ok ()) ∧
      ¬(Store.sampleStorage Store.endedText).RecoversPast greatestStorage .debug
        Store.sampleRef.path greatestIdentity ["y".toList] ∧
      Program.build (Program.sampleSettings .debug) greatestStorage.tree = .error .record := by
  have stored := Store.contentAt_sample Store.endedText
  obtain ⟨cells, more, readable, -⟩ := rows_of_appendRow stored rows_endedText
    endsLine_endedText appendRow_greatest
  have found : identity? (Numeral.integer greatestIdentity :: cells) = some greatestIdentity :=
    identity?_of_write? (Numeral.write?_eq_some_iff.2 ⟨isWritable_greatestIdentity, rfl⟩) cells
  have lost : greatestStorage.recoverAt .debug Store.sampleRef.path = .error .unwritable :=
    recoverAt_eq_unwritable_iff.2 ⟨rfl, _, readable, _, by simp, found⟩
  have header :
      greatestStorage.readSchema Store.sampleRef.path = .ok ⟨["id".toList, "a".toList]⟩ := by
    have ends : Text.EndsLine Store.endedText := by decide
    rw [greatestStorage, readSchema_of_text (Store.contentAt_sample _),
      Reading.schema_ofText_append ends (head?_lineOf_integer greatestIdentity _)]
    rfl
  refine ⟨rows_endedText, endsLine_endedText, appendRow_greatest, ?_, ?_⟩
  · rintro ⟨old, new, -, recovered, -⟩
    rw [lost] at recovered
    cases recovered
  · have onDisk : greatestStorage.tree.OnDisk := Store.onDisk_sample _
    exact (@Program.build_eq_record_iff (Program.sampleSettings .debug) _ onDisk rfl
      (Program.shortBelow_sample _)).2
      ⟨Store.sampleRef, _, _, Program.offersTable_sample _, header, lost⟩

end Storage
end FlatStore
