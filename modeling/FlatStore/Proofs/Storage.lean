import FlatStore.Disk.Storage
import FlatStore.Proofs.Outcome
import FlatStore.Proofs.TableFile
import FlatStore.Proofs.Tree

/-!
# What storage operations do

Everything that is read from a table file follows from its content.  An operation that writes either
changes one place of the tree or nothing but the troubles to come.  If it fails, it has changed one
place at most: where a new file was opened, an empty one is left when its line finds the disk full.
-/

namespace FlatStore
namespace Tree

/-- What extending a file does. -/
theorem append_eq_ok {tree after : Tree} {path : Path} {octets : Octets}
    (h : append tree path octets = .ok after) :
    ∃ place content, resolve tree path = .ok place ∧ tree.find? place ≠ some .directory ∧
      after = tree.put place (.file content) := by
  rw [append] at h
  split at h
  · cases h
  · cases h
  · rename_i place old found
    cases h
    obtain ⟨leads, there⟩ := look_eq_ok_iff.1 found
    exact ⟨place, old ++ octets, leads, by simp [there], rfl⟩
  · rename_i place found
    cases h
    obtain ⟨leads, absent⟩ := look_eq_ok_iff.1 found
    exact ⟨place, octets, leads, by simp [absent], rfl⟩

/-- A file that is there can be extended. -/
theorem append_put {tree : Tree} {path : Path} {place : Place}
    (leads : resolve tree path = .ok place) (free : tree.find? place ≠ some .directory)
    (content octets : Octets) :
    append (tree.put place (.file content)) path octets =
      .ok (tree.put place (.file (content ++ octets))) := by
  rw [append_of_find? (resolve_put _ free leads) (Index.find?_put_self ..), Index.put_put]

/-- What extending a file by nothing does: the file was there before, or it is new. -/
theorem append_nil_eq_ok {tree after : Tree} {path : Path} (h : append tree path [] = .ok after) :
    after = tree ∨ ∃ place, resolve tree path = .ok place ∧ tree.find? place = none ∧
      after = tree.put place (.file []) := by
  rw [append] at h
  split at h
  · cases h
  · cases h
  · rename_i place old found
    cases h
    rw [List.append_nil]
    exact .inl (Index.put_of_find? (look_eq_ok_iff.1 found).2)
  · rename_i place found
    cases h
    exact .inr ⟨place, (look_eq_ok_iff.1 found).1, (look_eq_ok_iff.1 found).2, rfl⟩

/-- To extend a file by nothing first makes no difference. -/
theorem append_of_append_nil {tree opened : Tree} {path : Path} {octets : Octets}
    (h : append tree path [] = .ok opened) :
    append opened path octets = append tree path octets := by
  rcases append_nil_eq_ok h with rfl | ⟨place, leads, absent, rfl⟩
  · rfl
  · rw [append_put leads (by simp [absent]), append, look_eq_ok_iff.2 ⟨leads, absent⟩]
    rfl

/-- A file that can be extended can be extended by anything. -/
theorem exists_append {tree after : Tree} {path : Path} {octets : Octets}
    (h : append tree path octets = .ok after) (others : Octets) :
    ∃ other, append tree path others = .ok other := by
  rw [append] at h ⊢
  split at h
  · cases h
  · cases h
  · exact ⟨_, rfl⟩
  · exact ⟨_, rfl⟩

end Tree

namespace Storage

variable {storage after : Storage} {path : Path}

theorem reach_eq_ok_iff {α : Type} {act : Path → Except Refusal α} {value : α} :
    storage.reach path act = .ok value ↔ storage.isTooLong path = false ∧ act path = .ok value := by
  rw [reach]
  cases storage.isTooLong path <;> simp

/-! ## Reading -/

/-- The content of the file to which a path below the root leads. -/
def contentAt (storage : Storage) (path : Path) : Except Refusal Octets :=
  storage.reach path storage.tree.read

theorem contentAt_eq_ok_iff {content : Octets} :
    storage.contentAt path = .ok content ↔
      storage.isTooLong path = false ∧ storage.tree.read path = .ok content :=
  reach_eq_ok_iff

theorem scan_of_content {content : Octets} (h : storage.contentAt path = .ok content) :
    storage.scan path = .ofReading (Reading.ofOctets content) := by
  rw [contentAt] at h
  rw [scan, h]

theorem readSchema_of_content {content : Octets} (h : storage.contentAt path = .ok content) :
    storage.readSchema path = (Reading.ofOctets content).schema.mapError .header := by
  rw [contentAt] at h
  rw [readSchema, h]

theorem readSchema_of_text {text : Text} (h : storage.contentAt path = .ok (Utf8.encode text)) :
    storage.readSchema path = (Reading.ofText text).schema.mapError .header := by
  rw [readSchema_of_content h, Reading.ofOctets_encode]

theorem scan_of_text {text : Text} (h : storage.contentAt path = .ok (Utf8.encode text)) :
    storage.scan path = ⟨(Reading.ofText text).rows, none⟩ := by
  rw [scan_of_content h, Reading.ofOctets_encode]
  rfl

theorem rows_of_text {text : Text} (h : storage.contentAt path = .ok (Utf8.encode text)) :
    storage.rows path = .ok (Reading.ofText text).rows := by
  rw [rows, scan_of_text h]
  rfl

/-- A file whose rows can be read to the end is the encoding of a text. -/
theorem exists_text_of_rows {found : List (List Text)} (h : storage.rows path = .ok found) :
    ∃ text, storage.contentAt path = .ok (Utf8.encode text) ∧
      (Reading.ofText text).rows = found := by
  cases at_path : storage.contentAt path with
  | error refusal =>
      rw [contentAt] at at_path
      rw [rows, scan, at_path] at h
      cases h
  | ok content =>
      rw [rows, scan_of_content at_path, Scan.complete, Scan.ofReading] at h
      cases failed : (Reading.ofOctets content).failure with
      | some failure =>
          rw [failed] at h
          cases h
      | none =>
          obtain ⟨text, rfl, read⟩ := Reading.exists_text_of_failure_eq_none failed
          rw [failed, read] at h
          cases h
          exact ⟨text, rfl, rfl⟩

/-- The header of a text that was read as a schema. -/
theorem schema_of_readSchema {text : Text} {schema : Schema}
    (at_path : storage.contentAt path = .ok (Utf8.encode text))
    (h : storage.readSchema path = .ok schema) : (Reading.ofText text).schema = .ok schema := by
  rw [readSchema_of_text at_path] at h
  cases found : (Reading.ofText text).schema with
  | error flaw =>
      rw [found] at h
      cases h
  | ok other =>
      rw [found] at h
      cases h
      rfl

/-- Recovery finds an allocator if it can read the rows, and puts it behind them. -/
theorem recover_eq (storage : Storage) (path : Path) :
    (storage.recover path).2 = (storage.rows path).map Allocator.behind := by
  rw [recover, rows, Scan.complete]
  cases (storage.scan path).failure <;> rfl

/-! ## Writing -/

/-- A file that is there can be given any content. -/
theorem exists_write {content : Octets}
    (stored : storage.contentAt path = .ok content) (octets : Octets) :
    ∃ tree, storage.tree.write path octets = .ok tree ∧
      (storage.withTree tree).contentAt path = .ok octets := by
  obtain ⟨short, read⟩ := contentAt_eq_ok_iff.1 stored
  obtain ⟨place, leads, found⟩ := Tree.read_eq_ok_iff.1 read
  have free : storage.tree.find? place ≠ some .directory := by
    rw [found]
    nofun
  refine ⟨storage.tree.put place (.file octets), ?_, contentAt_eq_ok_iff.2 ⟨short,
    Tree.read_eq_ok_iff.2 ⟨place, Tree.resolve_put _ free leads, Index.find?_put_self ..⟩⟩⟩
  rw [Tree.write, Tree.look_eq_ok_iff.2 ⟨leads, found⟩]

/-! ## Writing that fails -/

/-- A path leads to a place where nothing stands. -/
structure FreeAt (storage : Storage) (path : Path) (place : Place) : Prop where
  short : storage.isTooLong path = false
  leads : storage.tree.resolve path = .ok place
  absent : storage.tree.find? place = none

/-- The storage with a new file that is empty. -/
def withStub (storage : Storage) (place : Place) : Storage :=
  storage.withTree (storage.tree.put place (.file []))

/-- Nothing has changed, but some troubles may have been met. -/
structure Spends (before after : Storage) : Prop where
  same : after = { before with troubles := after.troubles }
  failingAppends : after.troubles.failingAppends ≤ before.troubles.failingAppends
  fullLines : after.troubles.fullLines ≤ before.troubles.fullLines

/-- A new file is left without its line, for which the disk was full. -/
structure Strands (before : Storage) (place : Place) (after : Storage) : Prop where
  absent : before.tree.find? place = none
  same : after = { before.withStub place with
    troubles.fullLines := before.troubles.fullLines - 1 }

theorem Spends.refl (storage : Storage) : storage.Spends storage :=
  ⟨rfl, Nat.le_refl _, Nat.le_refl _⟩

theorem Spends.tree_eq (spends : storage.Spends after) : after.tree = storage.tree := by
  rw [spends.same]

/-- Only the tree and the troubles are other ones. -/
theorem Strands.storage_eq {place : Place} (strands : storage.Strands place after) :
    after = { storage with tree := after.tree, troubles := after.troubles } := by
  rw [strands.same]
  rfl

theorem Strands.tree_eq {place : Place} (strands : storage.Strands place after) :
    after.tree = storage.tree.put place (.file []) := by
  rw [strands.same]
  rfl

/-- A new node takes no file away. -/
theorem contentAt_put_of_absent {place : Place} {content : Octets} (node : Node)
    (absent : storage.tree.find? place = none) (before : storage.contentAt path = .ok content) :
    (storage.withTree (storage.tree.put place node)).contentAt path = .ok content := by
  obtain ⟨short, read_before⟩ := contentAt_eq_ok_iff.1 before
  obtain ⟨target, leads, found⟩ := Tree.read_eq_ok_iff.1 read_before
  have apart : place ≠ target := by
    rintro rfl
    rw [absent] at found
    cases found
  exact contentAt_eq_ok_iff.2
    ⟨short, Tree.read_put_of_ne node (by simp [absent]) leads apart read_before⟩

/-- Where a file is there already, none can be created. -/
theorem FreeAt.ne_content {place : Place} {content : Octets} (free : storage.FreeAt path place) :
    storage.contentAt path ≠ .ok content := by
  intro stored
  obtain ⟨other, leads, found⟩ := Tree.read_eq_ok_iff.1 (contentAt_eq_ok_iff.1 stored).2
  rw [free.leads, Except.ok.injEq] at leads
  rw [← leads, free.absent] at found
  cases found

/-- What is written first to a new file is all that it holds. -/
theorem FreeAt.append_withStub {place : Place} (free : storage.FreeAt path place)
    (octets : Octets) : (storage.withStub place).tree.append path octets =
      .ok (storage.tree.put place (.file octets)) :=
  Tree.append_put free.leads (by simp [free.absent]) [] octets

/-- What fails leaves every file that is there alone. -/
theorem contentAt_of_fails {content : Octets}
    (fails : storage.Spends after ∨ ∃ place, storage.Strands place after)
    (before : storage.contentAt path = .ok content) : after.contentAt path = .ok content := by
  rcases fails with spends | ⟨place, strands⟩
  · rw [spends.same]
    exact before
  · rw [strands.same]
    exact contentAt_put_of_absent _ strands.absent before

theorem openNew_eq_ok_iff {opened : Storage} :
    storage.openNew path = .ok opened ↔
      ∃ place, storage.FreeAt path place ∧ opened = storage.withStub place := by
  constructor
  · intro h
    rw [openNew] at h
    split at h
    · rename_i tree reached
      cases h
      obtain ⟨short, created⟩ := reach_eq_ok_iff.1 reached
      obtain ⟨place, leads, absent, rfl⟩ := Tree.createFile_eq_ok_iff.1 created
      exact ⟨place, ⟨short, leads, absent⟩, rfl⟩
    · cases h
    · cases h
  · rintro ⟨place, free, rfl⟩
    rw [openNew, reach_eq_ok_iff.2 ⟨free.short,
      Tree.createFile_eq_ok_iff.2 ⟨place, free.leads, free.absent, rfl⟩⟩]
    rfl

theorem openToExtend_eq_ok_iff {opened : Storage} :
    storage.openToExtend path = .ok opened ↔ storage.isTooLong path = false ∧
      ∃ tree, storage.tree.append path [] = .ok tree ∧ opened = storage.withTree tree := by
  rw [openToExtend]
  constructor
  · intro h
    split at h
    · rename_i tree reached
      cases h
      obtain ⟨short, extended⟩ := reach_eq_ok_iff.1 reached
      exact ⟨short, tree, extended, rfl⟩
    · cases h
  · rintro ⟨short, tree, extended, rfl⟩
    rw [reach_eq_ok_iff.2 ⟨short, extended⟩]

/-- A file that was opened to extend it was there before, or it is new. -/
theorem eq_or_freeAt_of_openToExtend {opened : Storage}
    (h : storage.openToExtend path = .ok opened) :
    opened = storage ∨ ∃ place, storage.FreeAt path place ∧ opened = storage.withStub place := by
  obtain ⟨short, tree, extended, rfl⟩ := openToExtend_eq_ok_iff.1 h
  rcases Tree.append_nil_eq_ok extended with rfl | ⟨place, leads, absent, rfl⟩
  · exact .inl rfl
  · exact .inr ⟨place, ⟨short, leads, absent⟩, rfl⟩

/-- A line that can not be written has found the disk full, or its file can not be extended. -/
theorem writeLine_error {task : FileTask} {line : Text} {error : StoreError}
    (h : storage.writeLine task path line = (after, .error error)) :
    (storage.troubles.fullLines ≠ 0 ∧ error = .file task .diskFull ∧ after =
        { storage with troubles.fullLines := storage.troubles.fullLines - 1 }) ∨
      ∀ tree, storage.tree.append path (Utf8.encode line) ≠ .ok tree := by
  rw [writeLine] at h
  split at h
  · rename_i left full
    cases h
    refine .inl ⟨by simp [full], rfl, ?_⟩
    rw [full]
    rfl
  · split at h
    · cases h
    · rename_i refused
      refine .inr fun tree extended => ?_
      rw [extended] at refused
      cases refused

theorem writeLine_eq_error {task : FileTask} {line : Text} {error : StoreError}
    (h : storage.writeLine task path line = (after, .error error)) :
    ∃ trouble, error = .file task trouble := by
  rw [writeLine] at h
  repeat' split at h
  all_goals cases h
  · exact ⟨_, rfl⟩
  · exact ⟨_, rfl⟩

theorem writeLine_of_full {task : FileTask} (line : Text) (full : storage.troubles.fullLines ≠ 0) :
    storage.writeLine task path line =
      ({ storage with troubles.fullLines := storage.troubles.fullLines - 1 },
        .error (.file task .diskFull)) := by
  obtain ⟨left, full⟩ := Nat.exists_eq_succ_of_ne_zero full
  rw [writeLine, full]
  rfl

theorem writeLine_eq_ok_iff {task : FileTask} {line : Text} :
    storage.writeLine task path line = (after, .ok ()) ↔ storage.troubles.fullLines = 0 ∧
      ∃ tree, storage.tree.append path (Utf8.encode line) = .ok tree ∧
        after = storage.withTree tree := by
  rw [writeLine]
  constructor
  · intro h
    split at h
    · cases h
    · rename_i room
      split at h
      · rename_i tree extended
        cases h
        exact ⟨room, tree, extended, rfl⟩
      · cases h
  · rintro ⟨room, tree, extended, rfl⟩
    rw [room, extended]

/-! ## Appending rows -/

variable {id : Int} {values : List Text}

/-- What could be opened can be extended, if there is room. -/
theorem writeLine_of_openToExtend {opened : Storage} (room : storage.troubles.fullLines = 0)
    (opens : storage.openToExtend path = .ok opened) (task : FileTask) (line : Text) :
    ∃ tree, storage.tree.append path (Utf8.encode line) = .ok tree ∧
      opened.writeLine task path line = (storage.withTree tree, .ok ()) := by
  obtain ⟨-, tree, extended, rfl⟩ := openToExtend_eq_ok_iff.1 opens
  obtain ⟨longer, more⟩ := Tree.exists_append extended (Utf8.encode line)
  exact ⟨longer, more,
    writeLine_eq_ok_iff.2 ⟨room, longer, (Tree.append_of_append_nil extended).trans more, rfl⟩⟩

/-- What an append does once nothing but its file can keep it from being done. -/
theorem appendRow_of_line {line : Text} (unhurt : storage.troubles.failingAppends = 0)
    (has_line : rowLine? id values = some line) (no_null : path.any (·.contains '\x00') = false) :
    storage.appendRow path id values =
      match storage.openToExtend path with
      | .error error => (storage, .error (.store error))
      | .ok opened =>
          ((opened.writeLine .appendRow path line).1,
            (opened.writeLine .appendRow path line).2.mapError .store) := by
  rw [appendRow, unhurt, has_line]
  exact if_neg (no_null ▸ Bool.false_ne_true)

/-- An append that succeeds extends the file by the line of its row. -/
theorem appendRow_ok (h : storage.appendRow path id values = (after, .ok ())) :
    ∃ line tree, rowLine? id values = some line ∧ storage.isTooLong path = false ∧
      storage.tree.append path (Utf8.encode line) = .ok tree ∧ after = storage.withTree tree := by
  rw [appendRow] at h
  split at h
  · cases h
  · split at h
    · cases h
    · rename_i line has_line
      split at h
      · cases h
      · split at h
        · cases h
        · rename_i opened opens
          obtain ⟨short, tree, extended, rfl⟩ := openToExtend_eq_ok_iff.1 opens
          rcases written : (storage.withTree tree).writeLine .appendRow path line with
            ⟨behind, error | done⟩
          · rw [written] at h
            cases h
          · rw [written] at h
            cases h
            obtain ⟨-, longer, extended_more, rfl⟩ := writeLine_eq_ok_iff.1 written
            rw [withTree, Tree.append_of_append_nil extended] at extended_more
            exact ⟨line, longer, has_line, short, extended_more, rfl⟩

/-- An append succeeds if nothing goes wrong, the row has a line and the path leads to the file. -/
theorem appendRow_of_append {line : Text} {tree : Tree} (room : storage.troubles = .none)
    (no_null : path.any (·.contains '\x00') = false) (has_line : rowLine? id values = some line)
    (short : storage.isTooLong path = false)
    (extended : storage.tree.append path (Utf8.encode line) = .ok tree) :
    storage.appendRow path id values = (storage.withTree tree, .ok ()) := by
  obtain ⟨opened, opens⟩ := Tree.exists_append extended []
  have opens : storage.openToExtend path = .ok (storage.withTree opened) :=
    openToExtend_eq_ok_iff.2 ⟨short, opened, opens, rfl⟩
  obtain ⟨longer, more, written⟩ :=
    writeLine_of_openToExtend (by rw [room]; rfl) opens .appendRow line
  rw [extended, Except.ok.injEq] at more
  rw [appendRow_of_line (by rw [room]; rfl) has_line no_null, opens]
  dsimp only
  rw [written, more]
  rfl

/-- If nothing goes wrong, a row can be appended if it has a line and its file can be opened. -/
theorem appendRow_snd (room : storage.troubles = .none) (id : Int) (values : List Text) :
    (storage.appendRow path id values).2 =
      match rowLine? id values with
      | none => .error .unwritable
      | some _ =>
          if path.any (·.contains '\x00') then .error .nullCharacter
          else ((storage.openToExtend path).map fun _ => ()).mapError .store := by
  rw [appendRow, room]
  cases rowLine? id values with
  | none => rfl
  | some line =>
      dsimp only [Troubles.none]
      split
      · rfl
      · cases opens : storage.openToExtend path with
        | error error => rfl
        | ok opened =>
            obtain ⟨tree, -, written⟩ :=
              writeLine_of_openToExtend (by rw [room]; rfl) opens .appendRow line
            dsimp only
            rw [written]
            rfl

/-- What is wrong when the line of a row is lost behind a file that was opened for it. -/
structure LosesRow (storage : Storage) (path : Path) (id : Int) (values : List Text)
    (place : Place) : Prop where
  unhurt : storage.troubles.failingAppends = 0
  has_line : (rowLine? id values).isSome = true
  no_null : path.any (·.contains '\x00') = false
  free : storage.FreeAt path place
  full : storage.troubles.fullLines ≠ 0

/-- An append that fails meets some trouble at most, or it leaves a new file without its line. -/
theorem appendRow_error {failure : Failure}
    (h : storage.appendRow path id values = (after, .error failure)) :
    storage.Spends after ∨ ∃ place, storage.LosesRow path id values place ∧
      failure = .store (.file .appendRow .diskFull) ∧ storage.Strands place after := by
  rw [appendRow] at h
  split at h
  · rename_i left failing
    cases h
    exact .inl ⟨rfl, by rw [failing]; exact Nat.le_succ left, Nat.le_refl _⟩
  · rename_i unhurt
    split at h
    · cases h
      exact .inl (.refl storage)
    · rename_i line has_line
      split at h
      · cases h
        exact .inl (.refl storage)
      · rename_i no_null
        split at h
        · cases h
          exact .inl (.refl storage)
        · rename_i opened opens
          rcases written : opened.writeLine .appendRow path line with ⟨behind, error | done⟩
          · rw [written] at h
            cases h
            rcases writeLine_error written with ⟨full, rfl, rfl⟩ | never
            · rcases eq_or_freeAt_of_openToExtend opens with rfl | ⟨place, free, rfl⟩
              · exact .inl ⟨rfl, Nat.le_refl _, Nat.sub_le _ _⟩
              · exact .inr ⟨place, ⟨unhurt, by rw [has_line]; rfl, Bool.eq_false_iff.2 no_null,
                  free, full⟩, rfl, free.absent, rfl⟩
            · -- What could be opened can be extended.
              obtain ⟨-, tree, extended, rfl⟩ := openToExtend_eq_ok_iff.1 opens
              obtain ⟨longer, more⟩ := Tree.exists_append extended (Utf8.encode line)
              exact absurd ((Tree.append_of_append_nil extended).trans more) (never longer)
          · rw [written] at h
            cases h

/-- A row whose line is lost leaves its file behind. -/
theorem LosesRow.appendRow_eq {place : Place} (loses : storage.LosesRow path id values place) :
    storage.appendRow path id values =
      ({ storage.withStub place with troubles.fullLines := storage.troubles.fullLines - 1 },
        .error (.store (.file .appendRow .diskFull))) := by
  obtain ⟨line, has_line⟩ := Option.isSome_iff_exists.1 loses.has_line
  have extended : storage.tree.append path [] = .ok (storage.tree.put place (.file [])) := by
    rw [Tree.append, Tree.look_eq_ok_iff.2 ⟨loses.free.leads, loses.free.absent⟩]
  have full : (storage.withStub place).troubles.fullLines ≠ 0 := loses.full
  rw [appendRow_of_line loses.unhurt has_line loses.no_null,
    openToExtend_eq_ok_iff.2 ⟨loses.free.short, _, extended, rfl⟩]
  dsimp only
  rw [← withStub, writeLine_of_full line full]
  rfl

/-- An append that fails leaves every file that is there alone. -/
theorem contentAt_of_appendRow_error {failure : Failure} {other : Path} {content : Octets}
    (h : storage.appendRow path id values = (after, .error failure))
    (before : storage.contentAt other = .ok content) : after.contentAt other = .ok content :=
  contentAt_of_fails ((appendRow_error h).imp_right fun ⟨place, _, _, strands⟩ =>
    ⟨place, strands⟩) before

theorem rowLine?_eq_some {line : Text} (h : rowLine? id values = some line) :
    Numeral.write? id = some (Numeral.integer id) ∧
      line = lineOf (Numeral.integer id :: values) := by
  obtain ⟨numeral, written, rfl⟩ := Option.map_eq_some_iff.1 h
  obtain ⟨_, rfl⟩ := Numeral.write?_eq_some_iff.1 written
  exact ⟨written, rfl⟩

/-- The file of an append that succeeded holds the new line behind what it held. -/
theorem contentAt_of_appendRow {content : Octets} (before : storage.contentAt path = .ok content)
    (h : storage.appendRow path id values = (after, .ok ())) :
    after.contentAt path =
      .ok (content ++ Utf8.encode (lineOf (Numeral.integer id :: values))) := by
  obtain ⟨line, tree, written, short, appended, rfl⟩ := appendRow_ok h
  obtain ⟨-, rfl⟩ := rowLine?_eq_some written
  obtain ⟨-, read_before⟩ := contentAt_eq_ok_iff.1 before
  exact contentAt_eq_ok_iff.2 ⟨short, Tree.read_of_append read_before appended⟩

/-- An append to one table leaves the files of the others alone. -/
theorem contentAt_appendRow_of_ne {ref other : TableRef} (apart : ref ≠ other) {content : Octets}
    (before : storage.contentAt other.path = .ok content) {outcome : Except Failure Unit}
    (h : storage.appendRow ref.path id values = (after, outcome)) :
    after.contentAt other.path = .ok content := by
  cases outcome with
  | error failure => exact contentAt_of_appendRow_error h before
  | ok done =>
      obtain ⟨line, tree, -, -, appended, rfl⟩ := appendRow_ok h
      obtain ⟨place, written, leads, free, rfl⟩ := Tree.append_eq_ok appended
      obtain ⟨short, read_before⟩ := contentAt_eq_ok_iff.1 before
      obtain ⟨target, leads_other, -⟩ := Tree.read_eq_ok_iff.1 read_before
      refine contentAt_eq_ok_iff.2 ⟨short, Tree.read_put_of_ne _ free leads_other ?_ read_before⟩
      rw [TableRef.place_eq_of_resolve leads, TableRef.place_eq_of_resolve leads_other]
      exact fun same => apart (TableRef.place_injective same)

/-! ## Creating -/

/-- Creating a table puts a file with its header where nothing was. -/
theorem createTable_ok {schema : Schema}
    (h : storage.createTable path schema = (after, .ok ())) :
    ∃ place, storage.FreeAt path place ∧
      after = storage.withTree (storage.tree.put place (.file (Utf8.encode schema.header))) := by
  rw [createTable] at h
  split at h
  · cases h
  · rename_i opened opens
    obtain ⟨place, free, rfl⟩ := openNew_eq_ok_iff.1 opens
    obtain ⟨-, tree, extended, rfl⟩ := writeLine_eq_ok_iff.1 h
    rw [free.append_withStub, Except.ok.injEq] at extended
    subst extended
    exact ⟨place, free, rfl⟩

/-- A creation that fails has done nothing, or it leaves a new file without its header. -/
theorem createTable_error {schema : Schema} {error : StoreError}
    (h : storage.createTable path schema = (after, .error error)) :
    after = storage ∨ ∃ place, storage.FreeAt path place ∧ storage.troubles.fullLines ≠ 0 ∧
      error = .file .createTable .diskFull ∧ storage.Strands place after := by
  rw [createTable] at h
  split at h
  · cases h
    exact .inl rfl
  · rename_i opened opens
    obtain ⟨place, free, rfl⟩ := openNew_eq_ok_iff.1 opens
    rcases writeLine_error h with ⟨full, rfl, rfl⟩ | never
    · exact .inr ⟨place, free, full, rfl, free.absent, rfl⟩
    · exact absurd (free.append_withStub _) (never _)

/-- With room on the disk a table can be created if its file can be opened. -/
theorem createTable_snd (room : storage.troubles.fullLines = 0) (schema : Schema) :
    (storage.createTable path schema).2 = (storage.openNew path).map fun _ => () := by
  rw [createTable]
  cases opens : storage.openNew path with
  | error error => rfl
  | ok opened =>
      obtain ⟨place, free, rfl⟩ := openNew_eq_ok_iff.1 opens
      have written :
          (storage.withStub place).writeLine .createTable path schema.header = (_, .ok ()) :=
        writeLine_eq_ok_iff.2 ⟨room, _, free.append_withStub _, rfl⟩
      exact congrArg Prod.snd written

/-- A header for which the disk is full leaves its file behind. -/
theorem createTable_of_full {place : Place} (free : storage.FreeAt path place)
    (full : storage.troubles.fullLines ≠ 0) (schema : Schema) :
    storage.createTable path schema =
      ({ storage.withStub place with troubles.fullLines := storage.troubles.fullLines - 1 },
        .error (.file .createTable .diskFull)) := by
  rw [createTable, openNew_eq_ok_iff.2 ⟨place, free, rfl⟩]
  exact writeLine_of_full schema.header full

/-- A creation that fails leaves every file that is there alone. -/
theorem contentAt_of_createTable_error {schema : Schema} {error : StoreError} {other : Path}
    {content : Octets} (h : storage.createTable path schema = (after, .error error))
    (before : storage.contentAt other = .ok content) : after.contentAt other = .ok content := by
  refine contentAt_of_fails ?_ before
  rcases createTable_error h with rfl | ⟨place, -, -, -, strands⟩
  · exact .inl (.refl _)
  · exact .inr ⟨place, strands⟩

/-- Creating a database puts a directory where nothing was. -/
theorem createDatabase_ok (h : storage.createDatabase path = .ok after) :
    ∃ place, storage.FreeAt path place ∧
      after = storage.withTree (storage.tree.put place .directory) := by
  rw [createDatabase] at h
  split at h
  · rename_i tree reached
    cases h
    obtain ⟨short, created⟩ := reach_eq_ok_iff.1 reached
    obtain ⟨place, leads, absent, rfl⟩ := Tree.makeDirectory_eq_ok_iff.1 created
    exact ⟨place, ⟨short, leads, absent⟩, rfl⟩
  · cases h
  · cases h

/-- A new table file holds the header. -/
theorem contentAt_of_createTable {schema : Schema}
    (created : storage.createTable path schema = (after, .ok ())) :
    after.contentAt path = .ok (Utf8.encode schema.header) := by
  obtain ⟨place, free, rfl⟩ := createTable_ok created
  exact contentAt_eq_ok_iff.2 ⟨free.short, Tree.read_eq_ok_iff.2
    ⟨place, Tree.resolve_put _ (by simp [free.absent]) free.leads, Index.find?_put_self ..⟩⟩

end Storage
end FlatStore
