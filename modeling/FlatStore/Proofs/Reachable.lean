import FlatStore.Proofs.SoundStore

/-!
# Reachable stores

The stores that command lines lead to from an empty storage root.  The lines come in any order from
any sessions, strict or not, and before any of them some appends may be made to fail.  All reachable
stores are sound.
-/

namespace FlatStore
namespace Store

/-- The stores that lines lead to from an empty storage root; `Permits` says which lines with which
results are let in. -/
inductive Reachable (Permits : Text → Except Failure Answer → Prop) : Store → Prop
  | start {root : Text} {store : Store}
      (loaded : (ofStorage ⟨root, Tree.bare, Troubles.none, Index.empty⟩).load = .ok store) :
      Reachable Permits store
  | command {store : Store} (strict : Bool) (session : Session) (line : Text)
      (reachable : Reachable Permits store)
      (permitted : Permits line (store.execute strict session line).result) :
      Reachable Permits (store.execute strict session line).store
  /-- The next appends are made to fail. -/
  | failAppends {store : Store} (appends : Nat) (reachable : Reachable Permits store) :
      Reachable Permits { store with storage.troubles.failingAppends := appends }

variable {Fits : Table → Text → Prop} {Allowed : List Text → Prop}

/-- An empty storage root is loaded as a sound store without databases and tables. -/
theorem sound_start {root : Text} {store : Store}
    (loaded : (ofStorage ⟨root, Tree.bare, Troubles.none, Index.empty⟩).load = .ok store) :
    Sound Fits store := by
  let bare : Storage := ⟨root, Tree.bare, Troubles.none, Index.empty⟩
  obtain ⟨storage, names, prepared, listed, loads⟩ := load_eq_ok loaded
  have same : bare = storage := Except.ok.inj prepared
  subst same
  have short : bare.isTooLong [] = false := by
    cases long : bare.isTooLong [] with
    | false => rfl
    | true =>
        rw [Storage.databases, Storage.children, Storage.reach, long] at listed
        cases listed
  have nothing_listed : Tree.bare.list [] = .ok [] := eq_ok_of_toOption (by decide +kernel)
  have children : bare.children [] = .ok [] :=
    Storage.children_eq_ok_iff.2 ⟨short, nothing_listed, by simp⟩
  rw [Storage.databases_of_children children, Except.ok.injEq] at listed
  subst listed
  have no_database : ∀ name, store.catalog.hasDatabase name = false := by
    intro name
    cases known : store.catalog.hasDatabase name with
    | false => rfl
    | true => simpa [Catalog.empty, Catalog.hasDatabase] using (loads.databases name).1 known
  have no_table : ∀ ref, store.catalog.tables.find? ref = none := by
    intro ref
    rw [loads.tables ref]
    rfl
  have only_root : ∀ place, (bare.tree.find? place).isSome = true → place = .root := by
    intro place there
    have found : bare.tree.find? place = if Place.root = place then some .directory else none :=
      Index.find?_put ..
    rw [found] at there
    split at there
    · rename_i here
      exact here.symm
    · cases there
  have storage_eq : store.storage = bare := loads.storage
  exact
    { root := by rw [storage_eq]; rfl
      short := by rw [storage_eq]; exact short
      listable := by rw [storage_eq]; exact fun _ => rfl
      spared := by rw [storage_eq]; rfl
      databases := fun name known => by
        rw [no_database name] at known
        cases known
      tables := fun ref table found => by
        rw [no_table ref] at found
        cases found
      nothing_else := by
        rw [storage_eq]
        exact fun place there => .inl (only_root place there) }

/-- Whatever a line does, it keeps a store sound. -/
theorem Sound.effect {before after : Store} {session : Session} {line : Text}
    {result : Except Failure Answer} (keeps : Keeps Fits Allowed) (sound : Sound Fits before)
    (effect : Effect session line before after result)
    (allowed : ∀ table values id, Plan.read line = .ok (.insert table values) →
      result = .ok (.inserted table id) → Allowed values) : Sound Fits after := by
  cases effect with
  | nothing spends catalog quiet =>
      exact sound.congr spends.same (Nat.le_zero.1 (sound.spared ▸ spends.fullLines)) catalog
  | database read valid new created catalog =>
      have word : Text.isWord _ = true := Plan.fits_of_read read
      exact sound.database (isPlainName_of_isWord valid word) created catalog
  | @table database name columns read selected known valid columns_valid new created catalog =>
      obtain ⟨word, trimmed⟩ := Plan.fits_of_read read
      have columns_plain : ∀ column ∈ columns, IsPlainName column := by
        intro column member
        obtain ⟨text, rfl⟩ := trimmed column member
        exact isPlainName_of_trim (columns_valid _ member)
      exact sound.table ⟨database, name⟩ known (isPlainName_of_isWord valid word) rfl rfl
        (keeps.new database name columns columns_plain) created catalog
  | @row database name values entry read selected resolved fits appended catalog =>
      obtain ⟨known, found⟩ := Catalog.resolve_eq_ok_iff.1 resolved
      obtain ⟨-, sound_entry⟩ := sound.tables _ entry found
      have allocator_eq : before.allocatorOf entry = entry.allocator :=
        allocatorOf_of_find? (by rw [sound_entry.ref_eq]; exact found)
      rw [allocator_eq, sound_entry.path_eq] at appended
      rw [allocator_eq, sound_entry.ref_eq] at catalog
      exact sound.row found (fun text text_fits written =>
        keeps.row entry text values text_fits (allowed _ _ _ read rfl) written) appended catalog
  | stranded loses strands catalog => exact absurd sound.spared loses.full

/-- Reachable stores are sound. -/
theorem Reachable.sound {Permits : Text → Except Failure Answer → Prop} {store : Store}
    (keeps : Keeps Fits Allowed)
    (allowed : ∀ line result, Permits line result → ∀ table values id,
      Plan.read line = .ok (.insert table values) → result = .ok (.inserted table id) →
      Allowed values)
    (reachable : Reachable Permits store) : Sound Fits store := by
  induction reachable with
  | start loaded => exact sound_start loaded
  | command strict session line _ permitted ih =>
      exact ih.effect keeps (execute_effect _ strict session line) (allowed line _ permitted)
  | failAppends appends _ ih => exact ih.congr rfl ih.spared rfl

/-! ## A run of one session -/

/-- The store over an empty storage root. -/
def emptyStore : Store :=
  match (ofStorage ⟨"/data".toList, Tree.bare, Troubles.none, Index.empty⟩).load with
  | .ok store => store
  | .error _ => ofStorage ⟨"/data".toList, Tree.bare, Troubles.none, Index.empty⟩

theorem load_emptyStore :
    (ofStorage ⟨"/data".toList, Tree.bare, Troubles.none, Index.empty⟩).load = .ok emptyStore := by
  obtain ⟨store, loaded⟩ :
      ∃ store,
        (ofStorage ⟨"/data".toList, Tree.bare, Troubles.none, Index.empty⟩).load = .ok store :=
    exists_ok_of_isSome (by decide +kernel)
  rw [emptyStore, loaded]

/-- A session that has selected a database. -/
def sampleSession : Session := ⟨1, some "shop".toList⟩

/-- The store after the session has executed some lines. -/
def afterLines (lines : List Text) : Store :=
  lines.foldl (fun store line => (store.execute false sampleSession line).store) emptyStore

theorem reachable_afterLines {Permits : Text → Except Failure Answer → Prop} {lines : List Text}
    (permitted : ∀ line ∈ lines, ∀ result, Permits line result) :
    Reachable Permits (afterLines lines) := by
  have from_here : ∀ store, Reachable Permits store → Reachable Permits
      (lines.foldl (fun store line => (store.execute false sampleSession line).store) store) := by
    induction lines with
    | nil => exact fun _ reachable => reachable
    | cons line rest ih =>
        intro store reachable
        exact ih (fun other member => permitted other (List.mem_cons_of_mem _ member)) _
          (.command false sampleSession line reachable (permitted line List.mem_cons_self _))
  exact from_here emptyStore (.start load_emptyStore)

/-- The lines that create a database and a table of one column. -/
def creatingLines (table : Text) : List Text :=
  ["CREATE DATABASE shop".toList, "CREATE TABLE ".toList ++ table ++ " (a)".toList]

end Store
end FlatStore
