/-!
# Indexes

A finite map, kept as a list of entries in the order in which their keys were first put.  That no
key occurs twice is part of the type.  Everything else is said through `find?`: what a put or a
restriction changes, and what it leaves alone.
-/

namespace FlatStore

/-- A finite map with its entries in the order of first insertion. -/
structure Index (κ α : Type) [DecidableEq κ] where
  entries : List (κ × α)
  nodup : (entries.map Prod.fst).Nodup

namespace Index

variable {κ α : Type} [DecidableEq κ]

/-- The value of the first entry with a key. -/
def lookup (key : κ) : List (κ × α) → Option α
  | [] => none
  | (entryKey, value) :: rest => if entryKey = key then some value else lookup key rest

/-- Replace the value of the first entry with a key, or add an entry at the end. -/
def assign (key : κ) (value : α) : List (κ × α) → List (κ × α)
  | [] => [(key, value)]
  | (entryKey, old) :: rest =>
      if entryKey = key then (key, value) :: rest else (entryKey, old) :: assign key value rest

theorem lookup_assign (key other : κ) (value : α) (entries : List (κ × α)) :
    lookup other (assign key value entries) =
      if key = other then some value else lookup other entries := by
  induction entries with
  | nil => simp [assign, lookup]
  | cons entry rest ih =>
      obtain ⟨entryKey, old⟩ := entry
      by_cases here : entryKey = key
      · subst here
        by_cases same : entryKey = other <;> simp [assign, lookup, same]
      · by_cases same : key = other
        · subst same
          simp [assign, lookup, here, ih]
        · simp [assign, lookup, here, ih, same]

theorem lookup_filter (keep : κ → Bool) (key : κ) (entries : List (κ × α)) :
    lookup key (entries.filter fun entry => keep entry.1) =
      if keep key then lookup key entries else none := by
  induction entries with
  | nil => simp [lookup]
  | cons entry rest ih =>
      obtain ⟨entryKey, old⟩ := entry
      by_cases here : entryKey = key
      · subst here
        by_cases kept : keep entryKey <;> simp_all [lookup]
      · by_cases kept : keep entryKey <;> simp_all [lookup]

theorem lookup_map {β : Type} (change : α → β) (key : κ) (entries : List (κ × α)) :
    lookup key (entries.map fun entry => (entry.1, change entry.2)) =
      (lookup key entries).map change := by
  induction entries with
  | nil => rfl
  | cons entry rest ih =>
      rw [List.map_cons, lookup, lookup, ih]
      split <;> rfl

theorem lookup_isSome_iff {key : κ} {entries : List (κ × α)} :
    (lookup key entries).isSome ↔ key ∈ entries.map Prod.fst := by
  induction entries with
  | nil => simp [lookup]
  | cons entry rest ih =>
      obtain ⟨entryKey, old⟩ := entry
      by_cases here : entryKey = key
      · simp [lookup, here]
      · simp [lookup, here, Ne.symm here, ih]

theorem lookup_eq_none_iff {key : κ} {entries : List (κ × α)} :
    lookup key entries = none ↔ key ∉ entries.map Prod.fst := by
  rw [← lookup_isSome_iff, Option.not_isSome_iff_eq_none]

/-- Entries are determined by their keys in order and the values of the keys. -/
theorem eq_of_lookup {entries others : List (κ × α)} (nodup : (entries.map Prod.fst).Nodup)
    (keys : entries.map Prod.fst = others.map Prod.fst)
    (values : ∀ key, lookup key entries = lookup key others) : entries = others := by
  induction entries generalizing others with
  | nil => exact (List.map_eq_nil_iff.1 keys.symm).symm
  | cons entry rest ih =>
      cases others with
      | nil => cases keys
      | cons first others =>
          obtain ⟨key, value⟩ := entry
          obtain ⟨first_key, first_value⟩ := first
          obtain ⟨same_key, rest_keys⟩ := List.cons_eq_cons.1 keys
          obtain rfl : key = first_key := same_key
          obtain ⟨absent, rest_nodup⟩ := List.nodup_cons.1 nodup
          have same_value : value = first_value := by simpa [lookup] using values key
          have rest_values (other : κ) : lookup other rest = lookup other others := by
            by_cases here : key = other
            · subst here
              rw [lookup_eq_none_iff.2 absent, lookup_eq_none_iff.2 (rest_keys ▸ absent)]
            · simpa only [lookup, if_neg here] using values other
          rw [same_value, ih rest_nodup rest_keys rest_values]

theorem mem_keys_assign {key other : κ} {value : α} {entries : List (κ × α)} :
    other ∈ (assign key value entries).map Prod.fst ↔
      other = key ∨ other ∈ entries.map Prod.fst := by
  rw [← lookup_isSome_iff, ← lookup_isSome_iff, lookup_assign]
  by_cases h : key = other
  · simp [h]
  · simp [h, Ne.symm h]

theorem keys_assign (key : κ) (value : α) (entries : List (κ × α)) :
    (assign key value entries).map Prod.fst =
      if (lookup key entries).isSome then entries.map Prod.fst
      else entries.map Prod.fst ++ [key] := by
  induction entries with
  | nil => rfl
  | cons entry rest ih =>
      by_cases here : entry.1 = key
      · simp [assign, lookup, here]
      · rw [assign, if_neg here, lookup, if_neg here, List.map_cons, List.map_cons, ih]
        split <;> rfl

theorem nodup_assign {key : κ} {value : α} {entries : List (κ × α)}
    (h : (entries.map Prod.fst).Nodup) : ((assign key value entries).map Prod.fst).Nodup := by
  induction entries with
  | nil => simp [assign]
  | cons entry rest ih =>
      obtain ⟨entryKey, old⟩ := entry
      simp only [List.map_cons, List.nodup_cons] at h
      by_cases here : entryKey = key
      · subst here
        simpa [assign] using h
      · simp only [assign, here, if_false, List.map_cons, List.nodup_cons]
        exact ⟨fun member => (mem_keys_assign.1 member).elim here h.1, ih h.2⟩

/-- The map without entries. -/
def empty : Index κ α := ⟨[], List.nodup_nil⟩

instance : Inhabited (Index κ α) := ⟨empty⟩

/-- The keys in the order of first insertion. -/
def keys (index : Index κ α) : List κ := index.entries.map Prod.fst

/-- The values in the order of their keys. -/
def values (index : Index κ α) : List α := index.entries.map Prod.snd

/-- Number of keys. -/
def size (index : Index κ α) : Nat := index.entries.length

/-- The value of a key. -/
def find? (index : Index κ α) (key : κ) : Option α := lookup key index.entries

/-- Whether a key has a value. -/
def contains (index : Index κ α) (key : κ) : Bool := (index.find? key).isSome

/-- Give a key a value: in its old place if it has one, else behind all others. -/
def put (index : Index κ α) (key : κ) (value : α) : Index κ α :=
  ⟨assign key value index.entries, nodup_assign index.nodup⟩

/-- Keep the entries whose keys satisfy a condition. -/
def restrict (index : Index κ α) (keep : κ → Bool) : Index κ α :=
  ⟨index.entries.filter fun entry => keep entry.1,
    index.nodup.sublist (List.filter_sublist.map Prod.fst)⟩

/-- Change the value of a key, if it has one. -/
def modify (index : Index κ α) (key : κ) (change : α → α) : Index κ α :=
  match index.find? key with
  | none => index
  | some value => index.put key (change value)

/-- Put entries one after the other. -/
def ofList (entries : List (κ × α)) : Index κ α :=
  entries.foldl (fun index entry => index.put entry.1 entry.2) empty

theorem nodup_keys (index : Index κ α) : index.keys.Nodup := index.nodup

theorem mem_keys_iff {index : Index κ α} {key : κ} :
    key ∈ index.keys ↔ (index.find? key).isSome :=
  lookup_isSome_iff.symm

/-- An index is its keys in their order with their values. -/
theorem eq_of_find? {index other : Index κ α} (keys : index.keys = other.keys)
    (values : ∀ key, index.find? key = other.find? key) : index = other := by
  have same : index.entries = other.entries := eq_of_lookup index.nodup keys values
  obtain ⟨entries, nodup⟩ := index
  subst same
  rfl

@[simp]
theorem find?_empty (key : κ) : (empty : Index κ α).find? key = none := rfl

/-- A put changes the value of its key and of no other. -/
theorem find?_put (index : Index κ α) (key other : κ) (value : α) :
    (index.put key value).find? other = if key = other then some value else index.find? other :=
  lookup_assign key other value index.entries

@[simp]
theorem find?_put_self (index : Index κ α) (key : κ) (value : α) :
    (index.put key value).find? key = some value := by
  simp [find?_put]

theorem find?_put_of_ne {index : Index κ α} {key other : κ} {value : α} (h : key ≠ other) :
    (index.put key value).find? other = index.find? other := by
  simp [find?_put, h]

/-- A put leaves the keys as they are or adds its own behind them. -/
theorem keys_put (index : Index κ α) (key : κ) (value : α) :
    (index.put key value).keys =
      if index.contains key then index.keys else index.keys ++ [key] :=
  keys_assign key value index.entries

/-- Of two puts at one key only the later one is seen. -/
@[simp]
theorem put_put (index : Index κ α) (key : κ) (value other : α) :
    (index.put key value).put key other = index.put key other := by
  have held : (index.put key value).contains key = true := by simp [contains]
  refine eq_of_find? ?_ fun place => ?_
  · rw [keys_put _ key other, if_pos held, keys_put, keys_put]
  · rw [find?_put, find?_put, find?_put]
    split <;> rfl

/-- To put what is there already changes nothing. -/
theorem put_of_find? {index : Index κ α} {key : κ} {value : α}
    (found : index.find? key = some value) : index.put key value = index := by
  refine eq_of_find? ?_ fun place => ?_
  · rw [keys_put, contains, found]
    rfl
  · rw [find?_put]
    split
    · rename_i here
      rw [← here, found]
    · rfl

/-- A restriction forgets the keys that it does not keep and no other. -/
@[simp]
theorem find?_restrict (index : Index κ α) (keep : κ → Bool) (key : κ) :
    (index.restrict keep).find? key = if keep key then index.find? key else none :=
  lookup_filter keep key index.entries

theorem find?_modify (index : Index κ α) (key other : κ) (change : α → α) :
    (index.modify key change).find? other =
      if key = other then (index.find? key).map change else index.find? other := by
  rw [modify]
  split
  · rename_i absent
    by_cases h : key = other
    · subst h
      simp [absent]
    · simp [h]
  · rename_i value present
    simp [find?_put, present]

end Index
end FlatStore
