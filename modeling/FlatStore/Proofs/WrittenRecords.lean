import FlatStore.Proofs.IdentityLimit
import FlatStore.Telemetry.Event

/-!
# Records that can be written

A record has a line unless one of its fields holds an integer with too many digits.  The fields of
an event have names of their own, so the logger writes all of them as they are, and of all events
only those that hold a number can lack a line.
-/

namespace FlatStore

/-! ## Members -/

namespace Members

theorem set_of_new {members : Members} {name : Text} (new : name ∉ members.map Prod.fst)
    (value : Json) : members.set name value = members ++ [(name, value)] := by
  rw [set, if_neg]
  intro found
  obtain ⟨member, here, same⟩ := List.any_eq_true.1 found
  exact new (beq_iff_eq.1 same ▸ List.mem_map_of_mem here)

/-- Members with new names are put behind the others. -/
theorem merge_of_new {members others : Members}
    (distinct : ((members ++ others).map Prod.fst).Nodup) :
    members.merge others = members ++ others := by
  induction others generalizing members with
  | nil => rw [merge, List.foldl_nil, List.append_nil]
  | cons member rest ih =>
      have new : member.1 ∉ members.map Prod.fst := by
        rw [List.map_append, List.map_cons, List.nodup_append] at distinct
        exact fun here => distinct.2.2 _ here _ List.mem_cons_self rfl
      rw [List.append_cons] at distinct ⊢
      rw [merge, List.foldl_cons, set_of_new new]
      exact ih distinct

end Members

namespace Json

/-- An object has a line if and only if all its values have one. -/
theorem isSome_writeMembers?_iff {members : Members} :
    (writeMembers? members).isSome = true ↔
      ∀ member ∈ members, (write? member.2).isSome = true := by
  induction members with
  | nil => simp [writeMembers?]
  | cons member rest ih =>
      obtain ⟨name, value⟩ := member
      rw [List.forall_mem_cons, ← ih, writeMembers?]
      cases write? value <;> cases writeMembers? rest <;> simp

theorem isSome_write?_object_iff {members : Members} :
    (write? (.object members)).isSome = true ↔
      ∀ member ∈ members, (write? member.2).isSome = true := by
  rw [write?, ← isSome_writeMembers?_iff]
  cases writeMembers? members <;> simp

theorem isSome_write?_int {n : Int} :
    (write? (.int n)).isSome = true ↔ Numeral.isWritable n = true := by
  rw [write?, Numeral.write?]
  split <;> simp_all

theorem isSome_write?_string (text : Text) : (write? (.string text)).isSome = true := by
  rw [write?]
  rfl

theorem isSome_write?_ofText? (text : Option Text) :
    (write? (ofText? text)).isSome = true := by
  cases text with
  | none =>
      rw [ofText?, write?]
      rfl
  | some text => exact isSome_write?_string text

end Json

/-! ## Records -/

namespace Record

/-- The names with a meaning for the logger. -/
def ownNames : List Text := ["event".toList, "level".toList] ++ unwritten

/-- All fields are written under their names. -/
structure Plain (fields : Members) : Prop where
  distinct : (fields.map Prod.fst).Nodup
  free : ∀ name ∈ fields.map Prod.fst, name ∉ ownNames

theorem members_of_plain {record : Record} (plain : Plain record.fields) :
    record.members = record.fields ++
      [("event".toList, .string record.event), ("level".toList, .string record.level.label)] := by
  have kept : (record.fields.filter fun field => !unwritten.contains field.1) = record.fields := by
    refine List.filter_eq_self.2 fun field member => ?_
    have free := plain.free _ (List.mem_map_of_mem member)
    simp only [ownNames, List.mem_append, not_or] at free
    simpa using free.2
  have no_event : "event".toList ∉ record.fields.map Prod.fst :=
    fun member => plain.free _ member (by decide)
  have no_level : "level".toList ∉
      (record.fields ++ [("event".toList, Json.string record.event)]).map Prod.fst := by
    rw [List.map_append, List.mem_append, not_or]
    exact ⟨fun member => plain.free _ member (by decide), by simp⟩
  rw [members, kept]
  rw [Members.set_of_new no_event, Members.set_of_new no_level, List.append_assoc]
  rfl

/-- A record in no context has a line if and only if all its fields have a written form. -/
theorem isSome_line?_iff {record : Record} (plain : Plain record.fields) :
    (record.within []).line?.isSome = true ↔
      ∀ field ∈ record.fields, (field.2.write?).isSome = true := by
  have same : record.within [] = record := by
    rw [within, Members.merge_of_new (by simpa using plain.distinct), List.nil_append]
  rw [same, line?, Json.isSome_write?_object_iff, members_of_plain plain]
  simp [or_imp, forall_and, Json.isSome_write?_string]

end Record

/-! ## Events -/

namespace Event

/-- All that is recorded of an event has a written form. -/
def IsWritable (event : Event) : Prop := ∀ field ∈ event.fields, (field.2.write?).isSome = true

theorem isWritable_identityRecovered {table : Text} {next : Int} :
    (identityRecovered table next).IsWritable ↔ Numeral.isWritable next = true := by
  simp [IsWritable, fields, Json.isSome_write?_string, Json.isSome_write?_int]

theorem isWritable_loaded {databases tables : Nat} :
    (loaded databases tables).IsWritable ↔
      Numeral.isWritable databases = true ∧ Numeral.isWritable tables = true := by
  simp [IsWritable, fields, Json.ofNat, Json.isSome_write?_int]

/-- Some events of which only texts are recorded. -/
inductive OfTexts : Event → Prop
  | loading (root : Text) : OfTexts (.loading root)
  | tableSkipped (ref : TableRef) (error : StoreError) : OfTexts (.tableSkipped ref error)
  | listingFailed (database reason : Text) : OfTexts (.listingFailed database reason)
  | unreadableIdentity (table : Text) (cell : Option Text) :
      OfTexts (.unreadableIdentity table cell)

theorem OfTexts.isWritable {event : Event} (texts : event.OfTexts) : event.IsWritable := by
  cases texts <;> simp [IsWritable, fields, Json.isSome_write?_string, Json.isSome_write?_ofText?]

/-- The names of the fields of all events. -/
def fieldNames : List (List Text) :=
  [["root"], ["table", "kind", "error"], ["database", "error"], ["table", "value"],
    ["table", "next_id"], ["databases", "tables"], ["database"], ["table", "columns"],
    ["table", "column"], ["table", "clause"], ["command"], ["rows", "message"], ["kind", "error"],
    [], ["timeout"], ["error"], ["host", "port"]].map fun names => names.map String.toList

theorem plain_fields (event : Event) : Record.Plain event.fields := by
  have known : event.fields.map Prod.fst ∈ fieldNames := by
    cases event <;> simp [fields, fieldNames]
  have plain : ∀ names ∈ fieldNames, names.Nodup ∧ ∀ name ∈ names, name ∉ Record.ownNames := by
    decide
  exact ⟨(plain _ known).1, (plain _ known).2⟩

end Event

/-- A logger without context can write what it keeps of some events. -/
theorem Logger.canWrite_iff {threshold : Level} {events : List Event} :
    (Logger.mk threshold []).canWrite ((events.map (⟨·, none⟩)).map Notice.record) = true ↔
      ∀ event ∈ events, threshold.rank ≤ event.level.rank → event.IsWritable := by
  simp only [canWrite, kept, keeps, List.all_eq_true, List.mem_map, List.mem_filter,
    decide_eq_true_eq, List.map_map]
  constructor
  · intro writes event member reached
    have written := writes _ ⟨_, ⟨⟨event, member, rfl⟩, reached⟩, rfl⟩
    exact (Record.isSome_line?_iff event.plain_fields).1 written
  · rintro writable _ ⟨_, ⟨⟨event, member, rfl⟩, reached⟩, rfl⟩
    exact (Record.isSome_line?_iff event.plain_fields).2 (writable event member reached)

end FlatStore
