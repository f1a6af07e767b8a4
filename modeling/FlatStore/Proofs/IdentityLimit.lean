import FlatStore.Proofs.Listing
import FlatStore.Proofs.RecoveredTable
import FlatStore.Proofs.TreeOnDisk
import Mathlib.Algebra.Group.Int.Defs
import Mathlib.Algebra.Group.Nat.Defs

/-!
# Identities up to the limit

What is read is within the digit limit, as is what can be written, so an identity that was found in
a file can always be written again.  The identity behind it may be the first one that can not be: it
has one digit more if the greatest identity of a file consists of as many nines as there may be
digits.
-/

namespace FlatStore
namespace Numeral

open Text

theorem isWritable_iff {n : Int} : isWritable n = true ↔ n.natAbs < 10 ^ digitLimit := by
  rw [isWritable, decide_eq_true_iff]
  exact Nat.length_toDigits_le_iff (by decide) (by decide)

theorem isWritable_eq_false_iff {n : Int} : isWritable n = false ↔ 10 ^ digitLimit ≤ n.natAbs := by
  rw [← Bool.not_eq_true, isWritable_iff, Nat.not_lt]

theorem lt_ten_of_mem_digitValues {text : Text} {values : List Nat}
    (read : digitValues? text = some values) : ∀ value ∈ values, value < 10 := by
  fun_induction digitValues? text generalizing values with
  | case1 => cases read
  | case2 c =>
      obtain ⟨value, digit, rfl⟩ := Option.map_eq_some_iff.1 read
      simpa using digitValue?_lt digit
  | case3 c rest ih | case4 c rest _ _ ih =>
      obtain ⟨first, digit, read⟩ := Option.bind_eq_some_iff.1 read
      obtain ⟨others, behind, same⟩ := Option.bind_eq_some_iff.1 read
      cases same
      exact List.forall_mem_cons.2 ⟨digitValue?_lt digit, ih behind⟩

theorem ofDigitValues_concat (values : List Nat) (value : Nat) :
    ofDigitValues (values ++ [value]) = 10 * ofDigitValues values + value := by
  rw [ofDigitValues, List.foldl_concat]
  rfl

/-- Digits make a number below the power of ten with as many zeros. -/
theorem ofDigitValues_lt {values : List Nat} (digits : ∀ value ∈ values, value < 10) :
    ofDigitValues values < 10 ^ values.length := by
  induction values using List.reverseRecOn with
  | nil => exact Nat.one_pos
  | append_singleton values value ih =>
      have before := ih fun other member => digits other (List.mem_append_left _ member)
      have last := digits value (by simp)
      rw [ofDigitValues_concat, List.length_append, List.length_singleton, Nat.pow_succ]
      omega

/-- What was read can be written. -/
theorem isWritable_of_read? {text : Text} {n : Int} (read : read? text = some n) :
    isWritable n = true := by
  rw [isWritable_iff]
  obtain ⟨values, digits, read⟩ := Option.bind_eq_some_iff.1 read
  dsimp only at read
  split at read
  · rename_i short
    have small : ofDigitValues values < 10 ^ digitLimit :=
      Nat.lt_of_lt_of_le (ofDigitValues_lt (lt_ten_of_mem_digitValues digits))
        (Nat.pow_le_pow_right (by decide) short)
    cases read
    split <;> simpa using small
  · cases read

end Numeral

/-- The greatest identity of some rows can be written. -/
theorem isWritable_highestIdentity (rows : List (List Text)) :
    Numeral.isWritable (highestIdentity rows) = true := by
  induction rows with
  | nil => decide
  | cons cells rest ih =>
      rw [highestIdentity]
      rcases Int.le_total ((identity? cells).getD 0) (highestIdentity rest) with behind | first
      · rwa [Int.max_eq_right behind]
      · rw [Int.max_eq_left first]
        cases found : identity? cells with
        | none => decide
        | some id =>
            obtain ⟨cell, -, read⟩ := Option.bind_eq_some_iff.1 found
            exact Numeral.isWritable_of_read? read

/-- The greatest identity with no more digits than the limit. -/
def greatestIdentity : Int := (10 ^ Numeral.digitLimit : Nat) - 1

theorem one_le_greatestIdentity : 1 ≤ greatestIdentity := by
  have ten_le : 10 ≤ 10 ^ Numeral.digitLimit := Nat.le_self_pow (by decide) 10
  rw [greatestIdentity]
  omega

theorem greatestIdentity_nonneg : 0 ≤ greatestIdentity := Int.le_of_lt one_le_greatestIdentity

theorem isWritable_greatestIdentity : Numeral.isWritable greatestIdentity = true := by
  have nonneg := greatestIdentity_nonneg
  rw [Numeral.isWritable_iff]
  rw [greatestIdentity] at nonneg ⊢
  omega

/-- Only behind the greatest identity of all the next one can not be written. -/
theorem Allocator.isWritable_behind_eq_false_iff {rows : List (List Text)} :
    Numeral.isWritable (behind rows).next = false ↔ highestIdentity rows = greatestIdentity := by
  have next : (behind rows).next = highestIdentity rows + 1 := rfl
  have nonneg := highestIdentity_nonneg rows
  have within := Numeral.isWritable_iff.1 (isWritable_highestIdentity rows)
  rw [Numeral.isWritable_eq_false_iff, next, greatestIdentity]
  omega

/-! ## A file with the greatest identity -/

namespace Store

/-- A file whose one row has the greatest identity. -/
def greatestText : Text :=
  Schema.header ⟨["id".toList, "a".toList]⟩ ++
    lineOf [Numeral.integer greatestIdentity, "x".toList]

/-- What is known about its table. -/
def greatestTable : Table :=
  ⟨sampleRef, sampleRef.path, ⟨["id".toList, "a".toList]⟩,
    .behind [[Numeral.integer greatestIdentity, "x".toList]]⟩

theorem isWritable_greatestTable : Numeral.isWritable greatestTable.allocator.next = false := by
  have written : Numeral.write? greatestIdentity = some (Numeral.integer greatestIdentity) :=
    Numeral.write?_eq_some_iff.2 ⟨isWritable_greatestIdentity, rfl⟩
  have highest := highestIdentity_append_row written greatestIdentity_nonneg [] ["x".toList]
  rw [greatestTable, Allocator.isWritable_behind_eq_false_iff]
  exact highest.trans (Int.max_eq_right greatestIdentity_nonneg)

/-! ### Samples of any text -/

variable (text : Text)

theorem onDisk_sample : (sampleStorage text).tree.OnDisk := of_decide_eq_true rfl

theorem contentAt_sample :
    (sampleStorage text).contentAt sampleRef.path = .ok (Utf8.encode text) := rfl

theorem databases_sample : (sampleStorage text).databases [] = .ok ["shop".toList] := by
  have names : (sampleStorage text).tree.childNames .root = ["shop".toList] :=
    List.mergeSort_singleton ..
  have short : ∀ name ∈ ["shop".toList], (sampleStorage text).isTooLong ([] ++ [name]) = false :=
    of_decide_eq_true rfl
  rw [Storage.databases_of_children (Storage.children_of_childNames rfl rfl names rfl short)]
  rfl

theorem tablesIn_sample : (sampleStorage text).tablesIn "shop".toList = [sampleRef] := by
  let shop := Place.root.child "shop".toList
  have names : (sampleStorage text).tree.childNames shop = ["stock.tsv".toList] :=
    List.mergeSort_singleton ..
  have short : ∀ name ∈ ["stock.tsv".toList],
      (sampleStorage text).isTooLong (["shop".toList] ++ [name]) = false :=
    of_decide_eq_true rfl
  rw [Storage.tablesIn_of_children rfl (Storage.children_of_childNames rfl rfl names rfl short)]
  rfl

variable {text}

/-- A sample is loaded with the one table that its file stands for. -/
theorem load_sample_of_table? {table : Table}
    (entry : (sampleStorage text).table? sampleRef = some table) :
    (ofStorage (sampleStorage text)).load = .ok (sampleStore text) ∧
      Loads ["shop".toList] [sampleRef] (ofStorage (sampleStorage text)) (sampleStore text) ∧
      (sampleStore text).catalog.resolve sampleRef.database sampleRef.table = .ok table := by
  have prepares : (ofStorage (sampleStorage text)).storage.prepared =
      .ok (sampleStorage text) := rfl
  obtain ⟨found, loaded⟩ := exists_load prepares (databases_sample text)
  have loaded_sample := load_sample (by rw [loaded]; rfl)
  obtain ⟨storage, names, prepares_too, listed, loads⟩ := load_eq_ok loaded_sample
  rw [prepares, Except.ok.injEq] at prepares_too
  subst prepares_too
  rw [databases_sample, Except.ok.injEq] at listed
  subst listed
  rw [List.flatMap_singleton, tablesIn_sample] at loads
  refine ⟨loaded_sample, loads, Catalog.resolve_eq_ok_iff.2 ⟨?_, ?_⟩⟩
  · exact (loads.databases _).2 (.inl (by simp [sampleRef]))
  · have registered := loads.tables sampleRef
    rwa [if_pos (List.mem_singleton_self _), entry] at registered

/-- The identity behind the greatest one is the next of its table. -/
theorem table?_greatest :
    (sampleStorage greatestText).table? sampleRef = some greatestTable := by
  have header_ends : Text.EndsLine (Schema.header ⟨["id".toList, "a".toList]⟩) :=
    endsLine_lineOf _
  have clean : ∀ value ∈ ["x".toList], IsCell value := by decide
  have stored := contentAt_sample greatestText
  refine Storage.table?_eq_some_iff.2
    ⟨⟨["id".toList, "a".toList]⟩, _, ?_, Storage.rows_of_text stored, ?_⟩
  · rw [Storage.readSchema_of_text stored, greatestText,
      Reading.schema_ofText_append header_ends (head?_lineOf_integer greatestIdentity _)]
    rfl
  · rw [greatestText, Reading.rows_ofText_append_row header_ends greatestIdentity clean]
    rfl

end Store
end FlatStore
