import FlatStore.Proofs.Locality
import FlatStore.Proofs.IdentityLimit
import Mathlib.Data.Nat.Digits.Lemmas

/-!
# How many names there are

Names on a disk are short, so there are only so many of them.  A number of databases or tables has
fewer digits than the limit, however many there are.
-/

namespace FlatStore

/-! ## Texts as numbers -/

namespace Text

/-- The digits of a text: its octets, from one on. -/
def numberDigits (text : Text) : List Nat := (Utf8.encode text).map fun octet => octet.toNat + 1

/-- A text as a number. -/
def number (text : Text) : Nat := Nat.ofDigits 1000 text.numberDigits

theorem lt_of_mem_numberDigits {text : Text} : ∀ digit ∈ text.numberDigits, digit < 1000 := by
  intro digit member
  obtain ⟨octet, -, rfl⟩ := List.mem_map.1 member
  have small := octet.toNat_lt
  omega

theorem digits_number (text : Text) : Nat.digits 1000 text.number = text.numberDigits := by
  refine Nat.digits_ofDigits 1000 (by decide) _ lt_of_mem_numberDigits fun some_digit => ?_
  obtain ⟨octet, -, last⟩ := List.mem_map.1 (List.getLast_mem some_digit)
  rw [← last]
  exact Nat.succ_ne_zero _

/-- Different texts are different numbers. -/
theorem number_injective : Function.Injective number := by
  intro text other same
  have same_digits : text.numberDigits = other.numberDigits := by
    rw [← digits_number, ← digits_number, same]
  have same_octets : Utf8.encode text = Utf8.encode other := by
    refine List.map_injective_iff.2 (fun octet other same => ?_) same_digits
    exact UInt8.toNat_inj.1 (Nat.succ.inj same)
  have decoded := Utf8.decode_encode text
  rw [same_octets, Utf8.decode_encode, Utf8.Decoded.chars.injEq] at decoded
  exact decoded.1.symm

/-- Short names are small numbers. -/
theorem number_lt {text : Text} (short : Utf8.size text ≤ Tree.nameLimit) :
    text.number < 1000 ^ Tree.nameLimit := by
  refine Nat.lt_of_lt_of_le (Nat.ofDigits_lt_base_pow_length (by decide) lt_of_mem_numberDigits) ?_
  rw [numberDigits, List.length_map]
  exact Nat.pow_le_pow_right (by decide) short

end Text

/-! ## Counts -/

/-- As many things as there are pairs of short names at most, if each has a pair of its own. -/
theorem length_le_of_shortNames {α : Type} {items : List α} (nodup : items.Nodup)
    (names : α → Text × Text) (own : Function.Injective names)
    (short : ∀ item ∈ items, Utf8.size (names item).1 ≤ Tree.nameLimit ∧
      Utf8.size (names item).2 ≤ Tree.nameLimit) :
    items.length ≤ 1000 ^ Tree.nameLimit * 1000 ^ Tree.nameLimit := by
  let limit := 1000 ^ Tree.nameLimit
  let numbers (item : α) : Nat × Nat := ((names item).1.number, (names item).2.number)
  have numbers_own : Function.Injective numbers := by
    intro item other same
    obtain ⟨first, second⟩ := Prod.mk.inj same
    exact own (Prod.ext (Text.number_injective first) (Text.number_injective second))
  have inside : items.map numbers ⊆ List.range limit ×ˢ List.range limit := by
    intro pair member
    obtain ⟨item, here, rfl⟩ := List.mem_map.1 member
    obtain ⟨first, second⟩ := short item here
    exact List.pair_mem_product.2
      ⟨List.mem_range.2 (Text.number_lt first), List.mem_range.2 (Text.number_lt second)⟩
  have fewer := ((nodup.map numbers_own).subperm inside).length_le
  rwa [List.length_map, List.length_product, List.length_range] at fewer

/-- Such a number can be written. -/
theorem Numeral.isWritable_of_shortNames {α : Type} {items : List α} (nodup : items.Nodup)
    (names : α → Text × Text) (own : Function.Injective names)
    (short : ∀ item ∈ items, Utf8.size (names item).1 ≤ Tree.nameLimit ∧
      Utf8.size (names item).2 ≤ Tree.nameLimit) :
    isWritable items.length = true := by
  have few := length_le_of_shortNames nodup names own short
  rw [isWritable_iff, Int.natAbs_natCast]
  calc
    items.length ≤ 1000 ^ Tree.nameLimit * 1000 ^ Tree.nameLimit := few
    _ = 10 ^ (3 * Tree.nameLimit + 3 * Tree.nameLimit) := by
      rw [Nat.pow_add, Nat.pow_mul]
    _ < 10 ^ digitLimit := Nat.pow_lt_pow_right (by decide) (by decide)

end FlatStore
