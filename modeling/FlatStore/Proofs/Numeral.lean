import FlatStore.Number.Numeral
import FlatStore.Proofs.Trim
import FlatStore.Text.Line

/-!
# Written numerals are read back

An integer within the digit limit is written with ASCII digits and a minus sign at most, and reading
what was written gives the integer.
-/

namespace FlatStore

namespace Text

/-- An ASCII digit has its value. -/
theorem digitValue?_of_isDigit {c : Char} (digit : c.isDigit = true) :
    digitValue? c = some (c.toNat - 48) := by
  have bounds : 48 ≤ c.toNat ∧ c.toNat ≤ 57 := Char.isDigit_iff_toNat.1 digit
  have here : (0x30 ≤ c.toNat ∧ c.toNat < 0x30 + 10) := by omega
  rw [digitValue?, zeroDigits, List.find?_cons, decide_eq_true here]
  rfl

theorem not_isBlank_of_isDigit {c : Char} (digit : c.isDigit = true) : isBlank c = false := by
  have bounds : 48 ≤ c.toNat ∧ c.toNat ≤ 57 := Char.isDigit_iff_toNat.1 digit
  simp only [isBlank]
  grind

end Text

namespace Numeral

open Text

/-- A numeral holds digits and a minus sign at most. -/
theorem isDigit_of_mem_integer {n : Int} {c : Char} (member : c ∈ integer n) :
    c = '-' ∨ c.isDigit = true := by
  rw [integer] at member
  split at member
  · rcases List.mem_cons.1 member with rfl | member
    · exact .inl rfl
    · exact .inr (Nat.isDigit_of_mem_toDigits (by decide) (by decide) member)
  · exact .inr (Nat.isDigit_of_mem_toDigits (by decide) (by decide) member)

theorem integer_ne_nil (n : Int) : integer n ≠ [] := by
  rw [integer]
  split
  · simp
  · exact Nat.toDigits_ne_nil

theorem not_isBlank_of_mem_integer {n : Int} {c : Char} (member : c ∈ integer n) :
    isBlank c = false := by
  rcases isDigit_of_mem_integer member with rfl | digit
  · decide
  · exact not_isBlank_of_isDigit digit

theorem digitValues?_of_isDigit {text : Text} (some_digit : text ≠ [])
    (digits : ∀ c ∈ text, c.isDigit = true) :
    digitValues? text = some (text.map fun c => c.toNat - 48) := by
  fun_induction digitValues? text with
  | case1 => exact absurd rfl some_digit
  | case2 c => simp [digitValue?_of_isDigit (digits c (by simp))]
  | case3 c rest ih => exact absurd (digits '_' (by simp)) (by decide)
  | case4 c rest some_more _ ih =>
      rw [digitValue?_of_isDigit (digits c (by simp)),
        ih (by simpa using some_more) fun d member => digits d (by simp [member])]
      rfl

theorem ofDigitValues_map (text : Text) :
    ofDigitValues (text.map fun c => c.toNat - 48) = Nat.ofDigitChars 10 text 0 := by
  rw [ofDigitValues, List.foldl_map, Nat.ofDigitChars]
  rfl

theorem digitValues?_natural (n : Nat) :
    ∃ values, digitValues? (natural n) = some values ∧
      values.length = (natural n).length ∧ ofDigitValues values = n := by
  refine ⟨_, digitValues?_of_isDigit Nat.toDigits_ne_nil fun c member =>
    Nat.isDigit_of_mem_toDigits (by decide) (by decide) member, List.length_map .., ?_⟩
  rw [ofDigitValues_map, natural, Nat.ofDigitChars_ten_toDigits]

/-- Splitting the sign off a numeral. -/
theorem splitSign_integer (n : Int) :
    splitSign (integer n) = (decide (n < 0), natural n.natAbs) := by
  rw [integer]
  split
  · rename_i negative
    simp [splitSign, negative]
  · rename_i positive
    obtain ⟨c, rest, digits⟩ := List.exists_cons_of_ne_nil
      (Nat.toDigits_ne_nil (n := n.natAbs) (b := 10))
    have digit : c.isDigit = true :=
      Nat.isDigit_of_mem_toDigits (b := 10) (n := n.natAbs) (by decide) (by decide)
        (by rw [digits]; simp)
    rw [natural, digits, splitSign]
    · simp [positive]
    · rintro tail h
      cases h
      cases digit
    · rintro tail h
      cases h
      cases digit

/-- What was written is read back. -/
theorem read?_of_write? {n : Int} {text : Text} (written : write? n = some text) :
    read? text = some n := by
  obtain ⟨writable, rfl⟩ := write?_eq_some_iff.1 written
  have margin : ∀ c ∈ integer n, isMargin c = false := by
    intro c member
    rw [isMargin, not_isBlank_of_mem_integer member, Bool.false_and]
  obtain ⟨values, digits, length_eq, value⟩ := digitValues?_natural n.natAbs
  have short : values.length ≤ digitLimit := by
    rw [length_eq]
    exact of_decide_eq_true writable
  rw [read?, trimBoth_of_forall margin, splitSign_integer]
  simp only [digits, Option.bind_eq_bind, Option.bind_some, short, if_true, value]
  by_cases negative : n < 0
  · have magnitude : -(n.natAbs : Int) = n := by omega
    rw [if_pos (decide_eq_true negative), magnitude]
    rfl
  · have magnitude : (n.natAbs : Int) = n := by omega
    have not_negative : decide (n < 0) ≠ true := by simpa using negative
    rw [if_neg not_negative, magnitude]
    rfl

end Numeral
end FlatStore
