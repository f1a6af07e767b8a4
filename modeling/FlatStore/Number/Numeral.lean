import FlatStore.Text.Blank
import FlatStore.Text.Digit

/-!
# Numerals

Reading and writing of integers in decimal.  Both refuse numbers of more than 4300 digits.  A
numeral may have blanks around it, a sign, digits of any script and single underscores between
digits; it is written with ASCII digits and a minus sign at most.
-/

namespace FlatStore
namespace Numeral

open Text

/-- The greatest number of digits that is read or written. -/
def digitLimit : Nat := 4300

/-- The decimal digits of a natural number. -/
def natural (n : Nat) : Text := Nat.toDigits 10 n

/-- The decimal text of an integer of any size. -/
def integer (n : Int) : Text :=
  if n < 0 then '-' :: natural n.natAbs else natural n.natAbs

/-- Whether an integer has no more digits than the limit. -/
def isWritable (n : Int) : Bool := (natural n.natAbs).length ≤ digitLimit

/-- The decimal text of an integer within the limit. -/
def write? (n : Int) : Option Text := if isWritable n then some (integer n) else none

/-- Blanks that may stand around a numeral: the information separators are not among them. -/
def isMargin (c : Char) : Bool := isBlank c && !(28 ≤ c.toNat && c.toNat ≤ 31)

/-- The values of digits that have at most one underscore between neighbours. -/
def digitValues? : Text → Option (List Nat)
  | [] => none
  | [c] => (digitValue? c).map ([·])
  | c :: '_' :: rest => do
      let value ← digitValue? c
      return value :: (← digitValues? rest)
  | c :: rest => do
      let value ← digitValue? c
      return value :: (← digitValues? rest)

/-- The number that digit values make, the most significant first. -/
def ofDigitValues (values : List Nat) : Nat := values.foldl (fun n value => 10 * n + value) 0

/-- Split off the sign: whether it is a minus, and what follows. -/
def splitSign : Text → Bool × Text
  | '-' :: rest => (true, rest)
  | '+' :: rest => (false, rest)
  | text => (false, text)

/-- Read an integer. -/
def read? (text : Text) : Option Int := do
  let (negative, digits) := splitSign (trimBoth isMargin text)
  let values ← digitValues? digits
  if values.length ≤ digitLimit then
    let magnitude : Int := ofDigitValues values
    return if negative then -magnitude else magnitude
  else none

/-- Wording for a number that has too many digits to be written. -/
def tooLongMessage : Text :=
  "Exceeds the limit (".toList ++ natural digitLimit
    ++ " digits) for integer string conversion; ".toList
    ++ "use sys.set_int_max_str_digits() to increase the limit".toList

theorem write?_eq_some_iff {n : Int} {text : Text} :
    write? n = some text ↔ isWritable n = true ∧ integer n = text := by
  rw [write?]
  split <;> simp_all

theorem write?_eq_none_iff {n : Int} : write? n = none ↔ isWritable n = false := by
  rw [write?]
  split <;> simp_all

example : read? " +1_0 ".toList = some 10 := by decide
example : read? "1__0".toList = none := by decide
example : read? "\u2003-٣".toList = some (-3) := by decide

end Numeral
end FlatStore
