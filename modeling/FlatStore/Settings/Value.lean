import FlatStore.Json.Basic
import FlatStore.Settings.Basic
import FlatStore.Text.Cut

/-!
# Values of settings

How a JSON value, most often a string from the environment, is taken as an integer, a number, a
truth value, a choice, a path or a text.
-/

namespace FlatStore
namespace Setting

/-! ## Integers in writing -/

/-- What follows a minus at the start of a text, or all of it. -/
def behindMinus : Text → Text
  | '-' :: rest => rest
  | text => text

/-- Whether a text begins, perhaps behind a minus, with a numeral of too many digits. -/
def beginsTooLong (text : Text) : Bool :=
  let digits := (behindMinus text).takeWhile Char.isDigit
  digits.head? != some '0' && Numeral.digitLimit < digits.length

/-- The integer of a plain numeral: a minus at most and then digits, the first of which is no zero
unless it is the only one. -/
def plainInteger? (text : Text) : Option Int :=
  let digits := behindMinus text
  if digits.isEmpty || !digits.all Char.isDigit || Numeral.digitLimit < digits.length then none
  else if digits.head? = some '0' && digits.length ≠ 1 then none
  else
    let magnitude : Int := Nat.ofDigitChars 10 digits 0
    some (if text.head? = some '-' then -magnitude else magnitude)

/-- Drop zeros and underscores behind a first zero, up to another digit or a minus.  In front of a
point or at the end the last of them, which is `last`, stays. -/
def behindZeros? (last : Char) : Text → Option Text
  | [] => some [last]
  | c :: rest =>
      if c = '0' || c = '_' then behindZeros? c rest
      else if c = '.' then some (last :: c :: rest)
      else if c.isDigit || c = '-' then some (c :: rest)
      else none

/-- Drop leading zeros with the underscores among them.  The text must begin with a digit or a
minus. -/
def withoutZeros? : Text → Option Text
  | [] => none
  | c :: rest =>
      if c = '0' then behindZeros? c rest
      else if c.isDigit || c = '-' then some (c :: rest)
      else none

/-- Drop a point with nothing but zeros behind it, of which there must be one at least. -/
def withoutFraction (text : Text) : Text :=
  match Text.behind? '.' text with
  | some (c :: rest) => if (c :: rest).all (· = '0') then Text.upTo '.' text else text
  | _ => text

/-- Remove single underscores that stand between other characters. -/
def withoutUnderscores? (text : Text) : Option Text :=
  let parts := Text.cutAt '_' text
  if parts.all fun part => !part.isEmpty then some parts.flatten else none

/-- A numeral without leading zeros, a fraction of zeros and single underscores. -/
def tidiedDigits? (text : Text) : Option Text :=
  (withoutZeros? text).map fun digits =>
    let whole := withoutFraction digits
    (withoutUnderscores? whole).getD whole

/-- A numeral in plain form, if it can be brought to one: blanks around it and a plus are
dropped. -/
def tidied? (text : Text) : Option Text :=
  match Text.trimBoth Numeral.isMargin text with
  | '-' :: digits => (tidiedDigits? digits).map ('-' :: ·)
  | '+' :: digits => if digits.head? = some '-' then none else tidiedDigits? digits
  | digits => tidiedDigits? digits

/-- The integer that a text stands for. -/
def readInteger (text : Text) : Except SettingFlaw Int :=
  if beginsTooLong text then .error .tooLong
  else
    match plainInteger? text <|> (tidied? text).bind plainInteger? with
    | some n => .ok n
    | none => .error .noInteger

example : (readInteger "-0__8_0.00 ".toList).toOption = some (-80) := by decide
example : (readInteger "0-5".toList).toOption = some (-5) := by decide
example : (readInteger "1.".toList).toOption = none := by decide

/-! ## Other values in writing -/

/-- A number, perhaps with blanks around it or single underscores inside. -/
def number? (text : Text) : Option Binary64 :=
  Binary64.read? (Text.trimBoth Numeral.isMargin text)
    <|> (withoutUnderscores? text).bind Binary64.read?

/-- The words for a truth value. -/
def boolean? (text : Text) : Option Bool :=
  let word := text.map Char.toLower
  if ["1", "on", "t", "true", "y", "yes"].any (·.toList == word) then some true
  else if ["0", "off", "f", "false", "n", "no"].any (·.toList == word) then some false
  else none

/-- The integer that a finite double is equal to, if there is one. -/
def integral? : Binary64 → Option Int
  | .finite negative mantissa exponent =>
      let (numerator, denominator) := Binary64.quotient mantissa exponent
      if numerator % denominator = 0 then
        let magnitude : Int := (numerator / denominator : Nat)
        some (if negative then -magnitude else magnitude)
      else none
  | _ => none

/-! ## Values of every kind -/

/-- Integers at least this great in magnitude are not taken from doubles or as truth values. -/
def wordBound : Nat := Binary64.twoTo 63

/-- Take a value as an integer. -/
def asInteger : Json → Except SettingFlaw Int
  | .string text => readInteger text
  | .unpaired _ => .error .noUnicode
  | .int value => .ok value
  | .bool value => .ok (if value then 1 else 0)
  | .real (.finite negative mantissa exponent) =>
      match integral? (.finite negative mantissa exponent) with
      | none => .error .fractional
      | some value => if value.natAbs < wordBound then .ok value else .error .tooLong
  | .real _ => .error .notFinite
  | _ => .error (.wrongKind "int".toList)

/-- Take a value as an integer between two bounds. -/
def asIntegerWithin (least greatest : Int) (value : Json) : Except SettingFlaw Int := do
  let n ← asInteger value
  if n < least then .error .tooSmall
  else if greatest < n then .error .tooGreat
  else return n

/-- Take a value as a number: an integer must not be rounded to an infinity. -/
def asNumber : Json → Except SettingFlaw Binary64
  | .string text => (number? text).elim (.error .noNumber) .ok
  | .unpaired _ => .error .noUnicode
  | .int value =>
      match Binary64.ofDecimal (value < 0) value.natAbs 0 with
      | .infinite _ => .error (.wrongKind "float".toList)
      | number => .ok number
  | .bool value => .ok (Binary64.ofDecimal false (if value then 1 else 0) 0)
  | .real value => .ok value
  | _ => .error (.wrongKind "float".toList)

/-- Take a value as a number greater than zero. -/
def asPositive (value : Json) : Except SettingFlaw Binary64 := do
  let number ← asNumber value
  if number.isPositive then return number else .error .notAbove

/-- Take an integer as a truth value. -/
def booleanOf (value : Int) : Except SettingFlaw Bool :=
  if value = 1 then .ok true else if value = 0 then .ok false else .error .noBoolean

/-- Take a value as a truth value. -/
def asBoolean : Json → Except SettingFlaw Bool
  | .string text => (boolean? text).elim (.error .noBoolean) .ok
  | .unpaired _ => .error .noUnicode
  | .bool value => .ok value
  | .int value =>
      if -(wordBound : Int) ≤ value && value < wordBound then booleanOf value
      else .error (.wrongKind "bool".toList)
  | .real number =>
      match integral? number with
      | some value =>
          if value.natAbs < wordBound then booleanOf value else .error (.wrongKind "bool".toList)
      | none => .error (.wrongKind "bool".toList)
  | _ => .error (.wrongKind "bool".toList)

/-- Take a value as one of the names in a list. -/
def asChoice {α : Type} (choices : List α) (label : α → Text) : Json → Except SettingFlaw α
  | .string text => (choices.find? (label · == text)).elim (.error .noChoice) .ok
  | .unpaired _ => .error .noUnicode
  | _ => .error .noChoice

/-- Take a value as a path. -/
def asPath : Json → Except SettingFlaw WrittenPath
  | .string text => .ok (.ofText text)
  | .unpaired points => .ok (.ofPoints points)
  | _ => .error (.wrongKind "path".toList)

/-- Take a value as a text. -/
def asText : Json → Except SettingFlaw Text
  | .string text => .ok text
  | .unpaired points => .ok (CodePoint.text points)
  | _ => .error (.wrongKind "string".toList)

/-- Take a value that may be absent. -/
def optionally {α : Type} (read : Json → Except SettingFlaw α) :
    Json → Except SettingFlaw (Option α)
  | .null => .ok none
  | value => (read value).map some

end Setting
end FlatStore
