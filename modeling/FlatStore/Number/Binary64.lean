import FlatStore.Text.Blank
import FlatStore.Number.Numeral

/-!
# Double-precision numbers

A finite double is `mantissa * 2 ^ exponent` with a mantissa below `2 ^ 53`.  Decimals are rounded
to the nearest double, a tie to the even mantissa.  A double is written with the fewest digits
that read back as itself, and of those with the nearest, a tie to the even digit.
-/

namespace FlatStore

/-- A double-precision number. -/
inductive Binary64
  /-- `mantissa * 2 ^ exponent`, negated or not. -/
  | finite (negative : Bool) (mantissa : Nat) (exponent : Int)
  | infinite (negative : Bool)
  | nan
deriving DecidableEq, Repr

namespace Binary64

/-- A power of two. -/
def twoTo (exponent : Nat) : Nat := Nat.pow 2 exponent

/-- A power of ten. -/
def tenTo (exponent : Nat) : Nat := Nat.pow 10 exponent

/-- The least exponent of a double. -/
def leastExponent : Int := -1074

/-- The greatest exponent of a double. -/
def greatestExponent : Int := 971

/-- Zero. -/
def zero (negative : Bool) : Binary64 := .finite negative 0 leastExponent

/-- The quotient of two naturals, rounded to the nearest, a tie to the even one. -/
def roundedQuotient (numerator denominator : Nat) : Nat :=
  let quotient := numerator / denominator
  let twice := 2 * (numerator % denominator)
  if twice < denominator then quotient
  else if denominator < twice then quotient + 1
  else quotient + quotient % 2

/-- The double nearest to a positive quotient. -/
def ofQuotient (negative : Bool) (numerator denominator : Nat) : Binary64 :=
  let guess : Int := (numerator.log2 : Int) - denominator.log2 - 53
  let scaled (exponent : Int) : Nat :=
    if 0 ≤ exponent then roundedQuotient numerator (denominator * twoTo exponent.toNat)
    else roundedQuotient (numerator * twoTo (-exponent).toNat) denominator
  let fits (exponent : Int) : Bool := leastExponent ≤ exponent && scaled exponent ≤ twoTo 53
  let exponents := [guess, guess + 1, guess + 2, guess + 3, leastExponent]
  match exponents.find? fits with
  | none => .infinite negative
  | some exponent =>
      let mantissa := scaled exponent
      let (mantissa, exponent) :=
        if mantissa = twoTo 53 then (twoTo 52, exponent + 1) else (mantissa, exponent)
      if exponent > greatestExponent then .infinite negative else .finite negative mantissa exponent

/-- The double nearest to `digits * 10 ^ scale`. -/
def ofDecimal (negative : Bool) (digits : Nat) (scale : Int) : Binary64 :=
  let magnitude : Int := (Numeral.natural digits).length + scale
  if digits = 0 || magnitude < -400 then zero negative
  else if magnitude > 400 then .infinite negative
  else if 0 ≤ scale then ofQuotient negative (digits * tenTo scale.toNat) 1
  else ofQuotient negative digits (tenTo (-scale).toNat)

/-- Whether the number is greater than zero. -/
def isPositive : Binary64 → Bool
  | .finite negative mantissa _ => !negative && mantissa != 0
  | .infinite negative => !negative
  | .nan => false

/-- Read the digits of an unsigned decimal with an optional point and exponent: all digits as one
number and the power of ten that it is multiplied with. -/
def readDecimal? (text : Text) : Option (Nat × Int) := do
  let whole := text.takeWhile Char.isDigit
  let rest := text.dropWhile Char.isDigit
  let (fraction, rest) := match rest with
    | '.' :: rest => (rest.takeWhile Char.isDigit, rest.dropWhile Char.isDigit)
    | rest => ([], rest)
  guard (!(whole ++ fraction).isEmpty)
  let exponent ← match rest with
    | [] => some 0
    | c :: rest =>
        if c = 'e' || c = 'E' then
          let (negative, digits) := Numeral.splitSign rest
          if !digits.isEmpty && digits.all Char.isDigit then
            let magnitude : Int := Nat.ofDigitChars 10 digits 0
            some (if negative then -magnitude else magnitude)
          else none
        else none
  return (Nat.ofDigitChars 10 (whole ++ fraction) 0, exponent - fraction.length)

/-- Read a number: a decimal, or the name of an infinity or of no number, with an optional sign. -/
def read? (text : Text) : Option Binary64 :=
  let (negative, rest) := Numeral.splitSign text
  let name := rest.map Char.toLower
  if name = "inf".toList || name = "infinity".toList then some (.infinite negative)
  else if name = "nan".toList then some .nan
  else (readDecimal? rest).map fun (digits, scale) => ofDecimal negative digits scale

/-- Positive number `mantissa * 2 ^ exponent`, as a quotient of naturals. -/
def quotient (mantissa : Nat) (exponent : Int) : Nat × Nat :=
  if 0 ≤ exponent then (mantissa * twoTo exponent.toNat, 1) else (mantissa, twoTo (-exponent).toNat)

/-- How many digits stand before the point; not positive for a number below one tenth. -/
def pointPlace (mantissa : Nat) (exponent : Int) : Int :=
  let (numerator, denominator) := quotient mantissa exponent
  (Numeral.natural (numerator * tenTo 400 / denominator)).length - 400

/-- The two naturals around a quotient, the nearer one first; of two equally near the even one. -/
def nearerFirst (numerator denominator : Nat) : List Nat :=
  let below := numerator / denominator
  if roundedQuotient numerator denominator = below then [below, below + 1] else [below + 1, below]

/-- Of the two decimals of `count` digits around the number, the nearer one that reads back. -/
def neighbour? (mantissa : Nat) (exponent : Int) (count : Nat) : Option (Nat × Int) :=
  let scale := pointPlace mantissa exponent - count
  let (numerator, denominator) := quotient mantissa exponent
  let (numerator, denominator) :=
    if 0 ≤ scale then (numerator, denominator * tenTo scale.toNat)
    else (numerator * tenTo (-scale).toNat, denominator)
  ((nearerFirst numerator denominator).find? fun digits =>
    ofDecimal false digits scale = .finite false mantissa exponent).map (·, scale)

/-- The fewest digits that read back as the number, and their power of ten. -/
def shortest (mantissa : Nat) (exponent : Int) : Nat × Int :=
  (((List.range 17).map (· + 1)).findSome? (neighbour? mantissa exponent)).getD (0, 0)

/-- Write digits with the point at a place: positional from 10⁻⁴ up to 10¹⁶, else with an exponent
of two digits at least.  At least one digit follows the point of a positional number. -/
def layOut (digits : Text) (place : Int) : Text :=
  if -4 < place && place ≤ 16 then
    if place ≤ 0 then "0.".toList ++ List.replicate (-place).toNat '0' ++ digits
    else if digits.length ≤ place.toNat then
      digits ++ List.replicate (place.toNat - digits.length) '0' ++ ".0".toList
    else digits.take place.toNat ++ '.' :: digits.drop place.toNat
  else
    let power := Numeral.natural (place - 1).natAbs
    digits.take 1 ++ (if digits.length ≤ 1 then [] else '.' :: digits.drop 1)
      ++ 'e' :: (if place ≤ 0 then '-' else '+')
      :: (if power.length < 2 then '0' :: power else power)

/-- The text of a number. -/
def text : Binary64 → Text
  | .nan => "nan".toList
  | .infinite negative => if negative then "-inf".toList else "inf".toList
  | .finite negative mantissa exponent =>
      let unsigned :=
        if mantissa = 0 then "0.0".toList
        else
          let (digits, scale) := shortest mantissa exponent
          let written := Numeral.natural digits
          layOut (Text.trimEnd (· = '0') written) (written.length + scale)
      if negative then '-' :: unsigned else unsigned

end Binary64
end FlatStore
