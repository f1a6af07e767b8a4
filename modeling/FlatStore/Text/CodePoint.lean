import FlatStore.Number.Numeral
import FlatStore.Text.Quoted
import FlatStore.Text.Utf8

/-!
# Code points

Written strings can name surrogates, which are code points but no characters.  In a text a
replacement mark stands for each, and only those that stand for a stray octet have a place in the
octets of a path.
-/

namespace FlatStore

/-- A character, or a surrogate without a partner. -/
inductive CodePoint
  | char (c : Char)
  /-- A surrogate, by its UTF-16 unit. -/
  | surrogate (unit : Nat)
deriving DecidableEq, Repr

/-- Neighbouring surrogates that can not be encoded. -/
structure Unencodable where
  /-- Position of the first of them. -/
  position : Nat
  /-- The unit of the first of them. -/
  unit : Nat
  count : Nat
deriving DecidableEq, Repr

namespace CodePoint

/-- The character of a code point; a replacement mark stands for a surrogate. -/
def toChar : CodePoint → Char
  | .char c => c
  | .surrogate _ => Utf8.replacement

/-- Whether a code point is a character. -/
def isChar : CodePoint → Bool
  | .char _ => true
  | .surrogate _ => false

/-- The text of code points. -/
def text (points : List CodePoint) : Text := points.map toChar

@[simp]
theorem length_text (points : List CodePoint) : (text points).length = points.length :=
  List.length_map _

/-- Characters are their own text. -/
@[simp]
theorem text_map_char (chars : Text) : text (chars.map .char) = chars := by
  induction chars with
  | nil => rfl
  | cons c chars ih => simpa [text, toChar] using ih

/-- Whether a surrogate stands for an octet that is part of no character. -/
def standsForOctet (unit : Nat) : Bool := 0xDC80 ≤ unit && unit ≤ 0xDCFF

/-- The first surrogates that can not be encoded, of code points that begin at `position`: one that
stands for no octet, with the surrogates right behind it. -/
def unencodableFrom? (position : Nat) : List CodePoint → Option Unencodable
  | [] => none
  | .char _ :: rest => unencodableFrom? (position + 1) rest
  | .surrogate unit :: rest =>
      if standsForOctet unit then unencodableFrom? (position + 1) rest
      else some ⟨position, unit, 1 + (rest.takeWhile fun point => !point.isChar).length⟩

/-- The first surrogates that can not be encoded. -/
def unencodable? (points : List CodePoint) : Option Unencodable := unencodableFrom? 0 points

/-- Characters can be encoded. -/
@[simp]
theorem unencodableFrom?_map_char (position : Nat) (chars : Text) :
    unencodableFrom? position (chars.map .char) = none := by
  induction chars generalizing position with
  | nil => rfl
  | cons c chars ih => exact ih (position + 1)

end CodePoint

/-- The wording for surrogates that can not be encoded. -/
def Unencodable.message (found : Unencodable) : Text :=
  let subject :=
    if found.count = 1 then
      "character '\\u".toList ++ Text.hexDigits 4 found.unit ++ "' in position ".toList
        ++ Numeral.natural found.position
    else
      "characters in position ".toList ++ Numeral.natural found.position ++ '-'
        :: Numeral.natural (found.position + found.count - 1)
  "'utf-8' codec can't encode ".toList ++ subject ++ ": surrogates not allowed".toList

example :
    CodePoint.unencodable? [.surrogate 0xDC80, .char 'a', .surrogate 0xD800, .surrogate 0xDC80]
      = some ⟨2, 0xD800, 2⟩ := by decide

end FlatStore
