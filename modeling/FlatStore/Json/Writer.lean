import FlatStore.Json.Basic
import FlatStore.Text.Quoted

/-!
# Writing JSON

The one-line form of a value: a blank after each comma and colon, and every character outside
ASCII escaped by its UTF-16 units.  A value that holds an integer beyond the digit limit has no
written form.
-/

namespace FlatStore
namespace Json

open Text

/-- Escape for one UTF-16 unit. -/
def escapedUnit (unit : Nat) : Text := '\\' :: 'u' :: hexDigits 4 unit

/-- One character of a string. -/
def escapedChar (c : Char) : Text :=
  let n := c.toNat
  if c = '"' then ['\\', '"']
  else if c = '\\' then ['\\', '\\']
  else if c = '\n' then ['\\', 'n']
  else if c = '\r' then ['\\', 'r']
  else if c = '\t' then ['\\', 't']
  else if n = 12 then ['\\', 'f']
  else if n = 8 then ['\\', 'b']
  else if 32 ≤ n && n < 127 then [c]
  else if n < 0x10000 then escapedUnit n
  else escapedUnit (0xD800 + (n - 0x10000) / 0x400) ++ escapedUnit (0xDC00 + (n - 0x10000) % 0x400)

/-- A string between its marks. -/
def stringText (text : Text) : Text := '"' :: text.flatMap escapedChar ++ ['"']

/-- One code point of a string. -/
def escapedPoint : CodePoint → Text
  | .char c => escapedChar c
  | .surrogate unit => escapedUnit unit

/-- A string of code points between its marks. -/
def pointsText (points : List CodePoint) : Text := '"' :: points.flatMap escapedPoint ++ ['"']

/-- A double: its shortest text, or the name of an infinity or of no number. -/
def realText : Binary64 → Text
  | .nan => "NaN".toList
  | .infinite negative => if negative then "-Infinity".toList else "Infinity".toList
  | number => number.text

mutual

/-- The written form of a value, if all its integers are within the digit limit. -/
def write? : Json → Option Text
  | .null => some "null".toList
  | .bool value => some (if value then "true".toList else "false".toList)
  | .int value => Numeral.write? value
  | .real value => some (realText value)
  | .string value => some (stringText value)
  | .unpaired points => some (pointsText points)
  | .list items => do
      let parts ← writeItems? items
      return '[' :: join [',', ' '] parts ++ [']']
  | .object members => do
      let parts ← writeMembers? members
      return '{' :: join [',', ' '] parts ++ ['}']

/-- The written forms of the items of an array. -/
def writeItems? : List Json → Option (List Text)
  | [] => some []
  | item :: rest => do
      let part ← write? item
      return part :: (← writeItems? rest)

/-- The written forms of the members of an object. -/
def writeMembers? : List (Text × Json) → Option (List Text)
  | [] => some []
  | (name, value) :: rest => do
      let part ← write? value
      return (stringText name ++ [':', ' '] ++ part) :: (← writeMembers? rest)

end

end Json
end FlatStore
