import FlatStore.Text.Basic

/-!
# Lines

A line ends with a line feed, a carriage return, or a carriage return and a line feed.  A carriage
return in the last place is settled as an end only once it is known that no line feed follows, so
cutting takes a flag that says whether the text is complete.
-/

namespace FlatStore
namespace Text

/-- The lines of a text, without their ends.  Of a complete text the last line needs no end; of an
incomplete one only the lines whose end is settled are given. -/
def lines (complete : Bool) : Text → List Text
  | [] => []
  | '\n' :: rest => [] :: lines complete rest
  | '\r' :: '\n' :: rest => [] :: lines complete rest
  | ['\r'] => if complete then [[]] else []
  | '\r' :: rest => [] :: lines complete rest
  | c :: rest =>
      match lines complete rest with
      | [] => if complete then [[c]] else []
      | line :: more => (c :: line) :: more

/-- Whether a character belongs to the end of a line. -/
def isLineEnd (c : Char) : Bool := c = '\r' || c = '\n'

/-- Remove the line ends at the end of a text. -/
def trimLineEnd (text : Text) : Text := trimEnd isLineEnd text

example : lines true "a\r\nb\rc\n\nd".toList = ["a", "b", "c", "", "d"].map String.toList := by
  decide
example : lines false "a\nb\r".toList = [['a']] := by decide

end Text
end FlatStore
