import FlatStore.Text.Basic

/-!
# Capitals

Keywords are compared by their capitals.  Besides `a` to `z` ten characters have ASCII letters as
their capitals, eight of them more than one: the sharp s and the ligatures of small Latin letters.
A character whose capitals are not all ASCII letters can occur in no spelling of a keyword and
stands for itself.
-/

namespace FlatStore
namespace Text

/-- The capitals of a character, as far as they are ASCII letters. -/
def capitalsOf : Char → Text
  | '\u00DF' => "SS".toList
  | '\u0131' => "I".toList
  | '\u017F' => "S".toList
  | '\uFB00' => "FF".toList
  | '\uFB01' => "FI".toList
  | '\uFB02' => "FL".toList
  | '\uFB03' => "FFI".toList
  | '\uFB04' => "FFL".toList
  | '\uFB05' => "ST".toList
  | '\uFB06' => "ST".toList
  | c => [c.toUpper]

/-- A text in capitals. -/
def capitals (text : Text) : Text := text.flatMap capitalsOf

/-- The text spells the keyword in some case of its letters. -/
def spells (keyword text : Text) : Bool := capitals text == keyword

@[simp]
theorem capitals_nil : capitals [] = [] := rfl

@[simp]
theorem capitals_append (left right : Text) :
    capitals (left ++ right) = capitals left ++ capitals right :=
  List.flatMap_append

example : spells "DATABASE".toList "dataBaſe".toList = true := by decide
example : capitals "ﬆyle".toList = "STYLE".toList := by decide

end Text
end FlatStore
