import FlatStore.Text.Basic

/-!
# Names

Names of databases, tables and columns become names of directories and files and cells of a header
line, so they are limited to ASCII letters, digits, the underscore and the hyphen.  One line feed
is let through at the end of a name.
-/

namespace FlatStore

/-- Whether a character may occur anywhere in a name. -/
def isNameChar (c : Char) : Bool := c.isAlphanum || c = '_' || c = '-'

/-- The text without one line feed at its end. -/
def withoutLineFeed (text : Text) : Text :=
  if text.getLast? = some '\n' then text.dropLast else text

/-- Whether a text may name a database, a table or a column. -/
def isName (text : Text) : Bool :=
  let body := withoutLineFeed text
  !body.isEmpty && body.all isNameChar

example : isName "t_1-b\n".toList = true := by decide
example : isName "\n".toList = false := by decide
example : isName "a\n\n".toList = false := by decide

end FlatStore
