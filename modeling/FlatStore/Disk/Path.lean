import FlatStore.Text.Cut
import FlatStore.Text.Utf8

/-!
# Paths

A path lists the names on the way to a place; in writing they are separated by slashes.  A written
path that begins with a slash starts at the root of all files, any other one at a working directory.
-/

namespace FlatStore

/-- The names on the way to a place.  The name `..` leads back to the directory above. -/
abbrev Path := List Text

namespace Path

/-- The name that leads back to the directory above. -/
def upward : Text := "..".toList

/-- The greatest number of octets of a written path. -/
def lengthLimit : Nat := 4095

/-- The names between slashes: empty ones and single points stand for nothing. -/
def namesBetween {α : Type} [DecidableEq α] (slash point : α) (written : List α) : List (List α) :=
  (Text.cutAt slash written).filter fun name => name != [] && name != [point]

/-- The names in a written path. -/
def ofText (text : Text) : Path := namesBetween '/' '.' text

/-- The names in a written path, which must not hold the null character. -/
def ofText? (text : Text) : Option Path :=
  if text.contains '\x00' then none else some (ofText text)

/-- Where a written path leads, seen from a working directory. -/
def startingAt (working : Path) (text : Text) : Path :=
  if text.head? = some '/' then ofText text else working ++ ofText text

/-- The name at the end of a path. -/
def lastName (path : Path) : Text := path.getLastD []

example : ofText "a/.//../b/".toList = ["a".toList, "..".toList, "b".toList] := by decide

end Path
end FlatStore
