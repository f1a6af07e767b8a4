import FlatStore.Disk.Path
import FlatStore.Disk.Refusal

/-!
# Written paths

A path as a setting gives it, which need not be one that the operating system can follow.  Its
octets must exist, must not hold the null character and must not be too many; of several faults the
first in this order is found.
-/

namespace FlatStore

/-- A path in writing: names with single slashes between them. -/
structure WrittenPath where
  /-- The code points that it is written with. -/
  points : List CodePoint
deriving DecidableEq, Repr

namespace WrittenPath

/-- The mark between names. -/
def slash : CodePoint := .char '/'

/-- The name that stands for nothing. -/
def point : CodePoint := .char '.'

/-- The slashes that stay at the start of a path: one, but if there are exactly two, both. -/
def leadIn (points : List CodePoint) : List CodePoint :=
  let slashes := points.takeWhile (· = slash)
  if slashes.length = 2 then slashes else slashes.take 1

/-- Names behind slashes at the start; nothing at all is written as a point. -/
def ofNames (lead : List CodePoint) (names : List (List CodePoint)) : WrittenPath :=
  let points := lead ++ Text.join [slash] names
  ⟨if points.isEmpty then [point] else points⟩

/-- The names in a path. -/
def names (points : List CodePoint) : List (List CodePoint) := Path.namesBetween slash point points

/-- A path without empty names, single points, a closing slash and needless slashes at its start. -/
def ofPoints (points : List CodePoint) : WrittenPath := ofNames (leadIn points) (names points)

/-- The written path of a text. -/
def ofText (text : Text) : WrittenPath := ofPoints (text.map .char)

/-- The path of the directory above; a path without names is its own. -/
def parent (written : WrittenPath) : WrittenPath :=
  ofNames (leadIn written.points) (names written.points).dropLast

/-- The path as a text, with a replacement mark for each surrogate. -/
def text (written : WrittenPath) : Text := CodePoint.text written.points

/-- Why the path can not be followed at all. -/
def fault? (written : WrittenPath) : Option PathFault :=
  match CodePoint.unencodable? written.points with
  | some found => some (.unencodable found)
  | none =>
      if written.text.contains '\x00' then some .nullCharacter
      else if Path.lengthLimit < Utf8.size written.text then some (.refused .nameTooLong)
      else none

/-- Where the path leads, seen from a working directory. -/
def startingAt (working : Path) (written : WrittenPath) : Path :=
  Path.startingAt working written.text

example : (ofText "a/.//b/".toList).text = "a/b".toList := by decide
example : (ofText "//a".toList).text = "//a".toList := by decide
example : (ofText "///a".toList).text = "/a".toList := by decide
example : (ofText []).text = ['.'] := by decide
example : (ofText "a/../b".toList).parent.text = "a/..".toList := by decide
example : (ofText "/a".toList).parent.text = ['/'] := by decide
example : (ofText ['a']).parent.text = ['.'] := by decide
example : (ofPoints [.char 'a', .char '/', .surrogate 0xD800]).fault? =
    some (.unencodable ⟨2, 0xD800, 1⟩) := by decide

end WrittenPath
end FlatStore
