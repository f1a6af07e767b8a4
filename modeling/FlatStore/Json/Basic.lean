import FlatStore.Number.Binary64
import FlatStore.Text.CodePoint

/-!
# JSON values

The values of log fields and of structured settings.  Integers and doubles are different kinds of
number, and the members of an object keep their order.
-/

namespace FlatStore

/-- A JSON value. -/
inductive Json
  | null
  | bool (value : Bool)
  | int (value : Int)
  /-- A number written with a point or an exponent. -/
  | real (value : Binary64)
  | string (value : Text)
  /-- A string with surrogates that have no partner. -/
  | unpaired (points : List CodePoint)
  | list (items : List Json)
  /-- An object, its members in order. -/
  | object (members : List (Text × Json))
deriving Repr, Inhabited

namespace Json

/-- The string that code points make. -/
def ofPoints (points : List CodePoint) : Json :=
  if points.all CodePoint.isChar then .string (CodePoint.text points) else .unpaired points

/-- An optional text, absent as null. -/
def ofText? : Option Text → Json
  | none => .null
  | some text => .string text

/-- A count. -/
def ofNat (n : Nat) : Json := .int n

/-- A list of texts. -/
def ofTexts (texts : List Text) : Json := .list (texts.map .string)

end Json

/-- Members of an object: names and values in order. -/
abbrev Members := List (Text × Json)

namespace Members

/-- The value of a name. -/
def find? (members : Members) (name : Text) : Option Json := members.lookup name

/-- Give a name a value: in its old place if it has one, else at the end. -/
def set (members : Members) (name : Text) (value : Json) : Members :=
  if members.any (·.1 == name) then
    members.map fun member => if member.1 == name then (name, value) else member
  else members ++ [(name, value)]

/-- Give names the values of another object's members, one after the other. -/
def merge (members others : Members) : Members :=
  others.foldl (fun result member => result.set member.1 member.2) members

end Members
end FlatStore
