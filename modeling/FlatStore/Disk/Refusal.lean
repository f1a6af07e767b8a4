import FlatStore.Text.CodePoint

/-!
# Refusals

The reasons for which the operating system refuses to open, create or list something, and for which
nothing can be done with a written path.
-/

namespace FlatStore

/-- Why the operating system refuses an operation on a path. -/
inductive Refusal
  /-- A directory on the way, or the thing itself, is missing. -/
  | notFound
  | exists
  | notDirectory
  | isDirectory
  /-- A name or the whole path has too many octets. -/
  | nameTooLong
deriving DecidableEq, Repr

namespace Refusal

/-- The number of the refusal. -/
def number : Refusal → Nat
  | .notFound => 2
  | .exists => 17
  | .notDirectory => 20
  | .isDirectory => 21
  | .nameTooLong => 36

/-- The wording of the refusal. -/
def description : Refusal → Text
  | .notFound => "No such file or directory".toList
  | .exists => "File exists".toList
  | .notDirectory => "Not a directory".toList
  | .isDirectory => "Is a directory".toList
  | .nameTooLong => "File name too long".toList

/-- Number, wording and the path that was refused. -/
def message (refusal : Refusal) (path : Text) : Text :=
  "[Errno ".toList ++ Numeral.natural refusal.number ++ "] ".toList ++ refusal.description
    ++ ": ".toList ++ Text.quoted path

end Refusal

/-- Wording for a path that holds the null character. -/
def nullCharacterMessage : Text := "embedded null byte".toList

/-- Why something can not be done at a path. -/
inductive PathFault
  /-- It holds surrogates that have no octets. -/
  | unencodable (found : Unencodable)
  /-- It holds the null character, which ends a path. -/
  | nullCharacter
  /-- Too many directories on the way to it are missing. -/
  | tooDeep
  | refused (refusal : Refusal)
deriving DecidableEq, Repr

/-- The wording of a fault, `place` being the path in writing. -/
def PathFault.message (place : Text) : PathFault → Text
  | .unencodable found => found.message
  | .nullCharacter => nullCharacterMessage
  | .tooDeep => "too many missing directories: ".toList ++ Text.quoted place
  | .refused refusal => refusal.message place

end FlatStore
