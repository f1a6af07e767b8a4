import FlatStore.Number.Numeral

/-!
# Identity allocators

Every table has an allocator, which holds the identity of the next row.  It is positive, and it
only ever grows.  After a restart it stands behind the greatest identity in the table's file.
-/

namespace FlatStore

/-- The identity that the next row receives. -/
structure Allocator where
  next : Int
  one_le_next : 1 ≤ next
deriving DecidableEq, Repr

/-- Ways of using an allocator that its rules exclude. -/
inductive Misuse
  /-- The first identity is to be below one. -/
  | startTooSmall (start : Int)
  /-- An identity is given up that is not the current one. -/
  | notCurrent (given current : Int)
deriving DecidableEq, Repr

/-- Wording of a misuse; it names the numbers, so they must be short enough to be written. -/
def Misuse.message : Misuse → Text
  | .startTooSmall start =>
      match Numeral.write? start with
      | some start => "next_id must be >= 1, got ".toList ++ start
      | none => Numeral.tooLongMessage
  | .notCurrent given current =>
      match Numeral.write? given, Numeral.write? current with
      | some given, some current =>
          "Identity ".toList ++ given ++ " is not the current identity ".toList ++ current
      | _, _ => Numeral.tooLongMessage

/-- The identity of a row: its first cell, if that is a numeral. -/
def identity? (cells : List Text) : Option Int := cells.head?.bind Numeral.read?

/-- The greatest identity of some rows; rows without one count as zero. -/
def highestIdentity : List (List Text) → Int
  | [] => 0
  | cells :: rest => max ((identity? cells).getD 0) (highestIdentity rest)

theorem highestIdentity_nonneg (rows : List (List Text)) : 0 ≤ highestIdentity rows := by
  induction rows with
  | nil => simp [highestIdentity]
  | cons cells rest ih =>
      rw [highestIdentity]
      omega

theorem le_highestIdentity {rows : List (List Text)} {cells : List Text} {id : Int}
    (member : cells ∈ rows) (found : identity? cells = some id) : id ≤ highestIdentity rows := by
  induction rows with
  | nil => simp at member
  | cons first rest ih =>
      rw [highestIdentity]
      rcases List.mem_cons.1 member with rfl | member
      · simp only [found, Option.getD_some]
        omega
      · have := ih member
        omega

theorem highestIdentity_append (left right : List (List Text)) :
    highestIdentity (left ++ right) = max (highestIdentity left) (highestIdentity right) := by
  induction left with
  | nil =>
      have := highestIdentity_nonneg right
      simp only [List.nil_append, highestIdentity]
      omega
  | cons cells rest ih =>
      simp only [List.cons_append, highestIdentity, ih]
      omega

namespace Allocator

/-- The allocator of an empty table. -/
def first : Allocator := ⟨1, by decide⟩

/-- The allocator that begins with a given identity. -/
def startingAt (start : Int) : Except Misuse Allocator :=
  if h : 1 ≤ start then .ok ⟨start, h⟩ else .error (.startTooSmall start)

/-- The allocator that continues behind some rows. -/
def behind (rows : List (List Text)) : Allocator :=
  ⟨highestIdentity rows + 1, by have := highestIdentity_nonneg rows; omega⟩

/-- The allocator after the current identity is used. -/
def step (allocator : Allocator) : Allocator :=
  ⟨allocator.next + 1, by have := allocator.one_le_next; omega⟩

/-- Use the current identity at once. -/
def take (allocator : Allocator) : Int × Allocator := (allocator.next, allocator.step)

/-- Mark an identity as used, which must be the current one. -/
def advancePast (allocator : Allocator) (id : Int) : Except Misuse Allocator :=
  if id = allocator.next then .ok allocator.step else .error (.notCurrent id allocator.next)

/-- How an allocator is shown, if its number is short enough to be written. -/
def text? (allocator : Allocator) : Option Text :=
  (Numeral.write? allocator.next).map fun numeral =>
    "IdentityAllocator(next=".toList ++ numeral ++ [')']

@[simp]
theorem next_step (allocator : Allocator) : allocator.step.next = allocator.next + 1 := rfl

@[simp]
theorem advancePast_next (allocator : Allocator) :
    allocator.advancePast allocator.next = .ok allocator.step := by
  simp [advancePast]

end Allocator

/-- The first cells of the rows that have no identity; `none` for a row without cells. -/
def unreadableIdentities (rows : List (List Text)) : List (Option Text) :=
  (rows.filter fun cells => (identity? cells).isNone).map List.head?

end FlatStore
