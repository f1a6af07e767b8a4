/-!
# Texts and octets

A text is the list of its characters and a file the list of its octets, so that every operation on
them is a recursion on data.  This file holds the trimming operations, where a class of characters
given by the caller is removed, and the joining of parts, which may be lists of any kind of sign.
-/

namespace FlatStore

/-- A text is the list of its characters. -/
abbrev Text := List Char

/-- Raw content of a file or of a connection. -/
abbrev Octets := List UInt8

namespace Text

/-- Remove the longest prefix of members of `p`. -/
def trimStart (p : Char → Bool) (text : Text) : Text := text.dropWhile p

/-- Remove the longest suffix of members of `p`. -/
def trimEnd (p : Char → Bool) (text : Text) : Text := (text.reverse.dropWhile p).reverse

/-- Remove the members of `p` at both ends. -/
def trimBoth (p : Char → Bool) (text : Text) : Text := trimEnd p (trimStart p text)

@[simp]
theorem trimStart_nil (p : Char → Bool) : trimStart p [] = [] := rfl

@[simp]
theorem trimEnd_nil (p : Char → Bool) : trimEnd p [] = [] := rfl

theorem trimStart_final (p : Char → Bool) (text : Text) : trimStart p text <:+ text :=
  List.dropWhile_suffix p

theorem trimEnd_initial (p : Char → Bool) (text : Text) : trimEnd p text <+: text := by
  have suffix := List.dropWhile_suffix (l := text.reverse) p
  simpa [trimEnd] using List.reverse_prefix.mpr suffix

/-- Trimming invents no character. -/
theorem mem_of_mem_trimBoth {p : Char → Bool} {text : Text} {c : Char}
    (h : c ∈ trimBoth p text) : c ∈ text :=
  (trimStart_final p text).subset ((trimEnd_initial p _).subset h)

/-- What is left after trimming the start is empty or begins outside the class. -/
theorem trimStart_eq_cons {p : Char → Bool} {text rest : Text} {c : Char}
    (h : trimStart p text = c :: rest) : p c = false := by
  have := List.head?_dropWhile_not p text
  rw [trimStart] at h
  simpa [h] using this

/-- Write `parts` one after the other with `mark` between neighbours. -/
def join {α : Type} (mark : List α) : List (List α) → List α
  | [] => []
  | [part] => part
  | part :: next :: rest => part ++ mark ++ join mark (next :: rest)

@[simp]
theorem join_nil {α : Type} (mark : List α) : join mark [] = [] := rfl

@[simp]
theorem join_singleton {α : Type} (mark part : List α) : join mark [part] = part := rfl

theorem join_cons_cons {α : Type} (mark part next : List α) (rest : List (List α)) :
    join mark (part :: next :: rest) = part ++ mark ++ join mark (next :: rest) := rfl

/-- Order of texts by code points: the first difference decides, and a text stands before its own
continuations. -/
def precedes : Text → Text → Bool
  | [], _ => true
  | _ :: _, [] => false
  | c :: left, d :: right => if c = d then precedes left right else decide (c.toNat < d.toNat)

end Text

end FlatStore
