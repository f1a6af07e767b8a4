import FlatStore.Text.Basic

/-!
# Cutting texts

A text is cut at a separator character, at the first occurrence of a character, or at the
occurrences of some words.  Cutting at a separator, which works for lists of any kind of sign, is
undone by writing the separator between the parts; a cut at words takes the leftmost occurrences
that do not overlap.
-/

namespace FlatStore
namespace Text

section Separator

variable {α : Type} [DecidableEq α]

/-- Put a sign in front of the first part. -/
def consHead (c : α) : List (List α) → List (List α)
  | [] => [[c]]
  | part :: rest => (c :: part) :: rest

omit [DecidableEq α] in
@[simp]
theorem consHead_cons (c : α) (part : List α) (rest : List (List α)) :
    consHead c (part :: rest) = (c :: part) :: rest := rfl

/-- The parts between the occurrences of a separator: one more than there are separators. -/
def cutAt (separator : α) : List α → List (List α)
  | [] => [[]]
  | c :: rest => if c = separator then [] :: cutAt separator rest
      else consHead c (cutAt separator rest)

@[simp]
theorem cutAt_nil (separator : α) : cutAt separator [] = [[]] := rfl

theorem cutAt_ne_nil (separator : α) (text : List α) : cutAt separator text ≠ [] := by
  cases text with
  | nil => simp
  | cons c rest =>
      rw [cutAt]
      split
      · simp
      · cases cutAt separator rest <;> simp [consHead]

/-- Writing the separator between the parts gives the text back. -/
theorem join_cutAt (separator : α) (text : List α) :
    join [separator] (cutAt separator text) = text := by
  induction text with
  | nil => rfl
  | cons c rest ih =>
      obtain ⟨part, parts, h⟩ := List.exists_cons_of_ne_nil (cutAt_ne_nil separator rest)
      rw [h] at ih
      by_cases hc : c = separator
      · subst hc
        simp [cutAt, h, join_cons_cons, ih]
      · cases parts with
        | nil => simpa [cutAt, hc, h] using ih
        | cons next parts =>
            rw [join_cons_cons] at ih
            rw [cutAt, if_neg hc, h, consHead_cons, join_cons_cons, ← ih]
            simp

/-- No part holds the separator. -/
theorem separator_not_mem_cutAt {separator : α} {text part : List α}
    (h : part ∈ cutAt separator text) : separator ∉ part := by
  induction text generalizing part with
  | nil => simp_all
  | cons c rest ih =>
      obtain ⟨first, parts, hr⟩ := List.exists_cons_of_ne_nil (cutAt_ne_nil separator rest)
      rw [hr] at ih
      by_cases hc : c = separator
      · simp only [cutAt, hc, if_true, hr, List.mem_cons] at h
        rcases h with rfl | h
        · simp
        · exact ih (by simpa using h)
      · simp only [cutAt, hc, if_false, hr, consHead_cons, List.mem_cons] at h
        rcases h with rfl | h
        · have absent : separator ∉ first := ih (by simp)
          simp [Ne.symm hc, absent]
        · exact ih (by simp [h])

/-- A text without the separator is one part. -/
theorem cutAt_of_not_mem {separator : α} {text : List α} (h : separator ∉ text) :
    cutAt separator text = [text] := by
  induction text with
  | nil => rfl
  | cons c rest ih =>
      simp only [List.mem_cons, not_or] at h
      simp [cutAt, Ne.symm h.1, ih h.2]

end Separator

/-- The text before the first occurrence of a character: all of it if there is none. -/
def upTo (mark : Char) (text : Text) : Text := text.takeWhile (· != mark)

/-- The text behind the first occurrence of a character, if there is one. -/
def behind? (mark : Char) : Text → Option Text
  | [] => none
  | c :: rest => if c = mark then some rest else behind? mark rest

/-- The text behind the first occurrence of a character: nothing if there is none. -/
def behind (mark : Char) (text : Text) : Text := (behind? mark text).getD []

theorem upTo_append_behind {mark : Char} {text rest : Text} (h : behind? mark text = some rest) :
    upTo mark text ++ mark :: rest = text := by
  induction text with
  | nil => simp [behind?] at h
  | cons c text ih =>
      by_cases hc : c = mark
      · simp_all [behind?, upTo]
      · simp only [behind?, hc, if_false] at h
        simpa [upTo, hc] using ih h

/-- Cut at the leftmost occurrences of `words`, the first `skip` characters being the tail of an
occurrence already found.  Of two words that start at one place the earlier in the list is taken. -/
def cutAtWords (words : List Text) : (skip : Nat) → Text → List Text
  | _, [] => [[]]
  | skip + 1, _ :: rest => cutAtWords words skip rest
  | 0, c :: rest =>
      match words.find? (·.isPrefixOf (c :: rest)) with
      | some word => [] :: cutAtWords words (word.length - 1) rest
      | none => consHead c (cutAtWords words 0 rest)

theorem cutAtWords_ne_nil (words : List Text) (skip : Nat) (text : Text) :
    cutAtWords words skip text ≠ [] := by
  fun_induction cutAtWords words skip text with
  | case1 => simp
  | case2 _ _ _ ih => exact ih
  | case3 => simp
  | case4 c rest _ ih => cases cutAtWords words 0 rest <;> simp [consHead]

end Text
end FlatStore
