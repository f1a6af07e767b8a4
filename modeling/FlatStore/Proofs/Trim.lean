import FlatStore.Text.Blank
import Mathlib.Data.List.DropRight
import Mathlib.Data.List.TakeWhile

/-!
# Trimming

What trimming leaves has no member of the class at its ends, and a text with none there is left as
it is.  Behind such an end an appended text is trimmed by itself.  A text without blanks is one
word.
-/

namespace FlatStore
namespace Text

theorem getLast?_trimEnd {p : Char → Bool} {text : Text} {c : Char}
    (last : (trimEnd p text).getLast? = some c) : p c = false := by
  rw [trimEnd, List.getLast?_reverse] at last
  have first_kept := List.head?_dropWhile_not p text.reverse
  rw [last] at first_kept
  simpa using first_kept

theorem getLast?_trim {text : Text} {c : Char} (last : (trim text).getLast? = some c) :
    isBlank c = false :=
  getLast?_trimEnd last

theorem trimStart_of_head {p : Char → Bool} {text : Text}
    (first : ∀ c, text.head? = some c → p c = false) : trimStart p text = text := by
  cases text with
  | nil => rfl
  | cons c rest => rw [trimStart, List.dropWhile_cons, if_neg (by simp [first c rfl])]

theorem trimEnd_of_last {p : Char → Bool} {text : Text}
    (last : ∀ c, text.getLast? = some c → p c = false) : trimEnd p text = text := by
  have untouched : text.reverse.dropWhile p = text.reverse :=
    trimStart_of_head fun c first => last c (by rw [← first, List.head?_reverse])
  rw [trimEnd, untouched, List.reverse_reverse]

/-- A text without blanks at its ends is left as it is. -/
theorem trim_of_ends {text : Text} (first : ∀ c, text.head? = some c → isBlank c = false)
    (last : ∀ c, text.getLast? = some c → isBlank c = false) : trim text = text := by
  rw [trim, trimBoth, trimStart_of_head first, trimEnd_of_last last]

theorem trimEnd_of_forall {p : Char → Bool} {text : Text} (none_in : ∀ c ∈ text, p c = false) :
    trimEnd p text = text :=
  trimEnd_of_last fun c last => none_in c (List.mem_of_getLast? last)

/-- Nothing is trimmed from a text without members of the class. -/
theorem trimBoth_of_forall {p : Char → Bool} {text : Text} (none_in : ∀ c ∈ text, p c = false) :
    trimBoth p text = text := by
  rw [trimBoth, trimStart_of_head fun c first => none_in c (List.mem_of_head? first),
    trimEnd_of_forall none_in]

theorem trim_cons_of_isBlank {c : Char} (blank : isBlank c = true) (text : Text) :
    trim (c :: text) = trim text := by
  rw [trim, trimBoth, trimStart, List.dropWhile_cons, if_pos blank]
  rfl

/-- Blanks in front of a text are trimmed. -/
theorem trim_blank_append {lead : Text} (blank : ∀ c ∈ lead, isBlank c = true) (text : Text) :
    trim (lead ++ text) = trim text := by
  induction lead with
  | nil => rfl
  | cons c lead ih =>
      rw [List.cons_append, trim_cons_of_isBlank (blank c List.mem_cons_self)]
      exact ih fun d member => blank d (List.mem_cons_of_mem _ member)

theorem trimEnd_eq_nil_iff {p : Char → Bool} {text : Text} :
    trimEnd p text = [] ↔ ∀ c ∈ text, p c = true := by
  simp [trimEnd, List.dropWhile_eq_nil_iff]

/-- Nothing is left of a blank text, and something of every other one. -/
theorem trim_eq_nil_iff {text : Text} : trim text = [] ↔ isBlankText text = true := by
  rw [trim, trimBoth, trimEnd_eq_nil_iff, isBlankText, List.all_eq_true]
  constructor
  · intro blank
    -- The first character that is left would not be blank.
    cases start : trimStart isBlank text with
    | nil => exact List.dropWhile_eq_nil_iff.1 start
    | cons c rest =>
        have ink := trimStart_eq_cons start
        rw [blank c (by rw [start]; exact List.mem_cons_self)] at ink
        cases ink
  · intro blank c member
    exact blank c ((trimStart_final isBlank text).subset member)

/-! ## Appended texts -/

theorem trimEnd_append (p : Char → Bool) (text more : Text) :
    trimEnd p (text ++ more) =
      if trimEnd p more = [] then trimEnd p text else text ++ trimEnd p more := by
  rw [trimEnd, List.reverse_append, List.dropWhile_append]
  by_cases rest : more.reverse.dropWhile p = []
  · simp [trimEnd, rest]
  · simp [trimEnd, rest]

/-- What is appended to a text with no member of the class at its end is trimmed by itself. -/
theorem trimEnd_append_of_last {p : Char → Bool} {text : Text}
    (last : ∀ c, text.getLast? = some c → p c = false) (more : Text) :
    trimEnd p (text ++ more) = text ++ trimEnd p more := by
  rw [trimEnd_append, trimEnd_of_last last]
  split
  · rename_i rest
    rw [rest, List.append_nil]
  · rfl

theorem trimEnd_cons (p : Char → Bool) (c : Char) (text : Text) :
    trimEnd p (c :: text) =
      if trimEnd p text = [] ∧ p c = true then [] else c :: trimEnd p text := by
  rw [← List.singleton_append, trimEnd_append]
  by_cases rest : trimEnd p text = []
  · by_cases here : p c = true <;> simp [here, trimEnd]
  · simp [rest]

/-- Behind a character outside the class the start is not trimmed. -/
theorem trimStart_append {p : Char → Bool} {text : Text} {c : Char} (member : c ∈ text)
    (outside : p c = false) (more : Text) :
    trimStart p (text ++ more) = trimStart p text ++ more := by
  have left : text.dropWhile p ≠ [] := by
    intro all
    rw [List.dropWhile_eq_nil_iff.1 all c member] at outside
    cases outside
  rw [trimStart, List.dropWhile_append, if_neg (by simpa using left)]
  rfl

theorem trimStart_concat {p : Char → Bool} {c : Char} (outside : p c = false) (text : Text) :
    trimStart p (text ++ [c]) = trimStart p text ++ [c] := by
  rw [trimStart, List.dropWhile_append]
  split
  · rename_i all
    rw [trimStart, List.isEmpty_iff.1 all]
    simp [outside]
  · rfl

theorem getLast?_trimStart {p : Char → Bool} {text : Text} {c : Char}
    (last : text.getLast? = some c) (outside : p c = false) :
    (trimStart p text).getLast? = some c := by
  obtain ⟨front, rfl⟩ := List.getLast?_eq_some_iff.1 last
  rw [trimStart, List.dropWhile_append]
  split
  · simp [outside]
  · simp

/-- Behind a text that does not end in a blank the blanks at the very end are trimmed. -/
theorem trim_append {text : Text} {c : Char} (last : text.getLast? = some c)
    (outside : isBlank c = false) (more : Text) :
    trim (text ++ more) = trimStart isBlank text ++ trimEnd isBlank more := by
  rw [trim, trimBoth, trimStart_append (List.mem_of_getLast? last) outside]
  refine trimEnd_append_of_last (fun d here => ?_) more
  rw [getLast?_trimStart last outside] at here
  cases here
  exact outside

/-- The two ends of a text are trimmed in either order. -/
theorem trimEnd_trimStart (p q : Char → Bool) (text : Text) :
    trimEnd q (trimStart p text) = trimStart p (trimEnd q text) := by
  induction text with
  | nil => rfl
  | cons c rest ih =>
      by_cases here : p c = true
      · rw [trimStart, List.dropWhile_cons, if_pos here, ← trimStart, ih, trimEnd_cons]
        split
        · rename_i all
          rw [all.1]
        · rw [trimStart, trimStart, List.dropWhile_cons, if_pos here]
      · rw [trimStart_of_head (by rintro _ ⟨⟩; simpa using here), trimEnd_cons]
        split
        · rfl
        · rw [trimStart_of_head (by rintro _ ⟨⟩; simpa using here)]

/-- Blanks behind a text are trimmed. -/
theorem trim_append_blank {back : Text} (blank : ∀ c ∈ back, isBlank c = true) (text : Text) :
    trim (text ++ back) = trim text := by
  rw [trim, trim, trimBoth, trimBoth, trimEnd_trimStart, trimEnd_trimStart, trimEnd_append,
    if_pos (trimEnd_eq_nil_iff.2 blank)]

/-- What is trimmed has the class's members only. -/
theorem trimEnd_append_removed (p : Char → Bool) (text : Text) :
    ∃ removed, trimEnd p text ++ removed = text ∧ ∀ c ∈ removed, p c = true :=
  ⟨text.rtakeWhile p, List.rdropWhile_append_rtakeWhile .., fun _ => List.mem_rtakeWhile_imp⟩

/-- Trimming twice is trimming once. -/
theorem trim_trim (text : Text) : trim (trim text) = trim text := by
  refine trim_of_ends (fun c first => ?_) fun c => getLast?_trim
  rw [trim, trimBoth, trimEnd_trimStart] at first
  obtain ⟨rest, kept⟩ := List.head?_eq_some_iff.1 first
  exact trimStart_eq_cons kept

/-- What is trimmed from a text stands around the rest. -/
theorem exists_trimmed (text : Text) :
    ∃ front back, front ++ (trim text ++ back) = text ∧ (∀ c ∈ front, isBlank c = true) ∧
      ∀ c ∈ back, isBlank c = true := by
  obtain ⟨back, whole, blank⟩ := trimEnd_append_removed isBlank (trimStart isBlank text)
  refine ⟨text.takeWhile isBlank, back, ?_, fun c => List.mem_takeWhile_imp, blank⟩
  rw [trim, trimBoth, whole]
  exact List.takeWhile_append_dropWhile

/-! ## Words -/

/-- A text without blanks is its own first word. -/
theorem firstWord_of_forall {text : Text} (ink : ∀ c ∈ text, isBlank c = false) :
    firstWord text = text := by
  have inner : ∀ c ∈ text, (!isBlank c) = true := fun c member => by rw [ink c member]; rfl
  have whole := @List.takeWhile_append_of_pos _ (fun c => !isBlank c) text [] inner
  simpa [firstWord] using whole

theorem afterFirstWord_of_forall {text : Text} (ink : ∀ c ∈ text, isBlank c = false) :
    afterFirstWord text = [] := by
  have inner : ∀ c ∈ text, (!isBlank c) = true := fun c member => by rw [ink c member]; rfl
  have whole := @List.dropWhile_append_of_pos _ (fun c => !isBlank c) text [] inner
  rw [List.append_nil, List.dropWhile_nil] at whole
  rw [afterFirstWord, whole, List.dropWhile_nil]

theorem not_isBlank_of_mem_firstWord {text : Text} {c : Char} (member : c ∈ firstWord text) :
    isBlank c = false := by
  have inner := List.mem_takeWhile_imp (show c ∈ text.takeWhile fun c => !isBlank c from member)
  simpa using inner

theorem not_isBlank_of_isWord {text : Text} {c : Char} (word : isWord text = true)
    (member : c ∈ text) : isBlank c = false := by
  rw [isWord, Bool.and_eq_true, List.all_eq_true] at word
  simpa using word.2 c member

end Text
end FlatStore
