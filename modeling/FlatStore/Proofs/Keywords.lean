import FlatStore.Proofs.Cutting

/-!
# Keywords

Keywords that can not overlap cut a text into parts in which none of them occurs, and the parts with
the keywords between them are the text.  A keyword that shares no character with a gap between two
texts occurs in one of them if it occurs at all.
-/

namespace FlatStore
namespace Text

/-- None of the words occurs in the text. -/
def Lacks (words : List Text) (text : Text) : Prop := ∀ word ∈ words, ¬word <:+: text

instance (words : List Text) (text : Text) : Decidable (Lacks words text) :=
  inferInstanceAs (Decidable (∀ word ∈ words, ¬word <:+: text))

/-- Words that can not overlap: each of them begins with a character that occurs nowhere else in
them. -/
def NonOverlapping (words : List Text) : Prop :=
  ∀ word ∈ words, ∃ c rest, word = c :: rest ∧ c ∉ rest ∧ ∀ other ∈ words, c ∈ other → other = word

/-- The words that occur in a text, in the order in which they begin. -/
def occurrences (words : List Text) : Text → List Text
  | [] => []
  | c :: rest =>
      match words.find? (·.isPrefixOf (c :: rest)) with
      | some word => word :: occurrences words rest
      | none => occurrences words rest

/-! ## Where no word occurs -/

section Gaps

variable {word left gap right : Text} {words : List Text}

/-- A word that shares no character with a gap does not begin in it. -/
theorem infix_gap_append_iff (some_char : word ≠ []) (foreign : ∀ c ∈ gap, c ∉ word) :
    word <:+: gap ++ right ↔ word <:+: right := by
  induction gap with
  | nil => rfl
  | cons c gap ih =>
      have begins : ¬word <+: c :: (gap ++ right) := fun begins => by
        obtain ⟨d, rest, rfl⟩ := List.exists_cons_of_ne_nil some_char
        obtain rfl := (List.cons_prefix_cons.1 begins).1
        exact foreign d List.mem_cons_self List.mem_cons_self
      rw [List.cons_append, List.infix_cons_iff, or_iff_right begins]
      exact ih fun d member => foreign d (List.mem_cons_of_mem _ member)

/-- Such a word occurs before the gap or behind it. -/
theorem infix_append_gap_iff (some_char : word ≠ []) (some_gap : gap ≠ [])
    (foreign : ∀ c ∈ gap, c ∉ word) :
    word <:+: left ++ (gap ++ right) ↔ word <:+: left ∨ word <:+: right := by
  have first : ∀ d, (gap ++ right).head? = some d → d ∉ word := by
    obtain ⟨e, gap, rfl⟩ := List.exists_cons_of_ne_nil some_gap
    rintro d ⟨⟩
    exact foreign _ List.mem_cons_self
  induction left with
  | nil =>
      rw [List.nil_append, infix_gap_append_iff some_char foreign, List.infix_nil,
        or_iff_right some_char]
  | cons c left ih =>
      rw [List.cons_append, List.infix_cons_iff, List.infix_cons_iff, ← List.cons_append,
        initial_append_iff first, or_assoc]
      exact or_congr_right ih

theorem lacks_append_gap_iff (some_char : [] ∉ words) (some_gap : gap ≠ [])
    (foreign : ∀ word ∈ words, ∀ c ∈ gap, c ∉ word) :
    Lacks words (left ++ (gap ++ right)) ↔ Lacks words left ∧ Lacks words right := by
  rw [Lacks, Lacks, Lacks, ← forall₂_and]
  refine forall₂_congr fun word member => ?_
  rw [infix_append_gap_iff (fun none_left => some_char (none_left ▸ member)) some_gap
    (foreign word member), not_or]

/-- A gap in front, which may be empty, does not matter. -/
theorem lacks_gap_append_iff (some_char : [] ∉ words)
    (foreign : ∀ word ∈ words, ∀ c ∈ gap, c ∉ word) :
    Lacks words (gap ++ right) ↔ Lacks words right := by
  rw [Lacks, Lacks]
  refine forall₂_congr fun word member => ?_
  rw [infix_gap_append_iff (fun none_left => some_char (none_left ▸ member)) (foreign word member)]

theorem lacks_nil (some_char : [] ∉ words) : Lacks words [] := fun _ member inside =>
  some_char (List.infix_nil.1 inside ▸ member)

/-- A text that shares no character with the words. -/
theorem lacks_of_foreign (some_char : [] ∉ words)
    (foreign : ∀ word ∈ words, ∀ c ∈ gap, c ∉ word) : Lacks words gap := by
  intro word member inside
  obtain ⟨c, here⟩ := List.exists_mem_of_ne_nil word fun none_left => some_char (none_left ▸ member)
  exact foreign word member c (inside.subset here) here

/-- A gap behind, which may be empty, does not matter. -/
theorem Lacks.append_gap (some_char : [] ∉ words) (foreign : ∀ word ∈ words, ∀ c ∈ gap, c ∉ word)
    (lacks : Lacks words left) : Lacks words (left ++ gap) := by
  cases gap with
  | nil => rwa [List.append_nil]
  | cons c gap =>
      have both : Lacks words (left ++ (c :: gap ++ [])) ↔ Lacks words left ∧ Lacks words [] :=
        lacks_append_gap_iff some_char (List.cons_ne_nil c gap) foreign
      rw [List.append_nil] at both
      exact both.2 ⟨lacks, lacks_nil some_char⟩

theorem Lacks.of_infix {text part : Text} (lacks : Lacks words text) (inside : part <:+: text) :
    Lacks words part := fun word member here => lacks word member (here.trans inside)

end Gaps

/-! ## Where words begin -/

section Begins

variable {words : List Text} {word text part : Text}

theorem NonOverlapping.nil_not_mem (apart : NonOverlapping words) : [] ∉ words := fun member => by
  obtain ⟨_, _, impossible, -⟩ := apart [] member
  cases impossible

/-- No word occurs in a text if none begins it and none occurs behind its first character. -/
theorem lacks_cons_iff {c : Char} :
    Lacks words (c :: text) ↔
      words.find? (·.isPrefixOf (c :: text)) = none ∧ Lacks words text := by
  simp only [Lacks, List.infix_cons_iff, not_or, List.find?_eq_none, List.isPrefixOf_iff_prefix]
  exact forall₂_and

/-- Where a word begins no other one does. -/
theorem NonOverlapping.find?_word (apart : NonOverlapping words) (member : word ∈ words)
    (text : Text) : words.find? (·.isPrefixOf (word ++ text)) = some word := by
  have some_word : (words.find? (·.isPrefixOf (word ++ text))).isSome = true :=
    List.find?_isSome.2 ⟨word, member, List.isPrefixOf_iff_prefix.2 (List.prefix_append ..)⟩
  obtain ⟨other, found⟩ := Option.isSome_iff_exists.1 some_word
  obtain ⟨c, rest, rfl, -, only⟩ := apart word member
  obtain ⟨d, more, rfl, -⟩ := apart other (List.mem_of_find?_eq_some found)
  have here := List.find?_some found
  obtain rfl := (List.cons_prefix_cons.1 (List.isPrefixOf_iff_prefix.1 here)).1
  rw [found, only _ (List.mem_of_find?_eq_some found) List.mem_cons_self]

/-- Inside a word no word begins. -/
theorem NonOverlapping.find?_inside (apart : NonOverlapping words) {c d : Char} {front rest : Text}
    (member : c :: (front ++ d :: rest) ∈ words) (text : Text) :
    words.find? (·.isPrefixOf (d :: (rest ++ text))) = none := by
  rw [List.find?_eq_none]
  intro other other_member begins
  obtain ⟨e, more, rfl, once, only⟩ := apart other other_member
  obtain rfl := (List.cons_prefix_cons.1 (List.isPrefixOf_iff_prefix.1 begins)).1
  obtain ⟨rfl, rfl⟩ := List.cons.inj (only _ member (by simp))
  exact once (by simp)

/-- No word goes on from a part in which none occurs into a word behind it. -/
theorem NonOverlapping.find?_part (apart : NonOverlapping words) (member : word ∈ words) {c : Char}
    (lacks : Lacks words (c :: part)) (text : Text) :
    words.find? (·.isPrefixOf (c :: (part ++ (word ++ text)))) = none := by
  rw [List.find?_eq_none]
  intro other other_member begins
  obtain ⟨d, more, rfl, once, -⟩ := apart other other_member
  obtain ⟨e, rest, rfl, -, only⟩ := apart word member
  obtain ⟨rfl, inner⟩ := List.cons_prefix_cons.1 (List.isPrefixOf_iff_prefix.1 begins)
  have first : ∀ c, ((e :: rest) ++ text).head? = some c → c ∉ more := by
    rintro c ⟨⟩ here
    obtain ⟨rfl, rfl⟩ := List.cons.inj (only _ other_member (List.mem_cons_of_mem _ here))
    exact once here
  exact lacks _ other_member
    (List.cons_prefix_cons.2 ⟨rfl, (initial_append_iff first).1 inner⟩).isInfix

end Begins

/-! ## Cuts -/

section Cuts

variable {words : List Text} {word text part next : Text} {parts : List Text}

/-- The tail of an occurrence belongs to no part. -/
theorem cutAtWords_skip (front text : Text) :
    cutAtWords words front.length (front ++ text) = cutAtWords words 0 text := by
  induction front with
  | nil => rfl
  | cons c front ih => rw [List.length_cons, List.cons_append, cutAtWords, ih]

/-- What stands before the first word is the first part. -/
theorem NonOverlapping.cutAtWords_append (apart : NonOverlapping words) (member : word ∈ words)
    (lacks : Lacks words part) (text : Text) :
    cutAtWords words 0 (part ++ (word ++ text)) = part :: cutAtWords words 0 text := by
  induction part with
  | nil =>
      have found := apart.find?_word member text
      obtain ⟨c, rest, rfl, -⟩ := apart word member
      rw [List.cons_append] at found
      rw [List.nil_append, List.cons_append, cutAtWords, found]
      exact congrArg ([] :: ·) (cutAtWords_skip rest text)
  | cons c part ih =>
      rw [List.cons_append, cutAtWords, apart.find?_part member lacks text]
      dsimp only
      rw [ih (lacks_cons_iff.1 lacks).2, consHead_cons]

/-- Between the first two parts there is a word, and none in the first. -/
theorem exists_of_cutAtWords (some_char : [] ∉ words)
    (cut : cutAtWords words 0 text = part :: next :: parts) :
    ∃ word ∈ words, ∃ rest, text = part ++ (word ++ rest) ∧ Lacks words part ∧
      cutAtWords words 0 rest = next :: parts := by
  induction text generalizing part with
  | nil => cases cut
  | cons c text ih =>
      rw [cutAtWords] at cut
      split at cut
      · rename_i word found
        obtain ⟨rfl, behind⟩ := List.cons.inj cut
        have member := List.mem_of_find?_eq_some found
        have here := List.find?_some found
        obtain ⟨rest, whole⟩ := List.isPrefixOf_iff_prefix.1 here
        obtain ⟨d, tail, rfl⟩ := List.exists_cons_of_ne_nil fun none_left : word = [] =>
          some_char (none_left ▸ member)
        obtain ⟨rfl, rfl⟩ := List.cons.inj whole
        exact ⟨_, member, rest, rfl, lacks_nil some_char,
          (cutAtWords_skip tail rest).symm.trans behind⟩
      · rename_i absent
        obtain ⟨first, more, later⟩ := List.exists_cons_of_ne_nil (cutAtWords_ne_nil words 0 text)
        rw [later] at cut
        obtain ⟨rfl, rfl⟩ := List.cons.inj cut
        obtain ⟨word, member, rest, rfl, lacks, behind⟩ := ih later
        refine ⟨word, member, rest, rfl, lacks_cons_iff.2 ⟨?_, lacks⟩, behind⟩
        rw [List.find?_eq_none] at absent ⊢
        intro other other_member begins
        have longer : other <+: c :: (first ++ (word ++ rest)) :=
          (List.isPrefixOf_iff_prefix.1 begins).trans (List.prefix_append (c :: first) _)
        exact absent other other_member (List.isPrefixOf_iff_prefix.2 longer)

/-- A text that is not cut is its only part, and no word occurs in it. -/
theorem lacks_of_cutAtWords (some_char : [] ∉ words) (cut : cutAtWords words 0 text = [part]) :
    part = text ∧ Lacks words text := by
  obtain rfl := eq_of_cutAtWords cut
  refine ⟨rfl, ?_⟩
  induction part with
  | nil => exact lacks_nil some_char
  | cons c rest ih =>
      rw [cutAtWords] at cut
      split at cut
      · exact absurd (List.cons.inj cut).2 (cutAtWords_ne_nil _ _ _)
      · rename_i absent
        obtain ⟨first, more, later⟩ := List.exists_cons_of_ne_nil (cutAtWords_ne_nil words 0 rest)
        rw [later] at cut
        obtain ⟨same, rfl⟩ := List.cons.inj cut
        obtain ⟨-, rfl⟩ := List.cons.inj same
        exact lacks_cons_iff.2 ⟨absent, ih later⟩

end Cuts

/-! ## Occurrences -/

section Occurrences

variable {words : List Text} {word text part : Text}

theorem occurrences_of_lacks (lacks : Lacks words text) : occurrences words text = [] := by
  induction text with
  | nil => rfl
  | cons c rest ih =>
      obtain ⟨absent, lacks⟩ := lacks_cons_iff.1 lacks
      rw [occurrences, absent]
      exact ih lacks

/-- In the tail of a word no word occurs that goes on behind it. -/
theorem NonOverlapping.occurrences_tail (apart : NonOverlapping words) {c : Char} {rest : Text}
    (front : Text) (member : c :: (front ++ rest) ∈ words) (text : Text) :
    occurrences words (rest ++ text) = occurrences words text := by
  induction rest generalizing front with
  | nil => rfl
  | cons d rest ih =>
      rw [List.cons_append, occurrences, apart.find?_inside member text]
      exact ih (front ++ [d]) (by simpa using member)

/-- Behind a text without words a word is the next one that occurs. -/
theorem NonOverlapping.occurrences_append (apart : NonOverlapping words) (member : word ∈ words)
    (lacks : Lacks words part) (text : Text) :
    occurrences words (part ++ (word ++ text)) = word :: occurrences words text := by
  induction part with
  | nil =>
      have found := apart.find?_word member text
      obtain ⟨c, rest, rfl, -⟩ := apart word member
      rw [List.cons_append] at found
      rw [List.nil_append, List.cons_append, occurrences, found]
      exact congrArg (_ :: ·) (apart.occurrences_tail [] member text)
  | cons c part ih =>
      rw [List.cons_append, occurrences, apart.find?_part member lacks text]
      exact ih (lacks_cons_iff.1 lacks).2

end Occurrences

end Text
end FlatStore
