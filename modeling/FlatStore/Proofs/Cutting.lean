import FlatStore.Proofs.Plans

/-!
# Cutting longer texts

The place where a text is cut at a character or at words depends on what stands there.  So a text in
front in which no word begins belongs to the first part, and a text behind that shares no character
with the words belongs to the last part.
-/

namespace FlatStore
namespace Text

/-! ## At a character -/

theorem behind?_append (mark : Char) (text more : Text) :
    behind? mark (text ++ more) =
      ((behind? mark text).map (· ++ more)).or (behind? mark more) := by
  induction text with
  | nil => rfl
  | cons c rest ih =>
      rw [List.cons_append, behind?, behind?]
      split
      · rfl
      · exact ih

theorem final_of_behind? {mark : Char} {text rest : Text} (h : behind? mark text = some rest) :
    rest <:+ text := by
  refine ⟨upTo mark text ++ [mark], ?_⟩
  rw [List.append_assoc]
  exact upTo_append_behind h

theorem upTo_append {mark : Char} {text rest : Text} (h : behind? mark text = some rest)
    (more : Text) : upTo mark (text ++ more) = upTo mark text := by
  induction text with
  | nil => cases h
  | cons c text ih =>
      rw [behind?] at h
      rw [upTo, upTo, List.cons_append, List.takeWhile_cons, List.takeWhile_cons]
      by_cases here : c = mark
      · simp [here]
      · rw [if_neg here] at h
        rw [if_pos (by simpa using here), if_pos (by simpa using here)]
        exact congrArg (c :: ·) (ih h)

/-- The first mark stands where no mark stands before it. -/
theorem behind?_append_mark {mark : Char} {text : Text} (absent : mark ∉ text) (rest : Text) :
    behind? mark (text ++ mark :: rest) = some rest := by
  induction text with
  | nil => simp [behind?]
  | cons c text ih =>
      rw [List.mem_cons, not_or] at absent
      rw [List.cons_append, behind?, if_neg (Ne.symm absent.1), ih absent.2]

theorem upTo_append_mark {mark : Char} {text : Text} (absent : mark ∉ text) (rest : Text) :
    upTo mark (text ++ mark :: rest) = text := by
  have inner : ∀ c ∈ text, (c != mark) = true := fun c member => by
    rw [bne_iff_ne]
    rintro rfl
    exact absent member
  rw [upTo, List.takeWhile_append_of_pos inner, List.takeWhile_cons, if_neg (by simp),
    List.append_nil]

/-! ## At words -/

section Words

variable {words : List Text} {text : Text}

/-- A text whose first character is not in a word does not complete the word. -/
theorem initial_append_iff {word more : Text} (apart : ∀ c, more.head? = some c → c ∉ word) :
    word <+: text ++ more ↔ word <+: text := by
  refine ⟨fun begins => ?_, fun begins => begins.trans (List.prefix_append ..)⟩
  rcases Nat.le_total word.length text.length with short | long
  · exact List.prefix_of_prefix_length_le begins (List.prefix_append ..) short
  · obtain ⟨surplus, rfl⟩ := List.prefix_of_prefix_length_le (List.prefix_append ..) begins long
    cases surplus with
    | nil => simp
    | cons c surplus =>
        obtain ⟨behind, rfl⟩ := (List.prefix_append_right_inj _).1 begins
        exact absurd (by simp) (apart c rfl)

theorem find?_isPrefixOf_append {more : Text}
    (apart : ∀ word ∈ words, ∀ c ∈ word, c ∉ more) (text : Text) :
    words.find? (·.isPrefixOf (text ++ more)) = words.find? (·.isPrefixOf text) := by
  induction words with
  | nil => rfl
  | cons word words ih =>
      have same : word.isPrefixOf (text ++ more) = word.isPrefixOf text := by
        rw [Bool.eq_iff_iff, List.isPrefixOf_iff_prefix, List.isPrefixOf_iff_prefix,
          initial_append_iff fun c first here =>
            apart word List.mem_cons_self c here (List.mem_of_head? first)]
      rw [List.find?_cons, List.find?_cons, same,
        ih fun other member => apart other (List.mem_cons_of_mem _ member)]

/-- If there is one part, it is the text. -/
theorem eq_of_cutAtWords {part : Text} (h : cutAtWords words 0 text = [part]) : part = text := by
  induction text generalizing part with
  | nil =>
      cases h
      rfl
  | cons c rest ih =>
      rw [cutAtWords] at h
      split at h
      · exact absurd (List.cons.inj h).2 (cutAtWords_ne_nil _ _ _)
      · obtain ⟨first, parts, cut⟩ := List.exists_cons_of_ne_nil (cutAtWords_ne_nil words 0 rest)
        rw [cut] at h ih
        cases h
        rw [ih rfl]

/-- A text behind that shares no character with the words belongs to the last part. -/
theorem cutAtWords_append (some_char : ∀ word ∈ words, word ≠ []) {skip : Nat}
    (inside : skip ≤ text.length) :
    ∃ parts last, last <:+ text ∧ cutAtWords words skip text = parts ++ [last] ∧
      ∀ more, (∀ word ∈ words, ∀ c ∈ word, c ∉ more) →
        cutAtWords words skip (text ++ more) = parts ++ [last ++ more] := by
  fun_induction cutAtWords words skip text with
  | case1 skip =>
      obtain rfl : skip = 0 := by simpa using inside
      refine ⟨[], [], List.suffix_rfl, rfl, fun more apart => cutAtWords_of_absent ?_⟩
      intro word member within
      obtain ⟨c, here⟩ := List.exists_mem_of_ne_nil word (some_char word member)
      exact apart word member c here (within.subset here)
  | case2 skip c rest ih =>
      obtain ⟨parts, last, final, cut, longer⟩ := ih (by simpa using inside)
      exact ⟨parts, last, final.trans (List.suffix_cons ..), cut, longer⟩
  | case3 c rest word found ih =>
      have here := List.find?_some found
      have begins : word <+: c :: rest := List.isPrefixOf_iff_prefix.1 here
      obtain ⟨parts, last, final, cut, longer⟩ := ih (by simpa using begins.length_le)
      refine ⟨[] :: parts, last, final.trans (List.suffix_cons ..), ?_, fun more apart => ?_⟩
      · rw [cut]
        rfl
      · have found_again := (find?_isPrefixOf_append apart (c :: rest)).trans found
        rw [List.cons_append] at found_again ⊢
        rw [cutAtWords, found_again]
        dsimp only
        rw [longer more apart]
        rfl
  | case4 c rest absent ih =>
      obtain ⟨parts, last, final, cut, longer⟩ := ih (Nat.zero_le _)
      have step (more : Text) (apart : ∀ word ∈ words, ∀ c ∈ word, c ∉ more) :
          cutAtWords words 0 (c :: rest ++ more) =
            consHead c (cutAtWords words 0 (rest ++ more)) := by
        have absent_again := (find?_isPrefixOf_append apart (c :: rest)).trans absent
        rw [List.cons_append] at absent_again ⊢
        rw [cutAtWords, absent_again]
      cases parts with
      | nil =>
          obtain rfl := eq_of_cutAtWords cut
          refine ⟨[], c :: last, List.suffix_rfl, ?_, fun more apart => ?_⟩
          · rw [cut]
            rfl
          · rw [step more apart, longer more apart]
            rfl
      | cons first parts =>
          refine ⟨(c :: first) :: parts, last, final.trans (List.suffix_cons ..), ?_,
            fun more apart => ?_⟩
          · rw [cut]
            rfl
          · rw [step more apart, longer more apart]
            rfl

/-- A text in front in which no word begins belongs to the first part. -/
theorem append_cutAtWords (some_char : ∀ word ∈ words, word ≠ []) {front : Text}
    (apart : ∀ word ∈ words, ∀ c ∈ front, word.head? ≠ some c) (text : Text) :
    ∃ first parts, cutAtWords words 0 text = first :: parts ∧
      cutAtWords words 0 (front ++ text) = (front ++ first) :: parts := by
  induction front with
  | nil =>
      obtain ⟨first, parts, cut⟩ := List.exists_cons_of_ne_nil (cutAtWords_ne_nil words 0 text)
      exact ⟨first, parts, cut, cut⟩
  | cons c front ih =>
      obtain ⟨first, parts, cut, longer⟩ := ih fun word member d here =>
        apart word member d (List.mem_cons_of_mem _ here)
      have none_here : words.find? (·.isPrefixOf (c :: (front ++ text))) = none := by
        rw [List.find?_eq_none]
        intro word member begins
        obtain ⟨d, rest, rfl⟩ := List.exists_cons_of_ne_nil (some_char word member)
        have same := (List.cons_prefix_cons.1 (List.isPrefixOf_iff_prefix.1 begins)).1
        exact apart _ member c List.mem_cons_self (congrArg some same)
      refine ⟨first, parts, cut, ?_⟩
      rw [List.cons_append, cutAtWords, none_here]
      dsimp only
      rw [longer]
      rfl

end Words

end Text
end FlatStore
