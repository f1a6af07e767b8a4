import FlatStore.Proofs.Terminators

/-!
# Opening words

A line is read by its opening word, in any case of its letters, if more than blanks and semicolons
stands behind it, and what is read is a plan of the kind that the word says.
-/

namespace FlatStore

namespace Text

/-! ## Cases of letters -/

/-- The text is the word in some case of each of its letters. -/
def IsCaseOf (word text : Text) : Prop := text.map Char.toUpper = word

section Cases

variable {word text : Text}

theorem isAlpha_of_toUpper {c : Char} (upper : c.toUpper.isUpper = true) : c.isAlpha = true := by
  refine Bool.or_eq_true_iff.2 ?_
  by_cases lower : c.isLower = true
  · exact .inr lower
  · have same : c.toUpper = c := dif_neg fun within =>
      lower (Bool.and_eq_true_iff.2 ⟨decide_eq_true within.1, decide_eq_true within.2⟩)
    exact .inl (same ▸ upper)

/-- The characters with more capitals than one, or with that of another letter, have none here. -/
theorem capitalsOf_of_toUpper {c : Char} (upper : c.toUpper.isUpper = true) :
    capitalsOf c = [c.toUpper] := by
  unfold capitalsOf
  split
  case h_11 => rfl
  all_goals exact absurd upper (by decide)

theorem IsCaseOf.nameChar (letters : word.all Char.isUpper = true) (same : IsCaseOf word text) :
    ∀ c ∈ text, isNameChar c = true := by
  intro c member
  rw [IsCaseOf] at same
  rw [← same, List.all_eq_true] at letters
  have alpha := isAlpha_of_toUpper (letters _ (List.mem_map_of_mem member))
  rw [isNameChar, Char.isAlphanum, alpha]
  rfl

theorem IsCaseOf.not_isBlank (letters : word.all Char.isUpper = true) (same : IsCaseOf word text) :
    ∀ c ∈ text, isBlank c = false := fun c member =>
  not_isBlank_of_isNameChar (same.nameChar letters c member)

theorem IsCaseOf.ne_nil (some_letter : word ≠ []) (same : IsCaseOf word text) : text ≠ [] := by
  rintro rfl
  exact some_letter same.symm

theorem IsCaseOf.capitals_eq (letters : word.all Char.isUpper = true) (same : IsCaseOf word text) :
    capitals text = word := by
  rw [IsCaseOf] at same
  subst same
  induction text with
  | nil => rfl
  | cons c text ih =>
      rw [List.map_cons, List.all_cons, Bool.and_eq_true] at letters
      rw [capitals, List.flatMap_cons, capitalsOf_of_toUpper letters.1]
      exact congrArg (c.toUpper :: ·) (ih letters.2)

end Cases

end Text

namespace Plan

open Text

/-- The line, trimmed, begins with a spelling of the opening word. -/
def Opens (opening : Opening) (line : Text) : Prop :=
  Opening.ofWord? (upTo ' ' (trim line)) = some opening

/-- What stands behind the first space of the trimmed line. -/
def afterVerb (line : Text) : Text := behind ' ' (trim line)

instance (opening : Opening) (line : Text) : Decidable (Opens opening line) :=
  inferInstanceAs (Decidable (_ = _))

variable {text line : Text}

/-! ## Kinds of plans -/

/-- The opening word of a plan. -/
def opening : Plan → Opening
  | .createDatabase _ | .createTable _ _ => .create
  | .use _ => .use
  | .insert _ _ => .insert
  | .select _ _ _ => .select

theorem opening_of_readCreateTable {plan : Plan} (read : readCreateTable text = .ok plan) :
    plan.opening = .create := by
  obtain ⟨-, read⟩ := of_require_bind read
  obtain ⟨columns, -, rfl⟩ := map_eq_ok read
  rfl

theorem opening_of_readCreate {plan : Plan} (read : readCreate text = .ok plan) :
    plan.opening = .create := by
  rw [readCreate] at read
  split at read
  · obtain ⟨name, -, rfl⟩ := map_eq_ok read
    rfl
  · split at read
    · exact opening_of_readCreateTable read
    · cases read

theorem opening_of_readInsert {plan : Plan} (read : readInsert text = .ok plan) :
    plan.opening = .insert := by
  rw [readInsert] at read
  split at read
  · obtain ⟨-, read⟩ := of_require_bind read
    obtain ⟨-, read⟩ := of_require_bind read
    cases read
    rfl
  · cases read

theorem opening_of_readSelect {plan : Plan} (read : readSelect text = .ok plan) :
    plan.opening = .select := by
  rw [readSelect] at read
  split at read
  · obtain ⟨-, read⟩ := of_require_bind read
    dsimp only at read
    split at read
    · cases read
      rfl
    · obtain ⟨columns, -, rfl⟩ := map_eq_ok read
      rfl
  · cases read

/-- What is read behind an opening word is a plan of its kind. -/
theorem opening_of_readAfter {word : Opening} {plan : Plan}
    (read : readAfter word text = .ok plan) : plan.opening = word := by
  cases word with
  | create =>
      change readCreate text = .ok plan at read
      exact opening_of_readCreate read
  | use =>
      change readUse text = .ok plan at read
      obtain ⟨name, -, rfl⟩ := map_eq_ok read
      rfl
  | insert => exact opening_of_readInsert read
  | select => exact opening_of_readSelect read

/-! ## Lines -/

theorem opens_of_read {plan : Plan} (read : Plan.read line = .ok plan) :
    Opens plan.opening line := by
  obtain ⟨word, -, part, -, -, read, spelled, -⟩ := exists_remainder_of_read read
  rw [opening_of_readAfter read]
  exact spelled

/-- Nothing is left of blanks and semicolons only. -/
theorem isLoose_of_stripTerminator (nothing : stripTerminator text = []) :
    ∀ c ∈ text, isLoose c = true := by
  intro c member
  obtain ⟨blanks, run, back, -, -, whole, blank, semicolons, back_blank⟩ := exists_removed text
  rw [stripTerminator_eq] at nothing
  have rest_blank := List.dropWhile_eq_nil_iff.1 nothing
  rw [← whole] at member
  rw [isLoose, Bool.or_eq_true, decide_eq_true_eq]
  simp only [List.mem_append] at member
  rcases member with here | here | here | here
  · exact .inl (rest_blank c here)
  · exact .inl (blank c here)
  · exact .inr (semicolons c here)
  · exact .inl (back_blank c here)

/-- A line is read by its opening word if more than blanks and semicolons stands behind it. -/
theorem read_of_opens {word : Opening} (opens : Opens word line) :
    Plan.read line =
      if (stripTerminator (trim (afterVerb line))).isEmpty then .error (.malformed .bareVerb)
      else readAfter word (trim (afterVerb line)) := by
  have unknown : Opening.ofWord? (upTo ' ' []) = none := by decide
  rw [Opens] at opens
  have some_char : (trim line).isEmpty = false := by
    rw [List.isEmpty_eq_false_iff]
    intro nothing
    rw [nothing, unknown] at opens
    cases opens
  rw [Plan.read, some_char]
  dsimp only
  rw [opens, if_neg Bool.false_ne_true, afterVerb]

theorem getLast?_afterVerb {c : Char} (last : (afterVerb line).getLast? = some c) :
    isBlank c = false := by
  rw [afterVerb, behind] at last
  cases found : behind? ' ' (trim line) with
  | none =>
      rw [found] at last
      cases last
  | some rest =>
      rw [found, Option.getD_some] at last
      obtain ⟨front, whole⟩ := final_of_behind? found
      have ends : (trim line).getLast? = some c := by
        rw [← whole, List.getLast?_append, last]
        rfl
      exact getLast?_trim ends

/-! ## Statements -/

/-- A text without blanks in front that ends in neither a blank nor a semicolon is left as it is. -/
theorem stripTerminator_of_ends (first : ∀ c, text.head? = some c → isBlank c = false)
    (last : ∀ c, text.getLast? = some c → isLoose c = false) : stripTerminator text = text := by
  have whole := dropTerminator_append last []
  rw [List.append_nil] at whole
  rw [stripTerminator_eq, whole]
  change trimStart isBlank (text ++ []) = text
  rw [List.append_nil, trimStart_of_head first]

/-- The opening words are made of capitals. -/
theorem all_isUpper_word (opening : Opening) : opening.word.all Char.isUpper = true := by
  cases opening <;> decide

theorem ofWord?_of_capitals {opening : Opening} {verb : Text}
    (spelled : capitals verb = opening.word) : Opening.ofWord? verb = some opening := by
  rw [Opening.ofWord?]
  simp only [spells, spelled]
  cases opening <;> decide

/-- A statement is an opening word in any case, a space, and what is read behind the word; blanks
may stand before it, and blanks with one run of semicolons behind it. -/
theorem read_statement {opening : Opening} {lead verb rest tail : Text} {c : Char}
    (blank : ∀ d ∈ lead, isBlank d = true) (spelled : IsCaseOf opening.word verb)
    (last : rest.getLast? = some c) (ink : isLoose c = false)
    (loose : ∀ d ∈ tail, isLoose d = true) (few : terminators tail ≤ 1) :
    Plan.read (lead ++ (verb ++ ' ' :: (rest ++ tail))) =
      readAfter opening (trimStart isBlank rest) := by
  have letters := spelled.nameChar (all_isUpper_word opening)
  have no_space : ' ' ∉ verb := fun member => by
    have impossible := letters _ member
    cases impossible
  have some_letter : verb ≠ [] := by
    rintro rfl
    cases opening <;> cases spelled
  have start : trimStart isBlank (lead ++ (verb ++ ' ' :: rest)) = verb ++ ' ' :: rest := by
    obtain ⟨d, verb, rfl⟩ := List.exists_cons_of_ne_nil some_letter
    rw [trimStart, List.dropWhile_append_of_pos blank]
    refine trimStart_of_head fun e first => ?_
    cases first
    exact not_isBlank_of_isNameChar (letters _ List.mem_cons_self)
  have found : behind? ' ' (trimStart isBlank (lead ++ (verb ++ ' ' :: rest))) = some rest := by
    rw [start, behind?_append_mark no_space]
  have ends : (lead ++ (verb ++ ' ' :: rest)).getLast? = some c := by
    rw [List.getLast?_append, List.getLast?_append, List.getLast?_cons, last]
    rfl
  have rest_ink : ∀ d, (trimStart isBlank rest).getLast? = some d → isLoose d = false := by
    intro d here
    rw [getLast?_trimStart last (isLoose_eq_false_iff.1 ink).1] at here
    cases here
    exact ink
  have trimmed_loose : ∀ d ∈ trimEnd isBlank tail, isLoose d = true := fun d member =>
    loose d ((trimEnd_initial _ _).subset member)
  have nothing : dropTerminator (trimEnd isBlank tail) = dropTerminator [] := by
    have one_run : terminators ([] ++ tail) ≤ max 1 (terminators []) := few
    rw [dropTerminator_trimEnd]
    exact (dropTerminator_append_eq_iff (List.forall_mem_nil _) loose).2 one_run
  have whole : lead ++ (verb ++ ' ' :: (rest ++ tail)) = lead ++ (verb ++ ' ' :: rest) ++ tail := by
    simp only [List.append_assoc, List.cons_append]
  rw [whole, read_append ends ink found (List.ne_nil_of_mem (List.mem_of_getLast? last)), start,
    upTo_append_mark no_space,
    ofWord?_of_capitals (spelled.capitals_eq (all_isUpper_word opening))]
  dsimp only
  rw [readAfter_append rest_ink trimmed_loose (List.forall_mem_nil _) nothing, List.append_nil]

end Plan
end FlatStore
