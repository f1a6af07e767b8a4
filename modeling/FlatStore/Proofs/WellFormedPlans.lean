import FlatStore.Proofs.Terminators

/-!
# Plans are well formed

The names in a plan are single words, its columns and values have nothing around them and nothing
inside that would cut them, and there is at least one of them.  One check is made too early: the
table of a selection loses its semicolons after it has been found not to be empty.
-/

namespace FlatStore

namespace Text

/-- Whether the first word is made of semicolons does not depend on blanks and semicolons behind
the text. -/
theorem all_firstWord_append {tail : Text} (loose : ∀ c ∈ tail, isLoose c = true) (text : Text) :
    (firstWord (text ++ tail)).all (· = ';') = (firstWord text).all (· = ';') := by
  induction text with
  | nil =>
      change (firstWord tail).all (· = ';') = true
      rw [List.all_eq_true]
      intro c member
      have here := loose c ((List.takeWhile_prefix _).subset member)
      by_contra other
      have ink :=
        isLoose_eq_false_iff.2 ⟨not_isBlank_of_mem_firstWord member, by simpa using other⟩
      rw [here] at ink
      cases ink
  | cons c text ih =>
      rw [firstWord, firstWord, List.cons_append, List.takeWhile_cons, List.takeWhile_cons]
      split
      · rw [List.all_cons, List.all_cons]
        exact congrArg (decide (c = ';') && ·) ih
      · rfl

end Text

namespace Plan

open Text

/-! ## Well-formed plans -/

/-- There is a column, and every column is some text without commas and without blanks around it. -/
def AreColumns (columns : List Text) : Prop :=
  columns ≠ [] ∧ ∀ column ∈ columns, column ≠ [] ∧ ',' ∉ column ∧ trim column = column

/-- There is a value, and every value is a text without tabs, commas and decorations and without
blanks around it. -/
def AreValues (values : List Text) : Prop :=
  values ≠ [] ∧ ∀ value ∈ values, '\t' ∉ value ∧ ',' ∉ value ∧
    (∀ c ∈ value, isDecoration c = false) ∧ trim value = value

/-- The names are single words, and the columns and values are in order. -/
def WellFormed : Plan → Prop
  | .createDatabase name => isWord name = true
  | .createTable table columns => isWord table = true ∧ AreColumns columns
  | .use name => isWord name = true
  | .insert table values => isWord table = true ∧ AreValues values
  | .select table columns _ => isWord table = true ∧ ∀ list, columns = some list → AreColumns list

theorem areColumns_of_columnNames {list : ColumnList} {text : Text} {columns : List Text}
    (h : columnNames list text = .ok columns) : AreColumns columns := by
  obtain ⟨filled, read⟩ := of_require_bind h
  cases read
  rw [List.all_eq_true] at filled
  refine ⟨?_, fun column member => ⟨?_, ?_, ?_⟩⟩
  · exact fun none_left => cutAt_ne_nil _ _ (List.map_eq_nil_iff.1 none_left)
  · have some_char := filled column member
    rintro rfl
    cases some_char
  · obtain ⟨part, part_member, rfl⟩ := List.mem_map.1 member
    exact fun here => separator_not_mem_cutAt part_member (mem_of_mem_trim here)
  · obtain ⟨part, -, rfl⟩ := List.mem_map.1 member
    exact trim_trim part

theorem areValues_valuesOf {text : Text} (no_tab : ∀ value ∈ valuesOf text, '\t' ∉ value) :
    AreValues (valuesOf text) := by
  refine ⟨?_, fun value member => ⟨no_tab value member, ?_⟩⟩
  · exact fun none_left => cutAt_ne_nil _ _ (List.map_eq_nil_iff.1 none_left)
  · obtain ⟨part, part_member, rfl⟩ := List.mem_map.1 member
    refine ⟨fun here => separator_not_mem_cutAt part_member (mem_of_mem_trim here), ?_,
      trim_trim part⟩
    intro c here
    have kept := (List.mem_filter.1 (mem_of_mem_cutAt (mem_of_mem_trim here) part_member)).2
    simpa using kept

theorem wellFormed_of_readCreateTable {text : Text} {plan : Plan}
    (h : readCreateTable text = .ok plan) : plan.WellFormed := by
  obtain ⟨shape, read⟩ := of_require_bind h
  rw [Bool.and_eq_true, Bool.and_eq_true] at shape
  obtain ⟨columns, listed, rfl⟩ := map_eq_ok read
  exact ⟨shape.1.2, areColumns_of_columnNames listed⟩

theorem wellFormed_of_readCreate {text : Text} {plan : Plan} (h : readCreate text = .ok plan) :
    plan.WellFormed := by
  rw [readCreate] at h
  split at h
  · obtain ⟨name, read, rfl⟩ := map_eq_ok h
    exact isWord_of_singleName read
  · split at h
    · exact wellFormed_of_readCreateTable h
    · cases h

theorem wellFormed_of_readInsert {text : Text} {plan : Plan} (h : readInsert text = .ok plan) :
    plan.WellFormed := by
  rw [readInsert] at h
  split at h
  · rename_i lead middle list cut
    obtain ⟨shape, read⟩ := of_require_bind h
    obtain ⟨no_tab, read⟩ := of_require_bind read
    rw [Bool.and_eq_true] at shape
    rw [List.all_eq_true] at no_tab
    have values : AreValues (valuesOf list) :=
      areValues_valuesOf fun value member => by simpa using no_tab value member
    cases read
    exact ⟨shape.2, values⟩
  · cases h

/-! ## The table of a selection -/

/-- The first word of a text without the semicolons at its end is a word, unless the word is made of
semicolons. -/
theorem isWord_table_iff {target : Text} :
    isWord (trimEnd (· = ';') (firstWord target)) = true ↔
      ¬(firstWord target).all (· = ';') = true := by
  have inner : (trimEnd (· = ';') (firstWord target)).all (fun c => !isBlank c) = true := by
    rw [List.all_eq_true]
    intro c member
    rw [not_isBlank_of_mem_firstWord ((trimEnd_initial _ _).subset member)]
    rfl
  rw [isWord, inner, Bool.and_true, Bool.not_eq_true', List.isEmpty_eq_false_iff, Ne,
    trimEnd_eq_nil_iff, List.all_eq_true]

theorem exists_select_parts {text : Text} {plan : Plan} (h : readSelect text = .ok plan) :
    ∃ list rest, cutAtWords selectWords 0 text = [list, rest] ∧ stripTerminator rest ≠ [] ∧
      (plan.WellFormed ↔ ¬(firstWord (stripTerminator rest)).all (· = ';') = true) := by
  rw [readSelect] at h
  split at h
  · rename_i list rest cut
    obtain ⟨shape, read⟩ := of_require_bind h
    rw [Bool.and_eq_true] at shape
    refine ⟨list, rest, cut, by simpa using shape.2, ?_⟩
    rw [← isWord_table_iff]
    dsimp only at read
    split at read
    · cases read
      refine and_iff_left fun _ here => ?_
      cases here
    · obtain ⟨columns, listed, rfl⟩ := map_eq_ok read
      refine and_iff_left fun _ here => ?_
      cases here
      exact areColumns_of_columnNames listed
  · cases h

/-! ## The line of a selection -/

/-- The text behind the last keyword of a selection. -/
def behindFrom (line : Text) : Text := (cutAtWords selectWords 0 line).getLastD []

/-- The line selects, and the first word behind the keyword is made of semicolons. -/
def SelectsSemicolons (line : Text) : Prop :=
  Opening.ofWord? (upTo ' ' (trim line)) = some .select ∧
    (firstWord (trimStart isBlank (behindFrom line))).all (· = ';') = true

instance (line : Text) : Decidable (SelectsSemicolons line) :=
  inferInstanceAs (Decidable (_ ∧ _))

/-- A word that opens a selection holds no first letter of the keyword. -/
theorem not_mem_of_select {verb : Text} (opens : Opening.ofWord? verb = some .select) :
    'F' ∉ verb := by
  have spelled := List.find?_some opens
  have same : capitals verb = "SELECT".toList := beq_iff_eq.1 spelled
  intro member
  have capital : 'F' ∈ capitals verb := List.mem_flatMap.2 ⟨'F', member, by decide⟩
  rw [same] at capital
  exact absurd capital (by decide)

/-- Blanks around a selection and its opening word do not matter for what stands behind the
keyword. -/
theorem behindFrom_append {lead part back list rest : Text} (no_keyword : 'F' ∉ lead)
    (blank : ∀ c ∈ back, isBlank c = true)
    (cut : cutAtWords selectWords 0 part = [list, rest]) :
    behindFrom (lead ++ (part ++ back)) = rest ++ back := by
  have some_char : ∀ word ∈ selectWords, word ≠ [] := by decide
  have lead_apart : ∀ word ∈ selectWords, ∀ c ∈ lead, word.head? ≠ some c := by
    intro word member c here first
    obtain rfl := List.mem_singleton.1 member
    cases first
    exact no_keyword here
  have back_apart : ∀ word ∈ selectWords, ∀ c ∈ word, c ∉ back := by
    intro word member c inside here
    have ink := (isLoose_eq_false_iff.1 ((selectWords_apart word member).2 c inside)).1
    rw [blank c here] at ink
    cases ink
  obtain ⟨parts, last, -, known, longer⟩ := cutAtWords_append some_char (Nat.zero_le part.length)
  obtain ⟨first, more, behind, whole⟩ := append_cutAtWords some_char lead_apart (part ++ back)
  have same : parts ++ [last] = [list] ++ [rest] := known.symm.trans cut
  obtain ⟨rfl, one⟩ := List.append_inj' same rfl
  obtain rfl := (List.cons.inj one).1
  rw [longer back back_apart] at behind
  obtain ⟨rfl, rfl⟩ := List.cons.inj behind
  rw [behindFrom, whole]
  rfl

theorem exists_ink {text : Text} (some_char : trimStart isBlank text ≠ []) :
    ∃ c ∈ text, isBlank c = false := by
  obtain ⟨c, rest, kept⟩ := List.exists_cons_of_ne_nil some_char
  refine ⟨c, (trimStart_final isBlank text).subset ?_, trimStart_eq_cons kept⟩
  rw [kept]
  exact List.mem_cons_self

/-- Only blanks and semicolons are removed behind what is left of a text. -/
theorem exists_removed_behind {text : Text} (some_char : stripTerminator text ≠ []) :
    ∃ removed, trimStart isBlank text = stripTerminator text ++ removed ∧
      ∀ c ∈ removed, isLoose c = true := by
  obtain ⟨blanks, run, back, -, -, whole, blank, semicolons, back_blank⟩ := exists_removed text
  rw [stripTerminator_eq] at some_char ⊢
  obtain ⟨c, member, ink⟩ := exists_ink some_char
  refine ⟨blanks ++ (run ++ back), ?_, fun d here => ?_⟩
  · rw [← trimStart_append member ink, whole]
  · have classes : isBlank d = true ∨ d = ';' := by
      rcases List.mem_append.1 here with here | here
      · exact .inl (blank d here)
      · exact (List.mem_append.1 here).symm.imp (back_blank d) (semicolons d)
    rw [isLoose, Bool.or_eq_true, decide_eq_true_eq]
    exact classes

/-- Around a selection nothing matters for the first word behind its keyword. -/
theorem selectsSemicolons_iff {line lead part back list rest : Text}
    (whole : lead ++ (part ++ back) = line) (blank : ∀ c ∈ back, isBlank c = true)
    (spelled : Opening.ofWord? (upTo ' ' (trim line)) = some .select)
    (lead_chars : ∀ c ∈ lead, isBlank c = true ∨ c ∈ upTo ' ' (trim line))
    (cut : cutAtWords selectWords 0 part = [list, rest]) (some_char : stripTerminator rest ≠ []) :
    SelectsSemicolons line ↔ (firstWord (stripTerminator rest)).all (· = ';') = true := by
  have no_keyword : 'F' ∉ lead := by
    intro member
    rcases lead_chars _ member with impossible | in_verb
    · cases impossible
    · exact not_mem_of_select spelled in_verb
  obtain ⟨removed, kept, loose⟩ := exists_removed_behind some_char
  have some_rest : trimStart isBlank rest ≠ [] := by
    rw [kept]
    exact List.append_ne_nil_of_left_ne_nil some_char removed
  obtain ⟨c, member, ink⟩ := exists_ink some_rest
  have loose_behind : ∀ c ∈ removed ++ back, isLoose c = true := by
    intro c member
    rcases List.mem_append.1 member with here | here
    · exact loose c here
    · rw [isLoose, blank c here, Bool.true_or]
  rw [SelectsSemicolons, and_iff_right spelled, ← whole, behindFrom_append no_keyword blank cut,
    trimStart_append member ink, kept, List.append_assoc, all_firstWord_append loose_behind]

/-- The plan of a line is well formed exactly if the line does not select from semicolons. -/
theorem wellFormed_iff_of_read {line : Text} {plan : Plan} (h : Plan.read line = .ok plan) :
    plan.WellFormed ↔ ¬SelectsSemicolons line := by
  obtain ⟨opening, lead, part, back, whole, read, spelled, lead_chars, blank⟩ :=
    exists_remainder_of_read h
  cases opening with
  | create =>
      change readCreate part = .ok plan at read
      refine iff_of_true (wellFormed_of_readCreate read) fun selects => ?_
      cases spelled.symm.trans selects.1
  | use =>
      obtain ⟨name, named, rfl⟩ := map_eq_ok read
      refine iff_of_true (isWord_of_singleName named) fun selects => ?_
      cases spelled.symm.trans selects.1
  | insert =>
      change readInsert part = .ok plan at read
      refine iff_of_true (wellFormed_of_readInsert read) fun selects => ?_
      cases spelled.symm.trans selects.1
  | select =>
      obtain ⟨list, rest, cut, some_char, shape⟩ := exists_select_parts read
      rw [shape, selectsSemicolons_iff whole blank spelled lead_chars cut some_char]

/-- A semicolon behind the name of a table does not belong to the name. -/
theorem wellFormed_select_terminated :
    Plan.read "select b , a FROM t; x".toList =
        .ok (.select "t".toList (some ["b".toList, "a".toList]) "x".toList) ∧
      ¬SelectsSemicolons "select b , a FROM t; x".toList ∧
      (Plan.select "t".toList (some ["b".toList, "a".toList]) "x".toList).WellFormed := by
  have read : Plan.read "select b , a FROM t; x".toList =
      .ok (.select "t".toList (some ["b".toList, "a".toList]) "x".toList) := by decide
  have ordinary : ¬SelectsSemicolons "select b , a FROM t; x".toList := by decide
  exact ⟨read, ordinary, (wellFormed_iff_of_read read).2 ordinary⟩

/-- A semicolon in the place of the name passes for a name before it is removed. -/
theorem not_wellFormed_select_semicolon :
    Plan.read "SELECT * FROM ; x".toList = .ok (.select [] none "x".toList) ∧
      ¬(Plan.select [] none "x".toList).WellFormed :=
  ⟨by decide, fun wellFormed => Bool.noConfusion wellFormed.1⟩

end Plan
end FlatStore
