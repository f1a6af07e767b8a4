import FlatStore.Proofs.Failing
import FlatStore.Proofs.Keywords
import FlatStore.Proofs.Openings

/-!
# The shape of inserts

An insert is read from a text with two keywords in it, blanks before the first, the table between
them and the values behind the second.  Which keywords these are and in which order they come is not
looked at: a text has the documented shape exactly if its keywords are those of the documentation.
-/

namespace FlatStore
namespace Plan

open Text

/-- The keyword in front of the table of an insert. -/
def intoWord : Text := "INTO".toList

/-- The keyword in front of the values of an insert. -/
def valuesWord : Text := "VALUES".toList

/-- The text is two keywords, blanks before the first, the table between them and the values behind
the second; no keyword occurs in the text of the table or of the values. -/
def Shaped (first second text table : Text) (values : List Text) : Prop :=
  ∃ lead segment list, text = lead ++ (first ++ (segment ++ (second ++ list))) ∧
    isBlankText lead = true ∧ trim segment = table ∧ Lacks insertWords segment ∧
    Lacks insertWords list ∧ valuesOf list = values

variable {first second text table line : Text} {values : List Text}

/-! ## Texts of this shape -/

theorem nonOverlapping_insertWords : NonOverlapping insertWords := by
  simp [NonOverlapping, insertWords]

theorem lacks_of_isBlankText {lead : Text} (blank : isBlankText lead = true) :
    Lacks insertWords lead := by
  refine lacks_of_foreign nonOverlapping_insertWords.nil_not_mem fun word member c here inside => ?_
  have ink := (isLoose_eq_false_iff.1 ((insertWords_apart word member).2 c inside)).1
  rw [List.all_eq_true.1 blank c here] at ink
  cases ink

/-- A text of this shape is read as an insert, and an insert is read from no other text. -/
theorem readInsert_eq_ok_iff :
    readInsert text = .ok (.insert table values) ↔
      isWord table = true ∧ (∀ value ∈ values, '\t' ∉ value) ∧
        ∃ first ∈ insertWords, ∃ second ∈ insertWords, Shaped first second text table values := by
  have some_char := nonOverlapping_insertWords.nil_not_mem
  constructor
  · intro read
    rw [readInsert] at read
    split at read
    · rename_i lead segment list cut
      obtain ⟨shape, read⟩ := of_require_bind read
      obtain ⟨no_tab, read⟩ := of_require_bind read
      cases read
      rw [Bool.and_eq_true] at shape
      obtain ⟨first, first_member, rest, rfl, -, behind⟩ := exists_of_cutAtWords some_char cut
      obtain ⟨second, second_member, rest, rfl, lacks, behind⟩ :=
        exists_of_cutAtWords some_char behind
      obtain ⟨rfl, list_lacks⟩ := lacks_of_cutAtWords some_char behind
      refine ⟨shape.2, fun value member => ?_, first, first_member, second, second_member, lead,
        segment, list, rfl, shape.1, rfl, lacks, list_lacks, rfl⟩
      simpa using List.all_eq_true.1 no_tab value member
    · cases read
  · rintro ⟨word, no_tab, first, first_member, second, second_member, lead, segment, list, rfl,
      blank, rfl, lacks, list_lacks, rfl⟩
    have apart := nonOverlapping_insertWords
    have all_no_tab : ((valuesOf list).all fun value => !value.contains '\t') = true := by
      rw [List.all_eq_true]
      intro value member
      simpa using no_tab value member
    rw [readInsert, apart.cutAtWords_append first_member (lacks_of_isBlankText blank),
      apart.cutAtWords_append second_member lacks, cutAtWords_of_absent list_lacks]
    dsimp only
    rw [blank, word, all_no_tab]
    rfl

/-- The keywords of a text of this shape are the two that it is made with. -/
theorem occurrences_of_shaped (first_member : first ∈ insertWords)
    (second_member : second ∈ insertWords) (shaped : Shaped first second text table values) :
    occurrences insertWords text = [first, second] := by
  obtain ⟨lead, segment, list, rfl, blank, -, lacks, list_lacks, -⟩ := shaped
  have apart := nonOverlapping_insertWords
  rw [apart.occurrences_append first_member (lacks_of_isBlankText blank),
    apart.occurrences_append second_member lacks, occurrences_of_lacks list_lacks]

/-- The shape does not depend on blanks before the first keyword. -/
theorem shaped_trim_iff (first_member : first ∈ insertWords)
    (last : ∀ c, text.getLast? = some c → isBlank c = false) :
    Shaped first second (trim text) table values ↔ Shaped first second text table values := by
  constructor
  · rintro ⟨lead, segment, list, trimmed, blank, named, lacks, list_lacks, listed⟩
    obtain ⟨front, back, whole, front_blank, back_blank⟩ := exists_trimmed text
    obtain rfl : back = [] := by
      rw [← List.getLast?_eq_none_iff, Option.eq_none_iff_forall_ne_some]
      intro c here
      have ink := last c (by rw [← whole, List.getLast?_append, List.getLast?_append, here]; rfl)
      rw [back_blank c (List.mem_of_getLast? here)] at ink
      cases ink
    refine ⟨front ++ lead, segment, list, ?_, ?_, named, lacks, list_lacks, listed⟩
    · rw [← whole, trimmed, List.append_nil, List.append_assoc]
    · rw [isBlankText, List.all_append, Bool.and_eq_true, List.all_eq_true]
      exact ⟨front_blank, blank⟩
  · rintro ⟨lead, segment, list, rfl, blank, named, lacks, list_lacks, listed⟩
    refine ⟨[], segment, list, ?_, rfl, named, lacks, list_lacks, listed⟩
    rw [trim_blank_append (List.all_eq_true.1 blank), List.nil_append]
    refine trim_of_ends (fun c begins => ?_) fun c here => last c ?_
    · obtain ⟨some_char, ink⟩ := insertWords_apart first first_member
      obtain ⟨d, rest, rfl⟩ := List.exists_cons_of_ne_nil some_char
      cases begins
      exact (isLoose_eq_false_iff.1 (ink _ List.mem_cons_self)).1
    · rw [List.getLast?_append, here]
      rfl

/-! ## Lines -/

/-- A text of this shape is more than blanks and semicolons. -/
theorem stripTerminator_of_shaped (first_member : first ∈ insertWords)
    (shaped : Shaped first second text table values) : (stripTerminator text).isEmpty = false := by
  obtain ⟨lead, segment, list, rfl, -⟩ := shaped
  rw [List.isEmpty_eq_false_iff]
  intro nothing
  obtain ⟨some_char, ink⟩ := insertWords_apart first first_member
  obtain ⟨c, here⟩ := List.exists_mem_of_ne_nil first some_char
  have loose := isLoose_of_stripTerminator nothing c (by simp [here])
  rw [ink c here] at loose
  cases loose

/-- An insert is read from a line exactly if the line opens with its verb and the text behind the
verb has its shape, with any two keywords. -/
theorem read_eq_insert_iff :
    Plan.read line = .ok (.insert table values) ↔
      Opens .insert line ∧ isWord table = true ∧ (∀ value ∈ values, '\t' ∉ value) ∧
        ∃ first ∈ insertWords, ∃ second ∈ insertWords,
          Shaped first second (afterVerb line) table values := by
  constructor
  · intro read
    have opens : Opens .insert line := opens_of_read read
    rw [read_of_opens opens] at read
    split at read
    · cases read
    · obtain ⟨word, no_tab, first, first_member, second, second_member, shaped⟩ :=
        readInsert_eq_ok_iff.1 read
      exact ⟨opens, word, no_tab, first, first_member, second, second_member,
        (shaped_trim_iff first_member fun _ => getLast?_afterVerb).1 shaped⟩
  · rintro ⟨opens, word, no_tab, first, first_member, second, second_member, shaped⟩
    have shaped := (shaped_trim_iff first_member fun _ => getLast?_afterVerb).2 shaped
    rw [read_of_opens opens, stripTerminator_of_shaped first_member shaped,
      if_neg Bool.false_ne_true]
    exact readInsert_eq_ok_iff.2
      ⟨word, no_tab, first, first_member, second, second_member, shaped⟩

/-- A line that opens with the verb is read as an insert or refused for its shape. -/
theorem read_of_opens_insert (opens : Opens .insert line) :
    (∃ table values, Plan.read line = .ok (.insert table values)) ∨
      ∃ cause, Plan.read line = .error (.malformed cause) := by
  cases found : Plan.read line with
  | ok plan =>
      have kind := Option.some.inj ((opens_of_read found).symm.trans opens)
      cases plan <;> cases kind
      exact .inl ⟨_, _, rfl⟩
  | error error =>
      rw [read_of_opens opens] at found
      split at found
      · cases found
        exact .inr ⟨_, rfl⟩
      · obtain ⟨cause, rfl⟩ := isMalformed_readAfter found
        exact .inr ⟨cause, rfl⟩

/-- The texts that are read as inserts are those with two keywords at the right places, and every
other text behind the verb is refused for its shape.  The shape is the documented one exactly if the
two keywords are those of the documentation, in its order. -/
theorem read_insert_shapes (line : Text) :
    (∀ table values, Plan.read line = .ok (.insert table values) ↔
      Opens .insert line ∧ isWord table = true ∧ (∀ value ∈ values, '\t' ∉ value) ∧
        ∃ first ∈ insertWords, ∃ second ∈ insertWords,
          Shaped first second (afterVerb line) table values) ∧
    (Opens .insert line → (∀ table values, Plan.read line ≠ .ok (.insert table values)) →
      ∃ cause, Plan.read line = .error (.malformed cause)) ∧
    ∀ table values, Plan.read line = .ok (.insert table values) →
      (Shaped intoWord valuesWord (afterVerb line) table values ↔
        occurrences insertWords (afterVerb line) = [intoWord, valuesWord]) := by
  refine ⟨fun _ _ => read_eq_insert_iff, fun opens other => ?_, fun table values read => ⟨?_, ?_⟩⟩
  · rcases read_of_opens_insert opens with ⟨table, values, read⟩ | refused
    · exact absurd read (other table values)
    · exact refused
  · exact occurrences_of_shaped (by decide) (by decide)
  · intro documented
    obtain ⟨-, -, -, first, first_member, second, second_member, shaped⟩ :=
      read_eq_insert_iff.1 read
    rw [occurrences_of_shaped first_member second_member shaped] at documented
    obtain ⟨rfl, more⟩ := List.cons.inj documented
    obtain ⟨rfl, -⟩ := List.cons.inj more
    exact shaped

/-- Keywords may stand at words, and an insert without the first one is refused. -/
theorem read_insert_shapes_glued :
    Shaped intoWord valuesWord (afterVerb " insert  INTOt_1VALUES('a b',;\"c\" ) ; ".toList)
        "t_1".toList ["a b".toList, ";c".toList] ∧
      ∃ cause, Plan.read "INSERT t VALUES ('x')".toList = .error (.malformed cause) := by
  have read : Plan.read " insert  INTOt_1VALUES('a b',;\"c\" ) ; ".toList =
      .ok (.insert "t_1".toList ["a b".toList, ";c".toList]) := by decide
  have refused : Plan.read "INSERT t VALUES ('x')".toList = .error (.malformed .insertShape) := by
    decide
  refine ⟨((read_insert_shapes _).2.2 _ _ read).2 (by decide),
    (read_insert_shapes _).2.1 (by decide) fun table values read => ?_⟩
  rw [refused] at read
  cases read

/-- With the keywords in the other order an insert is read as well. -/
theorem not_shaped_swapped :
    Plan.read "INSERT VALUES t INTO (x)".toList = .ok (.insert "t".toList ["x".toList]) ∧
      ¬Shaped intoWord valuesWord (afterVerb "INSERT VALUES t INTO (x)".toList) "t".toList
        ["x".toList] := by
  refine ⟨by decide, fun shaped => ?_⟩
  have keywords := occurrences_of_shaped (by decide) (by decide) shaped
  exact absurd keywords (by decide)

end Plan
end FlatStore
