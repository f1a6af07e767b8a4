import FlatStore.Proofs.Plans
import Mathlib.Tactic.SplitIfs

/-!
# What is said in one line

The words of a command line go into the plan, and from there into acknowledgements and error
reasons, as they are.  So a line without line feeds is answered without line feeds: nothing else
that goes into an answer holds one, and what comes from the operating system is quoted.
-/

namespace FlatStore

namespace Text

/-- The text holds no line feed. -/
def OneLine (text : Text) : Prop := '\n' ∉ text

instance (text : Text) : Decidable (OneLine text) := inferInstanceAs (Decidable (¬_))

theorem oneLine_append {left right : Text} :
    OneLine (left ++ right) ↔ OneLine left ∧ OneLine right := by
  simp [OneLine, not_or]

theorem oneLine_cons {c : Char} {text : Text} : OneLine (c :: text) ↔ c ≠ '\n' ∧ OneLine text := by
  simp [OneLine, not_or, eq_comm]

theorem OneLine.mono {part text : Text} (flat : OneLine text) (inside : ∀ c ∈ part, c ∈ text) :
    OneLine part :=
  fun member => flat (inside _ member)

theorem oneLine_of_isWord {text : Text} (word : isWord text = true) : OneLine text := by
  intro member
  have ink := not_isBlank_of_isWord word member
  cases ink

theorem oneLine_natural (n : Nat) : OneLine (Numeral.natural n) := by
  intro member
  have digit := Nat.isDigit_of_mem_toDigits (by decide) (by decide) member
  cases digit

theorem oneLine_hexDigits (width n : Nat) : OneLine (hexDigits width n) := by
  have digit : ∀ value < 16, hexDigit value ≠ '\n' := by decide
  induction width generalizing n with
  | zero => simp [OneLine, hexDigits]
  | succ width ih =>
      rw [hexDigits, oneLine_append]
      exact ⟨ih _, by simpa [OneLine] using (digit (n % 16) (Nat.mod_lt _ (by decide))).symm⟩

theorem oneLine_quotedChar {mark : Char} (c : Char) (apart : mark ≠ '\n') :
    OneLine (quotedChar mark c) := by
  by_cases lineFeed : c = '\n'
  · subst lineFeed
    have escaped : quotedChar mark '\n' = ['\\', 'n'] := by simp [quotedChar, Ne.symm apart]
    rw [escaped]
    decide
  · rw [quotedChar]
    have letter : ∀ digits, OneLine digits → ∀ kind ∈ ['x', 'u', 'U'],
        OneLine ('\\' :: kind :: digits) := by
      intro digits flat kind member
      refine oneLine_cons.2 ⟨by decide, oneLine_cons.2 ⟨?_, flat⟩⟩
      rintro rfl
      simp at member
    split_ifs
    · simp [OneLine, Ne.symm lineFeed]
    · decide
    · decide
    · simp [OneLine, Ne.symm lineFeed]
    · exact letter _ (oneLine_hexDigits _ _) _ (by simp)
    · exact letter _ (oneLine_hexDigits _ _) _ (by simp)
    · exact letter _ (oneLine_hexDigits _ _) _ (by simp)

/-- What is quoted is one line. -/
theorem oneLine_quoted (text : Text) : OneLine (quoted text) := by
  have mark : quotationMark text ≠ '\n' := by
    rw [quotationMark]
    split <;> decide
  rw [quoted, List.cons_append, oneLine_cons, oneLine_append]
  refine ⟨mark, fun member => ?_, by simp [OneLine, Ne.symm mark]⟩
  obtain ⟨c, -, here⟩ := List.mem_flatMap.1 member
  exact oneLine_quotedChar c mark here

end Text

open Text

/-! ## Errors -/

theorem Utf8.Failure.oneLine_message (failure : Utf8.Failure) : OneLine failure.message := by
  have flaw : OneLine failure.flaw.text := by cases failure.flaw <;> decide
  unfold message
  dsimp only
  split <;>
    simp only [oneLine_append, oneLine_cons, oneLine_natural, oneLine_hexDigits, flaw] <;> decide

theorem Refusal.oneLine_message (refusal : Refusal) (path : Text) :
    OneLine (refusal.message path) := by
  have description : OneLine refusal.description := by cases refusal <;> decide
  unfold message
  simp only [oneLine_append, oneLine_natural, oneLine_quoted, description]
  decide

theorem SyntaxError.oneLine_reason (cause : SyntaxError) : OneLine cause.reason := by
  cases cause with
  | notOneName role => cases role <;> decide
  | emptyColumn list => cases list <;> decide
  | _ => decide

theorem FileTrouble.oneLine_words (trouble : FileTrouble) : OneLine trouble.words := by
  cases trouble with
  | refused refusal shown => exact refusal.oneLine_message shown
  | diskFull => decide

/-- The texts that the wording of a header's flaw repeats as they are. -/
def HeaderFlaw.echoes : HeaderFlaw → List Text
  | .notIdentity cell => [cell]
  | .missing | .empty | .undecodable _ => []

theorem HeaderFlaw.oneLine_reason {flaw : HeaderFlaw} (flat : ∀ text ∈ flaw.echoes, OneLine text) :
    OneLine flaw.reason := by
  unfold reason
  cases flaw with
  | missing | empty => decide
  | notIdentity cell =>
      simp only [oneLine_append, flat cell (by simp [echoes])]
      decide
  | undecodable failure =>
      simp only [oneLine_append, failure.oneLine_message]
      decide

namespace StoreError

/-- The texts that the wording of an error repeats as they are. -/
def echoes : StoreError → List Text
  | .unknownVerb verb => [verb]
  | .invalidName _ name => [name]
  | .duplicateColumn column => [column]
  | .wrongValueCount table _ _ => [table]
  | .noDatabase database | .databaseExists database => [database]
  | .noTable table | .tableExists table => [table]
  | .noColumn column table => [column, table]
  | .header flaw => flaw.echoes
  | .noIdentities database table => [database, table]
  | .malformed _ | .noColumns | .identityGiven | .noneSelected | .file _ _ | .undecodableData _ =>
      []

/-- An error that repeats single lines is worded in one line. -/
theorem oneLine_reason {error : StoreError} (flat : ∀ text ∈ error.echoes, OneLine text) :
    OneLine error.reason := by
  unfold reason
  cases error with
  | malformed cause => exact cause.oneLine_reason
  | invalidName role name =>
      have word : OneLine role.word := by cases role <;> decide
      simp only [oneLine_append, word, flat name (by simp [echoes])]
      decide
  | wrongValueCount table expected given =>
      simp only [oneLine_append, oneLine_natural, flat table (by simp [echoes])]
      decide
  | noColumn column table =>
      simp only [oneLine_append, flat column (by simp [echoes]), flat table (by simp [echoes])]
      decide
  | file task trouble =>
      have words : OneLine task.words := by cases task <;> decide
      simp only [oneLine_append, words, trouble.oneLine_words, and_self]
  | undecodableData failure =>
      simp only [oneLine_append, failure.oneLine_message]
      decide
  | header flaw => exact flaw.oneLine_reason flat
  | noIdentities database table =>
      simp only [oneLine_append, oneLine_cons, flat database (by simp [echoes]),
        flat table (by simp [echoes])]
      decide
  | unknownVerb text | duplicateColumn text | noDatabase text | noTable text
  | databaseExists text | tableExists text =>
      simp only [oneLine_append, flat text (by simp [echoes])]
      decide
  | noColumns | identityGiven | noneSelected => decide

end StoreError

/-! ## Plans -/

namespace Plan

/-- The texts of a command line that stand in its plan. -/
def texts : Plan → List Text
  | .createDatabase name | .use name => [name]
  | .createTable table columns => table :: columns
  | .insert table values => table :: values
  | .select table columns ignored => table :: ignored :: columns.getD []

/-- What stands in a plan are characters of a text. -/
def Within (text : Text) (plan : Plan) : Prop := ∀ part ∈ plan.texts, ∀ c ∈ part, c ∈ text

theorem Within.mono {part line : Text} {plan : Plan} (inside : ∀ c ∈ part, c ∈ line)
    (within : plan.Within part) : plan.Within line :=
  fun text member c here => inside c (within text member c here)

theorem mem_of_mem_stripTerminator {text : Text} {c : Char} (member : c ∈ stripTerminator text) :
    c ∈ text :=
  mem_of_mem_trim ((trimEnd_initial _ _).subset (mem_of_mem_trim member))

theorem mem_of_singleName {role : NameRole} {text name : Text}
    (h : singleName role text = .ok name) : ∀ c ∈ name, c ∈ text := by
  obtain ⟨-, read⟩ := of_require_bind h
  cases read
  exact fun c => mem_of_mem_stripTerminator

theorem mem_of_columnNames {list : ColumnList} {text : Text} {columns : List Text}
    (h : columnNames list text = .ok columns) : ∀ column ∈ columns, ∀ c ∈ column, c ∈ text := by
  intro column member c here
  rw [columnNames_eq_ok h] at member
  obtain ⟨part, part_member, rfl⟩ := List.mem_map.1 member
  exact mem_of_mem_cutAt (mem_of_mem_trim here) part_member

theorem within_readUse {text : Text} {plan : Plan} (h : readUse text = .ok plan) :
    plan.Within text := by
  obtain ⟨name, read, rfl⟩ := map_eq_ok h
  intro part member
  rw [List.mem_singleton.1 member]
  exact mem_of_singleName read

theorem within_readCreateTable {text : Text} {plan : Plan} (h : readCreateTable text = .ok plan) :
    plan.Within text := by
  obtain ⟨-, read⟩ := of_require_bind h
  obtain ⟨columns, listed, rfl⟩ := map_eq_ok read
  intro part member c here
  rcases List.mem_cons.1 member with rfl | member
  · exact (List.takeWhile_sublist _).subset (mem_of_mem_trim here)
  · have in_list := mem_of_columnNames listed part member c here
    exact mem_of_mem_behind (mem_of_mem_trim ((List.dropLast_sublist _).subset in_list))

theorem within_readCreate {text : Text} {plan : Plan} (h : readCreate text = .ok plan) :
    plan.Within text := by
  rw [readCreate] at h
  have inside : ∀ c ∈ behind ' ' (stripTerminator text), c ∈ text := fun c member =>
    mem_of_mem_stripTerminator (mem_of_mem_behind member)
  split at h
  · obtain ⟨name, read, rfl⟩ := map_eq_ok h
    intro part member c here
    rw [List.mem_singleton.1 member] at here
    exact inside c (mem_of_singleName read c here)
  · split at h
    · exact (within_readCreateTable h).mono inside
    · cases h

theorem within_readInsert {text : Text} {plan : Plan} (h : readInsert text = .ok plan) :
    plan.Within text := by
  have fits := fits_of_readInsert h
  rw [readInsert] at h
  split at h
  · rename_i lead middle list cut
    obtain ⟨-, read⟩ := of_require_bind h
    obtain ⟨-, read⟩ := of_require_bind read
    cases read
    intro part member c here
    rcases List.mem_cons.1 member with rfl | member
    · exact mem_of_mem_cutAtWords (by rw [cut]; simp) (mem_of_mem_trim here)
    · exact (fits.2 part member).2 c here
  · cases h

theorem within_readSelect {text : Text} {plan : Plan} (h : readSelect text = .ok plan) :
    plan.Within text := by
  rw [readSelect] at h
  split at h
  · rename_i list rest cut
    obtain ⟨-, read⟩ := of_require_bind h
    have in_rest : ∀ c ∈ stripTerminator rest, c ∈ text := fun c here =>
      mem_of_mem_cutAtWords (by rw [cut]; simp) (mem_of_mem_stripTerminator here)
    have in_table : ∀ c ∈ trimEnd (· = ';') (firstWord (stripTerminator rest)), c ∈ text :=
      fun c here =>
        in_rest c ((List.takeWhile_sublist _).subset ((trimEnd_initial _ _).subset here))
    have in_ignored : ∀ c ∈ afterFirstWord (stripTerminator rest), c ∈ text := fun c here =>
      in_rest c ((List.dropWhile_sublist _).subset ((List.dropWhile_sublist _).subset here))
    dsimp only at read
    split at read
    · cases read
      intro part member
      simp only [texts, Option.getD_none, List.mem_cons, List.not_mem_nil, or_false] at member
      rcases member with same | same
      · exact same ▸ in_table
      · exact same ▸ in_ignored
    · obtain ⟨columns, listed, rfl⟩ := map_eq_ok read
      intro part member
      simp only [texts, Option.getD_some, List.mem_cons] at member
      rcases member with same | same | member
      · exact same ▸ in_table
      · exact same ▸ in_ignored
      · intro c here
        have in_list := mem_of_columnNames listed part member c here
        exact mem_of_mem_cutAtWords (by rw [cut]; simp) (mem_of_mem_trim in_list)
  · cases h

/-- Reading a line invents no character. -/
theorem within_of_read {line : Text} {plan : Plan} (h : Plan.read line = .ok plan) :
    plan.Within line := by
  obtain ⟨opening, part, read, inside⟩ := exists_part_of_read h
  refine Within.mono inside ?_
  cases opening with
  | create => exact within_readCreate read
  | use => exact within_readUse read
  | insert => exact within_readInsert read
  | select => exact within_readSelect read

/-- The texts in the plan of a single line are single lines. -/
theorem oneLine_of_read {line : Text} {plan : Plan} (flat : OneLine line)
    (h : Plan.read line = .ok plan) : ∀ text ∈ plan.texts, OneLine text :=
  fun text member => flat.mono (within_of_read h text member)

end Plan
end FlatStore
