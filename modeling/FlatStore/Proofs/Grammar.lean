import FlatStore.Proofs.Entries
import FlatStore.Proofs.InsertShape
import FlatStore.Proofs.WellFormedPlans

/-!
# The grammar of commands

A command is written as its verb, in any case of the letters, and what the verb needs, with any
number of spaces between the parts, around commas and at both ends, and with a semicolon at the end
or none.  Every command that is written in this way is read as what it says, if its names hold no
keyword and its values no character or keyword that has a meaning of its own.
-/

namespace FlatStore
namespace Plan

open Text

/-! ## How commands are written -/

/-- The keyword in front of the table of a selection. -/
def fromWord : Text := "FROM".toList

/-- A text between parentheses. -/
def inParentheses (text : Text) : Text := '(' :: (text ++ [')'])

/-- A value is written as it is or between quotation marks of one kind. -/
inductive Quoted (value : Text) : Text → Prop
  | bare : Quoted value value
  | single : Quoted value ('\'' :: (value ++ ['\'']))
  | double : Quoted value ('"' :: (value ++ ['"']))

/-- What is written behind the verb of a command and the spaces after it. -/
inductive WritesBody : Plan → Text → Prop
  | createDatabase {kind database : Text} (n : Nat) (spelled : IsCaseOf "DATABASE".toList kind) :
      WritesBody (.createDatabase database) (kind ++ (gap n ++ database))
  | createTable {kind table list : Text} {columns : List Text} (n m : Nat)
      (spelled : IsCaseOf "TABLE".toList kind) (listed : Listed Eq columns list) :
      WritesBody (.createTable table columns)
        (kind ++ (gap n ++ (table ++ (spaces m ++ inParentheses list))))
  | use {database : Text} : WritesBody (.use database) database
  | insert {table list : Text} {values : List Text} (n m k : Nat)
      (listed : Listed Quoted values list) :
      WritesBody (.insert table values)
        (intoWord ++ (gap n ++ (table ++ (gap m ++ (valuesWord ++
          (spaces k ++ inParentheses list))))))
  | selectAll {table : Text} (n m : Nat) :
      WritesBody (.select table none []) (['*'] ++ (gap n ++ (fromWord ++ (gap m ++ table))))
  | select {table list : Text} {columns : List Text} (n m : Nat)
      (listed : Listed Eq columns list) :
      WritesBody (.select table (some columns) [])
        (list ++ (gap n ++ (fromWord ++ (gap m ++ table))))

/-- What may stand behind a command: spaces, with a semicolon between them or without. -/
inductive Ending : Text → Prop
  | bare (n : Nat) : Ending (spaces n)
  | terminated (n m : Nat) : Ending (spaces n ++ ';' :: spaces m)

/-- The line writes the command. -/
def IsWritten (plan : Plan) (line : Text) : Prop :=
  ∃ lead verb n body ending, line = spaces lead ++ (verb ++ (gap n ++ (body ++ ending))) ∧
    IsCaseOf plan.opening.word verb ∧ WritesBody plan body ∧ Ending ending

/-- The names are made of letters, digits, underscores and dashes, those of an insert and of a
selection hold no keyword, and the values neither a keyword nor a character with a meaning of its
own.  Nothing follows a selection. -/
def IsPlain : Plan → Prop
  | .createDatabase database => IsPlainName database
  | .createTable table columns =>
      IsPlainName table ∧ columns ≠ [] ∧ ∀ column ∈ columns, IsPlainName column
  | .use database => IsPlainName database
  | .insert table values =>
      IsPlainName table ∧ Lacks insertWords table ∧ AreValues values ∧
        ∀ value ∈ values, Lacks insertWords value
  | .select table columns ignored =>
      IsPlainName table ∧ Lacks selectWords table ∧ ignored = [] ∧ ∀ list, columns = some list →
        list ≠ [] ∧ ∀ column ∈ list, IsPlainName column ∧ Lacks selectWords column

/-! ## Names -/

variable {table text list : Text} {columns values : List Text}

theorem isWord_of_isPlainName (plain : IsPlainName table) : isWord table = true := by
  rw [isWord, Bool.and_eq_true, List.all_eq_true]
  refine ⟨by simpa using plain.1, fun c member => ?_⟩
  rw [not_isBlank_of_isNameChar (plain.2 c member)]
  rfl

theorem trim_of_isPlainName (plain : IsPlainName table) : trim table = table :=
  trimBoth_of_forall fun c member => not_isBlank_of_isNameChar (plain.2 c member)

theorem not_mem_of_isPlainName (plain : IsPlainName table) {c : Char}
    (outside : isNameChar c = false) : c ∉ table := fun member => by
  rw [plain.2 c member] at outside
  cases outside

/-- The text ends in a character that is neither a blank nor a semicolon. -/
def EndsInInk (text : Text) : Prop := ∃ c, text.getLast? = some c ∧ isLoose c = false

theorem EndsInInk.append (ends : EndsInInk text) (front : Text) : EndsInInk (front ++ text) := by
  obtain ⟨c, last, ink⟩ := ends
  refine ⟨c, ?_, ink⟩
  rw [List.getLast?_append, last]
  rfl

theorem EndsInInk.isLoose_getLast? (ends : EndsInInk text) :
    ∀ c, text.getLast? = some c → isLoose c = false := by
  obtain ⟨c, last, ink⟩ := ends
  intro d here
  cases last.symm.trans here
  exact ink

theorem endsInInk_of_isPlainName (plain : IsPlainName table) : EndsInInk table := by
  have inner := plain.2 _ (List.getLast_mem plain.1)
  exact ⟨_, List.getLast?_eq_some_getLast plain.1,
    isLoose_eq_false_iff.2 ⟨not_isBlank_of_isNameChar inner, ne_semicolon_of_isNameChar inner⟩⟩

theorem endsInInk_inParentheses (text : Text) : EndsInInk (inParentheses text) := by
  refine ⟨')', ?_, by decide⟩
  rw [inParentheses, List.getLast?_cons, List.getLast?_append]
  rfl

theorem WritesBody.endsInInk {plan : Plan} {body : Text} (plain : plan.IsPlain)
    (written : WritesBody plan body) : EndsInInk body := by
  cases written with
  | createDatabase n spelled => exact ((endsInInk_of_isPlainName plain).append _).append _
  | createTable n m spelled listed =>
      exact ((((endsInInk_inParentheses _).append _).append _).append _).append _
  | use => exact endsInInk_of_isPlainName plain
  | insert n m k listed =>
      refine EndsInInk.append ?_ intoWord
      exact (((((endsInInk_inParentheses _).append _).append _).append _).append _).append _
  | selectAll n m =>
      exact ((((endsInInk_of_isPlainName plain.1).append _).append _).append _).append _
  | select n m listed =>
      exact ((((endsInInk_of_isPlainName plain.1).append _).append _).append _).append _

/-! ## Names and kinds -/

theorem singleName_spaces_append (role : NameRole) (n : Nat) (plain : IsPlainName table) :
    singleName role (spaces n ++ table) = .ok table := by
  have name : stripTerminator (spaces n ++ table) = table := by
    rw [stripTerminator, trim_blank_append isBlank_of_mem_spaces]
    exact stripTerminator_of_name plain
  rw [singleName, name, isWord_of_isPlainName plain]
  rfl

/-- Behind `CREATE` stand a word, which says what is created, and what is read behind the word. -/
theorem readCreate_kind {word kind rest : Text} (letters : word.all Char.isUpper = true)
    (some_letter : word ≠ []) (spelled : IsCaseOf word kind) (n : Nat) (ends : EndsInInk rest) :
    readCreate (kind ++ (gap n ++ rest)) =
      if "DATABASE".toList = word then
        (singleName .database (spaces n ++ rest)).map .createDatabase
      else if "TABLE".toList = word then readCreateTable (spaces n ++ rest)
      else .error (.malformed .unknownCreation) := by
  have inner := spelled.nameChar letters
  have no_space : ' ' ∉ kind := fun member => by
    have impossible := inner _ member
    cases impossible
  have some_char : kind ≠ [] := by
    rintro rfl
    exact some_letter spelled.symm
  have body : stripTerminator (kind ++ (gap n ++ rest)) = kind ++ ' ' :: (spaces n ++ rest) := by
    refine stripTerminator_of_ends (fun c first => ?_) ((ends.append _).append _).isLoose_getLast?
    obtain ⟨d, kind, rfl⟩ := List.exists_cons_of_ne_nil some_char
    cases first
    exact not_isBlank_of_isNameChar (inner _ List.mem_cons_self)
  have spells_iff (keyword : Text) : spells keyword kind = true ↔ keyword = word := by
    rw [spells, spelled.capitals_eq letters, beq_iff_eq, eq_comm]
  rw [readCreate, body, upTo_append_mark no_space, behind, behind?_append_mark no_space,
    Option.getD_some]
  simp only [spells_iff]

/-! ## Columns -/

theorem columnNames_of_cut (which : ColumnList) (some_char : ∀ column ∈ columns, column ≠ [])
    (cut : (cutAt ',' text).map trim = columns) : columnNames which text = .ok columns := by
  have filled : columns.all (fun column => !column.isEmpty) = true := by
    rw [List.all_eq_true]
    exact fun column member => by simpa using some_char column member
  rw [columnNames, cut, filled]
  rfl

/-- Columns are found in a list of them. -/
theorem map_trim_cutAt_of_listed (plain : ∀ column ∈ columns, IsPlainName column)
    (listed : Listed Eq columns list) : (cutAt ',' list).map trim = columns :=
  listed.map_trim_cutAt (fun column member => not_mem_of_isPlainName (plain column member) rfl)
    fun column member => trim_of_isPlainName (plain column member)

/-- A table is created with the columns in a list of them. -/
theorem readCreateTable_inParentheses (n m : Nat) (plain : IsPlainName table)
    (columns_plain : ∀ column ∈ columns, IsPlainName column) (listed : Listed Eq columns list) :
    readCreateTable (spaces n ++ (table ++ (spaces m ++ inParentheses list))) =
      .ok (.createTable table columns) := by
  have whole : spaces n ++ (table ++ (spaces m ++ inParentheses list)) =
      spaces n ++ (table ++ spaces m) ++ '(' :: (list ++ [')']) := by
    simp only [inParentheses, List.append_assoc]
  have no_parenthesis : '(' ∉ spaces n ++ (table ++ spaces m) := by
    have none_in (k : Nat) : '(' ∉ spaces k := fun member => by
      cases eq_space_of_mem_spaces member
    rw [List.mem_append, List.mem_append, not_or, not_or]
    exact ⟨none_in n, not_mem_of_isPlainName plain rfl, none_in m⟩
  have closed : trim (list ++ [')']) = trimStart isBlank list ++ [')'] := by
    rw [trim, trimBoth, trimStart_concat (by decide)]
    exact trimEnd_of_last fun c last => by
      rw [List.getLast?_append] at last
      cases last
      decide
  have cut : (cutAt ',' (trimStart isBlank list)).map trim = columns := by
    rw [map_trim_cutAt_trimStart, map_trim_cutAt_of_listed columns_plain listed]
  rw [readCreateTable, whole, upTo_append_mark no_parenthesis, behind,
    behind?_append_mark no_parenthesis, Option.getD_some, trim_spaces_append,
    trim_of_isPlainName plain, closed, isWord_of_isPlainName plain, List.getLast?_append,
    List.dropLast_concat,
    columnNames_of_cut .created (fun column member => (columns_plain column member).1) cut]
  rfl

/-! ## Values -/

/-- Decorations on both sides of a text are removed. -/
theorem filter_between {first last : Char} (decorates : isDecoration first = true)
    (closes : isDecoration last = true) :
    (first :: (text ++ [last])).filter (fun c => !isDecoration c) =
      text.filter fun c => !isDecoration c := by
  rw [List.filter_cons_of_neg (by simp [decorates]), List.filter_append,
    List.filter_cons_of_neg (by simp [closes]), List.filter_nil, List.append_nil]

/-- Quotation marks are no part of a value. -/
theorem Quoted.filter {value text : Text} (bare : ∀ c ∈ value, isDecoration c = false)
    (written : Quoted value text) : text.filter (fun c => !isDecoration c) = value := by
  have kept : value.filter (fun c => !isDecoration c) = value := List.filter_eq_self.2
    fun c member => by rw [bare c member]; rfl
  cases written with
  | bare => exact kept
  | single => rw [filter_between rfl rfl, kept]
  | double => rw [filter_between rfl rfl, kept]

/-- Values are found in a list of them between parentheses. -/
theorem valuesOf_inParentheses (n : Nat) (values_ok : AreValues values)
    (listed : Listed Quoted values list) : valuesOf (spaces n ++ inParentheses list) = values := by
  have body : stripTerminator (spaces n ++ inParentheses list) = inParentheses list := by
    rw [stripTerminator, trim_blank_append isBlank_of_mem_spaces]
    refine stripTerminator_of_ends (fun c first => ?_)
      (endsInInk_inParentheses list).isLoose_getLast?
    cases first
    decide
  have bare : (inParentheses list).filter (fun c => !isDecoration c) =
      list.filter fun c => !isDecoration c := filter_between rfl rfl
  have entries := listed.filter (fun c => !isDecoration c) (by decide) (by decide)
    fun value text written member => written.filter (values_ok.2 value member).2.2.1
  rw [valuesOf, body, bare]
  exact entries.map_trim_cutAt (fun value member => (values_ok.2 value member).2.1)
    fun value member => (values_ok.2 value member).2.2.2

/-! ## Keywords -/

section Keywords

variable {words : List Text}

/-- In the quotation marks around a value there is no keyword. -/
theorem Quoted.lacks {value : Text} (some_char : [] ∉ words)
    (letters : ∀ word ∈ words, word.all Char.isUpper = true) (lacks : Lacks words value)
    (written : Quoted value text) : Lacks words text := by
  have around {mark : Char} (not_upper : mark.isUpper = false) :
      Lacks words ([mark] ++ (value ++ [mark])) := by
    have apart := apart_of_not_isUpper [mark] letters (List.forall_mem_singleton.2 not_upper)
    rw [lacks_gap_append_iff some_char apart]
    exact lacks.append_gap some_char apart
  cases written with
  | bare => exact lacks
  | single => exact around (by decide)
  | double => exact around (by decide)

/-- In the parentheses around a list, and in the spaces before them, there is no keyword. -/
theorem lacks_inParentheses (some_char : [] ∉ words)
    (letters : ∀ word ∈ words, word.all Char.isUpper = true) (n : Nat) (lacks : Lacks words list) :
    Lacks words (spaces n ++ inParentheses list) := by
  have opened := apart_of_not_isUpper ['('] letters (List.forall_mem_singleton.2 rfl)
  have closed := apart_of_not_isUpper [')'] letters (List.forall_mem_singleton.2 rfl)
  have before := apart_of_not_isUpper (spaces n) letters isUpper_of_mem_spaces
  rw [lacks_gap_append_iff some_char before]
  change Lacks words (['('] ++ (list ++ [')']))
  rw [lacks_gap_append_iff some_char opened]
  exact lacks.append_gap some_char closed

end Keywords

/-! ## Inserts -/

theorem isUpper_insertWords : ∀ word ∈ insertWords, word.all Char.isUpper = true := by decide

theorem isUpper_selectWords : ∀ word ∈ selectWords, word.all Char.isUpper = true := by decide

/-- The values in a list of them are inserted. -/
theorem readInsert_inParentheses (n m k : Nat) (plain : IsPlainName table)
    (table_lacks : Lacks insertWords table) (values_ok : AreValues values)
    (values_lack : ∀ value ∈ values, Lacks insertWords value)
    (listed : Listed Quoted values list) :
    readInsert (intoWord ++ (gap n ++ (table ++ (gap m ++ (valuesWord ++
      (spaces k ++ inParentheses list)))))) = .ok (.insert table values) := by
  have some_char := nonOverlapping_insertWords.nil_not_mem
  have apart (n : Nat) := apart_of_not_isUpper (gap n) isUpper_insertWords isUpper_of_mem_gap
  have segment_lacks : Lacks insertWords (gap n ++ (table ++ gap m)) := by
    rw [lacks_gap_append_iff some_char (apart n)]
    exact table_lacks.append_gap some_char (apart m)
  have list_lacks : Lacks insertWords list :=
    listed.lacks some_char isUpper_insertWords fun value text written member =>
      written.lacks some_char isUpper_insertWords (values_lack value member)
  have named : trim (gap n ++ (table ++ gap m)) = table := by
    rw [gap_eq_spaces, gap_eq_spaces, trim_spaces_append, trim_of_isPlainName plain]
  refine readInsert_eq_ok_iff.2 ⟨isWord_of_isPlainName plain, fun value member =>
    (values_ok.2 value member).1, intoWord, by decide, valuesWord, by decide, [], _, _, ?_, rfl,
    named, segment_lacks, lacks_inParentheses some_char isUpper_insertWords k list_lacks,
    valuesOf_inParentheses k values_ok listed⟩
  simp only [List.append_assoc, List.nil_append]

/-! ## Selections -/

theorem nonOverlapping_selectWords : NonOverlapping selectWords := by
  simp [NonOverlapping, selectWords]

/-- A selection is a projection, the keyword and a table. -/
theorem readSelect_fromWord {projection : Text} (n m : Nat) (plain : IsPlainName table)
    (table_lacks : Lacks selectWords table) (lacks : Lacks selectWords projection)
    (some_char : trim projection ≠ []) :
    readSelect (projection ++ (gap n ++ (fromWord ++ (gap m ++ table)))) =
      if trim projection = ['*'] then .ok (.select table none [])
      else (columnNames .selected (trim projection)).map fun columns =>
        .select table (some columns) [] := by
  have no_empty := nonOverlapping_selectWords.nil_not_mem
  have apart (n : Nat) := apart_of_not_isUpper (gap n) isUpper_selectWords isUpper_of_mem_gap
  have whole : projection ++ (gap n ++ (fromWord ++ (gap m ++ table))) =
      projection ++ gap n ++ (fromWord ++ (gap m ++ table)) := (List.append_assoc ..).symm
  have rest_lacks : Lacks selectWords (gap m ++ table) :=
    (lacks_gap_append_iff no_empty (apart m)).2 table_lacks
  have cut : cutAtWords selectWords 0 (projection ++ gap n ++ (fromWord ++ (gap m ++ table))) =
      [projection ++ gap n, gap m ++ table] := by
    rw [nonOverlapping_selectWords.cutAtWords_append (by decide)
      (lacks.append_gap no_empty (apart n)), cutAtWords_of_absent rest_lacks]
  have list : trim (projection ++ gap n) = trim projection :=
    trim_append_blank isBlank_of_mem_gap projection
  have target : stripTerminator (gap m ++ table) = table := by
    rw [stripTerminator, trim_blank_append isBlank_of_mem_gap]
    exact stripTerminator_of_name plain
  have ink : ∀ c ∈ table, isBlank c = false := fun c member =>
    not_isBlank_of_isNameChar (plain.2 c member)
  have no_terminator : trimEnd (fun c => decide (c = ';')) table = table :=
    trimEnd_of_forall fun c member =>
      decide_eq_false (ne_semicolon_of_isNameChar (plain.2 c member))
  have filled : (trim projection).isEmpty = false := by simpa using some_char
  have named : table.isEmpty = false := by simpa using plain.1
  rw [readSelect, whole, cut]
  dsimp only
  rw [list, target, firstWord_of_forall ink, afterFirstWord_of_forall ink, no_terminator, filled,
    named]
  rfl

theorem readSelect_star (n m : Nat) (plain : IsPlainName table)
    (table_lacks : Lacks selectWords table) :
    readSelect (['*'] ++ (gap n ++ (fromWord ++ (gap m ++ table)))) =
      .ok (.select table none []) := by
  have apart := apart_of_not_isUpper ['*'] isUpper_selectWords (List.forall_mem_singleton.2 rfl)
  rw [readSelect_fromWord n m plain table_lacks
    (lacks_of_foreign nonOverlapping_selectWords.nil_not_mem apart) (by decide)]
  exact if_pos (by decide)

/-- The columns in a list of them are selected. -/
theorem readSelect_columns (n m : Nat) (plain : IsPlainName table)
    (table_lacks : Lacks selectWords table)
    (columns_plain : ∀ column ∈ columns, IsPlainName column ∧ Lacks selectWords column)
    (listed : Listed Eq columns list) :
    readSelect (trimStart isBlank (list ++ (gap n ++ (fromWord ++ (gap m ++ table))))) =
      .ok (.select table (some columns) []) := by
  have no_empty := nonOverlapping_selectWords.nil_not_mem
  have names : ∀ column ∈ columns, IsPlainName column := fun column member =>
    (columns_plain column member).1
  have filled : ∀ column ∈ columns, column ≠ [] := fun column member => (names column member).1
  have start_cut : (cutAt ',' (trimStart isBlank list)).map trim = columns := by
    rw [map_trim_cutAt_trimStart, map_trim_cutAt_of_listed names listed]
  have cut : (cutAt ',' (trim (trimStart isBlank list))).map trim = columns := by
    rw [map_trim_cutAt_trim, start_cut]
  have some_list : trimStart isBlank list ≠ [] := fun nothing => by
    rw [nothing] at start_cut
    exact filled [] (by rw [← start_cut]; exact List.mem_cons_self) rfl
  have some_char : trim (trimStart isBlank list) ≠ [] := fun nothing => by
    rw [nothing] at cut
    exact filled [] (by rw [← cut]; exact List.mem_cons_self) rfl
  have no_star : trim (trimStart isBlank list) ≠ ['*'] := fun star => by
    rw [star] at cut
    have plain_star := names ['*'] (by rw [← cut]; exact List.mem_cons_self)
    exact not_mem_of_isPlainName plain_star (c := '*') rfl List.mem_cons_self
  have list_lacks : Lacks selectWords list :=
    listed.lacks no_empty isUpper_selectWords fun column text same member => by
      subst same
      exact (columns_plain column member).2
  obtain ⟨c, member, ink⟩ := exists_ink some_list
  rw [trimStart_append member ink, readSelect_fromWord n m plain table_lacks
    (list_lacks.of_infix (trimStart_final _ _).isInfix) some_char, if_neg no_star,
    columnNames_of_cut .selected filled cut]
  rfl

/-! ## Commands -/

/-- In front of a text that begins with ink nothing is trimmed. -/
theorem trimStart_append_of_ink {front : Text} (some_char : front ≠ [])
    (ink : ∀ c ∈ front, isBlank c = false) (text : Text) :
    trimStart isBlank (front ++ text) = front ++ text := by
  obtain ⟨c, front, rfl⟩ := List.exists_cons_of_ne_nil some_char
  refine trimStart_of_head fun d first => ?_
  cases first
  exact ink _ List.mem_cons_self

/-- A database is created by its name. -/
theorem readCreate_database {kind : Text} (n : Nat) (spelled : IsCaseOf "DATABASE".toList kind)
    (plain : IsPlainName table) :
    readCreate (trimStart isBlank (kind ++ (gap n ++ table))) = .ok (.createDatabase table) := by
  have letters : "DATABASE".toList.all Char.isUpper = true := by decide
  rw [trimStart_append_of_ink (spelled.ne_nil (by decide)) (spelled.not_isBlank letters),
    readCreate_kind letters (by decide) spelled n (endsInInk_of_isPlainName plain), if_pos rfl,
    singleName_spaces_append .database n plain]
  rfl

theorem readCreate_table {kind : Text} (n m : Nat) (spelled : IsCaseOf "TABLE".toList kind)
    (plain : IsPlainName table) (columns_plain : ∀ column ∈ columns, IsPlainName column)
    (listed : Listed Eq columns list) :
    readCreate (trimStart isBlank
      (kind ++ (gap n ++ (table ++ (spaces m ++ inParentheses list))))) =
        .ok (.createTable table columns) := by
  have letters : "TABLE".toList.all Char.isUpper = true := by decide
  have ends := ((endsInInk_inParentheses list).append (spaces m)).append table
  rw [trimStart_append_of_ink (spelled.ne_nil (by decide)) (spelled.not_isBlank letters),
    readCreate_kind letters (by decide) spelled n ends, if_neg (by decide), if_pos rfl,
    readCreateTable_inParentheses n m plain columns_plain listed]

theorem readUse_name (plain : IsPlainName table) :
    readUse (trimStart isBlank table) = .ok (.use table) := by
  have start : trimStart isBlank table = table := trimStart_of_head fun c first =>
    not_isBlank_of_isNameChar (plain.2 c (List.mem_of_head? first))
  have name : singleName .database table = .ok table := singleName_spaces_append .database 0 plain
  rw [start, readUse, name]
  rfl

/-- What is written behind the verb is read as what it says. -/
theorem readAfter_of_writesBody {plan : Plan} {body : Text} (plain : plan.IsPlain)
    (written : WritesBody plan body) :
    readAfter plan.opening (trimStart isBlank body) = .ok plan := by
  cases written with
  | createDatabase n spelled =>
      simp only [opening, readAfter]
      exact readCreate_database n spelled plain
  | createTable n m spelled listed =>
      simp only [opening, readAfter]
      exact readCreate_table n m spelled plain.1 plain.2.2 listed
  | use =>
      simp only [opening, readAfter]
      exact readUse_name plain
  | insert n m k listed =>
      rw [trimStart_of_head fun c first => by cases first; rfl]
      exact readInsert_inParentheses n m k plain.1 plain.2.1 plain.2.2.1 plain.2.2.2 listed
  | selectAll n m =>
      rw [trimStart_of_head fun c first => by cases first; rfl]
      exact readSelect_star n m plain.1 plain.2.1
  | select n m listed =>
      exact readSelect_columns n m plain.1 plain.2.1 (plain.2.2.2 _ rfl).2 listed

theorem Ending.isLoose_terminators {ending : Text} (ends : Ending ending) :
    (∀ c ∈ ending, isLoose c = true) ∧ terminators ending ≤ 1 := by
  have loose (n : Nat) : ∀ c ∈ spaces n, isLoose c = true := fun c member => by
    rw [isLoose, isBlank_of_mem_spaces c member]
    rfl
  have absent (n : Nat) : ';' ∉ spaces n := fun member => by
    cases eq_space_of_mem_spaces member
  cases ends with
  | bare n => exact ⟨loose n, by rw [terminators_of_not_mem (absent n)]; exact Nat.zero_le 1⟩
  | terminated n m =>
      refine ⟨fun c member => ?_, ?_⟩
      · rcases List.mem_append.1 member with here | here
        · exact loose n c here
        · rcases List.mem_cons.1 here with rfl | here
          · rfl
          · exact loose m c here
      · have one : terminators (';' :: spaces m) ≤ terminators (spaces m) + 1 := by
          rw [terminators]
          split
          · exact Nat.le_refl _
          · exact Nat.le_succ _
        rw [terminators_append fun last => absurd (List.mem_of_getLast? last) (absent n),
          terminators_of_not_mem (absent n), Nat.zero_add]
        rwa [terminators_of_not_mem (absent m)] at one

/-- A command that is written in this way is read as what it says. -/
theorem read_of_isWritten {plan : Plan} {line : Text} (plain : plan.IsPlain)
    (written : plan.IsWritten line) : Plan.read line = .ok plan := by
  obtain ⟨lead, verb, n, body, ending, rfl, spelled, written, ends⟩ := written
  obtain ⟨c, last, ink⟩ := (written.endsInInk plain).append (spaces n)
  obtain ⟨loose, few⟩ := ends.isLoose_terminators
  have read := read_statement (isBlank_of_mem_spaces (n := lead)) spelled last ink loose few
  have start : trimStart isBlank (spaces n ++ body) = trimStart isBlank body :=
    List.dropWhile_append_of_pos isBlank_of_mem_spaces
  rw [List.append_assoc, start, readAfter_of_writesBody plain written] at read
  exact read

/-- Semicolons, empty texts and parts of keywords are values as well. -/
theorem read_of_isWritten_insert :
    (Plan.insert "t-1".toList ["a;b".toList, [], "IN".toList]).IsPlain ∧
      (Plan.insert "t-1".toList ["a;b".toList, [], "IN".toList]).IsWritten
        " inSErt  INTO t-1 VALUES( 'a;b' ,\"\",IN )  ; ".toList ∧
      Plan.read " inSErt  INTO t-1 VALUES( 'a;b' ,\"\",IN )  ; ".toList =
        .ok (.insert "t-1".toList ["a;b".toList, [], "IN".toList]) := by
  have values : AreValues (valuesOf "a;b,,IN".toList) := areValues_valuesOf (by decide)
  have plain : (Plan.insert "t-1".toList ["a;b".toList, [], "IN".toList]).IsPlain :=
    ⟨⟨by decide, List.all_eq_true.1 (by decide)⟩, by decide, values, by decide⟩
  have listed : Listed Quoted ["a;b".toList, [], "IN".toList] _ :=
    .cons 1 1 .single (.cons 0 0 .double (.single 0 1 .bare))
  have written : (Plan.insert "t-1".toList ["a;b".toList, [], "IN".toList]).IsWritten
      " inSErt  INTO t-1 VALUES( 'a;b' ,\"\",IN )  ; ".toList := by
    refine ⟨1, "inSErt".toList, 1, _, _, ?_, rfl, .insert 0 0 0 listed, .terminated 2 1⟩
    rfl
  exact ⟨plain, written, read_of_isWritten plain written⟩

end Plan
end FlatStore
