import FlatStore.Catalog.Allocator
import FlatStore.Proofs.Numeral
import FlatStore.Proofs.Reading
import FlatStore.Table.File

/-!
# Table files that grow

A line of clean cells is read back as the cells.  Behind an ended line such a line adds one row and
changes nothing before it; behind an unfinished line it goes on with that line, and then the old
rows with the new one behind them are never read.
-/

namespace FlatStore

namespace Text

section Separator

variable {α : Type} [DecidableEq α]

/-- The text up to the first separator is the first part. -/
theorem cutAt_append {separator : α} {part : List α} (absent : separator ∉ part)
    (rest : List α) :
    cutAt separator (part ++ separator :: rest) = part :: cutAt separator rest := by
  induction part with
  | nil => simp [cutAt]
  | cons c part ih =>
      rw [List.mem_cons, not_or] at absent
      rw [List.cons_append, cutAt, if_neg (Ne.symm absent.1), ih absent.2, consHead_cons]

/-- Parts without the separator are found again. -/
theorem cutAt_join {separator : α} {parts : List (List α)} (some_part : parts ≠ [])
    (absent : ∀ part ∈ parts, separator ∉ part) :
    cutAt separator (join [separator] parts) = parts := by
  induction parts with
  | nil => exact absurd rfl some_part
  | cons part rest ih =>
      have absent_first : separator ∉ part := absent part (by simp)
      cases rest with
      | nil => exact cutAt_of_not_mem absent_first
      | cons next rest =>
          rw [join_cons_cons, List.append_assoc, List.singleton_append, cutAt_append absent_first,
            ih (by simp) fun other member => absent other (by simp [member])]

/-- Cutting invents no sign. -/
theorem mem_of_mem_cutAt {separator c : α} {text part : List α} (here : c ∈ part)
    (member : part ∈ cutAt separator text) : c ∈ text := by
  induction text generalizing part with
  | nil =>
      rw [cutAt_nil, List.mem_singleton] at member
      simp [member] at here
  | cons d rest ih =>
      obtain ⟨first, parts, cut⟩ := List.exists_cons_of_ne_nil (cutAt_ne_nil separator rest)
      rw [cut] at ih
      rw [cutAt, cut] at member
      split at member
      · rcases List.mem_cons.1 member with rfl | member
        · simp at here
        · exact List.mem_cons_of_mem _ (ih here member)
      · rcases List.mem_cons.1 member with rfl | member
        · rcases List.mem_cons.1 here with rfl | here
          · exact List.mem_cons_self
          · exact List.mem_cons_of_mem _ (ih here (by simp))
        · exact List.mem_cons_of_mem _ (ih here (by simp [member]))

end Separator

/-- The parts of a joined text are in it. -/
theorem mem_join_of_mem {mark part : Text} {parts : List Text} {c : Char} (member : part ∈ parts)
    (here : c ∈ part) : c ∈ join mark parts := by
  induction parts with
  | nil => cases member
  | cons first rest ih =>
      cases rest with
      | nil => exact (List.mem_singleton.1 member) ▸ here
      | cons next rest =>
          rw [join_cons_cons, List.mem_append]
          rcases List.mem_cons.1 member with rfl | member
          · exact .inl (List.mem_append_left mark here)
          · exact .inr (ih member)

/-- Joining invents no character. -/
theorem mem_of_mem_join {mark : Text} {parts : List Text} {c : Char} (here : c ∈ join mark parts) :
    c ∈ mark ∨ ∃ part ∈ parts, c ∈ part := by
  induction parts with
  | nil => cases here
  | cons first rest ih =>
      cases rest with
      | nil => exact .inr ⟨first, List.mem_cons_self, here⟩
      | cons next rest =>
          rw [join_cons_cons, List.mem_append, List.mem_append] at here
          rcases here with (here | here) | here
          · exact .inr ⟨first, List.mem_cons_self, here⟩
          · exact .inl here
          · rcases ih here with marked | ⟨part, member, inside⟩
            · exact .inl marked
            · exact .inr ⟨part, List.mem_cons_of_mem _ member, inside⟩

/-- A line has no line end to be trimmed. -/
theorem trimLineEnd_of_isLine {line : Text} (isLine : IsLine line) : trimLineEnd line = line :=
  trimEnd_of_forall isLine

end Text

open Text

/-! ## Lines of cells -/

/-- The text holds nothing that is structure in a table file. -/
def IsCell (cell : Text) : Prop := '\t' ∉ cell ∧ '\n' ∉ cell ∧ '\r' ∉ cell

instance (cell : Text) : Decidable (IsCell cell) := inferInstanceAs (Decidable (_ ∧ _))

theorem IsCell.isLine {cell : Text} (isCell : IsCell cell) : IsLine cell :=
  isLine_iff.2 isCell.2

theorem isCell_integer (id : Int) : IsCell (Numeral.integer id) := by
  have absent {c : Char} (blank : isBlank c = true) : c ∉ Numeral.integer id := by
    intro member
    rw [Numeral.not_isBlank_of_mem_integer member] at blank
    cases blank
  exact ⟨absent isBlank_tab, absent isBlank_lineFeed, absent isBlank_carriageReturn⟩

theorem isCell_of_mem_row {id : Int} {values : List Text} (clean : ∀ value ∈ values, IsCell value) :
    ∀ cell ∈ Numeral.integer id :: values, IsCell cell :=
  List.forall_mem_cons.2 ⟨isCell_integer id, clean⟩

/-- The cells of a new header are clean if the columns are. -/
theorem Schema.isCell_ofColumns {columns : List Text} (clean : ∀ column ∈ columns, IsCell column) :
    ∀ cell ∈ (ofColumns columns).columns, IsCell cell :=
  List.forall_mem_cons.2 ⟨by decide, clean⟩

/-- Cells without line ends make one line, whatever tabs they hold. -/
theorem isLine_join_of_isLine {cells : List Text} (inner : ∀ cell ∈ cells, IsLine cell) :
    IsLine (join [cellMark] cells) := by
  intro c here
  rcases mem_of_mem_join here with marked | ⟨cell, member, inside⟩
  · rw [List.mem_singleton.1 marked]
    decide
  · exact inner cell member c inside

theorem isLine_join {cells : List Text} (clean : ∀ cell ∈ cells, IsCell cell) :
    IsLine (join [cellMark] cells) :=
  isLine_join_of_isLine fun cell member => (clean cell member).isLine

theorem cellsOf_join {cells : List Text} (some_cell : cells ≠ [])
    (clean : ∀ cell ∈ cells, IsCell cell) : cellsOf (join [cellMark] cells) = cells :=
  cutAt_join some_cell fun cell member => (clean cell member).1

theorem lines_lineOf_of_isLine {cells : List Text} (inner : ∀ cell ∈ cells, IsLine cell) :
    lines true (lineOf cells) = [join [cellMark] cells] :=
  lines_append_lineFeed (isLine_join_of_isLine inner) true []

theorem lines_lineOf {cells : List Text} (clean : ∀ cell ∈ cells, IsCell cell) :
    lines true (lineOf cells) = [join [cellMark] cells] :=
  lines_lineOf_of_isLine fun cell member => (clean cell member).isLine

theorem endsLine_lineOf (cells : List Text) : EndsLine (lineOf cells) := by
  left
  rw [lineOf, List.getLast?_concat]

/-- A line that begins with a numeral does not begin with a line feed. -/
theorem head?_lineOf_integer (id : Int) (values : List Text) :
    (lineOf (Numeral.integer id :: values)).head? ≠ some '\n' := by
  obtain ⟨c, rest, numeral⟩ := List.exists_cons_of_ne_nil (Numeral.integer_ne_nil id)
  have here : c ∈ Numeral.integer id := by simp [numeral]
  have first : (lineOf (Numeral.integer id :: values)).head? = some c := by
    rw [lineOf, numeral]
    cases values <;> rfl
  rw [first]
  rintro feed
  cases feed
  exact (isCell_integer id).2.1 here

theorem isBlankText_eq_false_of_mem {text : Text} {c : Char} (here : c ∈ text)
    (ink : isBlank c = false) : isBlankText text = false := by
  rw [isBlankText, List.all_eq_false]
  exact ⟨c, here, by simp [ink]⟩

theorem isBlankText_join_integer (id : Int) (values : List Text) :
    isBlankText (join [cellMark] (Numeral.integer id :: values)) = false := by
  obtain ⟨c, rest, numeral⟩ := List.exists_cons_of_ne_nil (Numeral.integer_ne_nil id)
  have here : c ∈ Numeral.integer id := by simp [numeral]
  exact isBlankText_eq_false_of_mem (mem_join_of_mem List.mem_cons_self here)
    (Numeral.not_isBlank_of_mem_integer here)

/-! ## Rows of lines -/

/-- The rows that lines stand for. -/
def rowsOf (lines : List Text) : List (List Text) :=
  (lines.filter fun line => !isBlankText line).map cellsOf

theorem rowsOf_append (left right : List Text) :
    rowsOf (left ++ right) = rowsOf left ++ rowsOf right := by
  rw [rowsOf, List.filter_append, List.map_append]
  rfl

theorem rowsOf_singleton (line : Text) :
    rowsOf [line] = if isBlankText line then [] else [cellsOf line] := by
  cases blank : isBlankText line <;> simp [rowsOf, blank]

/-- What is read from a line is clean. -/
theorem isCell_of_mem_rowsOf {lines : List Text} {cells : List Text} {cell : Text}
    (isLine : ∀ line ∈ lines, IsLine line) (row : cells ∈ rowsOf lines) (member : cell ∈ cells) :
    IsCell cell := by
  obtain ⟨line, here, rfl⟩ := List.mem_map.1 row
  have line_clean := isLine_iff.1 (isLine line (List.mem_filter.1 here).1)
  refine ⟨separator_not_mem_cutAt member, ?_, ?_⟩
  · exact fun feed => line_clean.1 (mem_of_mem_cutAt feed member)
  · exact fun carriage => line_clean.2 (mem_of_mem_cutAt carriage member)

/-- The line of an identity and clean values is read as one row. -/
theorem rowsOf_lines_lineOf (id : Int) {values : List Text}
    (clean : ∀ value ∈ values, IsCell value) :
    rowsOf (lines true (lineOf (Numeral.integer id :: values))) =
      [Numeral.integer id :: values] := by
  rw [lines_lineOf (isCell_of_mem_row clean), rowsOf_singleton, isBlankText_join_integer,
    cellsOf_join (by simp) (isCell_of_mem_row clean)]
  rfl

/-- Whatever the values hold, the first row of the line of a row begins with the identity. -/
theorem exists_row_of_lineOf (id : Int) (values : List Text) :
    ∃ cells rows, rowsOf (lines true (lineOf (Numeral.integer id :: values))) =
      (Numeral.integer id :: cells) :: rows := by
  cases values with
  | nil => exact ⟨[], [], rowsOf_lines_lineOf id nofun⟩
  | cons value values =>
      let rest := join [cellMark] (value :: values) ++ ['\n']
      obtain ⟨first, more, cut⟩ : ∃ first more, lines true rest = first :: more := by
        refine List.exists_cons_of_ne_nil fun none_left => ?_
        have no_char := eq_nil_of_lines_eq_nil none_left
        simp [rest] at no_char
      have behind_numeral : lines true (cellMark :: rest) = (cellMark :: first) :: more := by
        rw [lines_cons (by decide), cut]
      have line_eq : lineOf (Numeral.integer id :: value :: values) =
          Numeral.integer id ++ cellMark :: rest := by
        simp [lineOf, join_cons_cons, rest]
      have first_row : rowsOf [Numeral.integer id ++ cellMark :: first] =
          [Numeral.integer id :: cellsOf first] := by
        obtain ⟨c, digits, numeral⟩ := List.exists_cons_of_ne_nil (Numeral.integer_ne_nil id)
        have here : c ∈ Numeral.integer id := by simp [numeral]
        have ink : isBlankText (Numeral.integer id ++ cellMark :: first) = false :=
          isBlankText_eq_false_of_mem (List.mem_append_left _ here)
            (Numeral.not_isBlank_of_mem_integer here)
        have parts : cellsOf (Numeral.integer id ++ cellMark :: first) =
            Numeral.integer id :: cellsOf first := cutAt_append (isCell_integer id).1 first
        rw [rowsOf_singleton, ink, parts]
        rfl
      refine ⟨cellsOf first, rowsOf more, ?_⟩
      rw [line_eq, lines_append_of_isLine (isCell_integer id).isLine behind_numeral,
        ← List.singleton_append, rowsOf_append, first_row]
      rfl

/-- If no value holds a line end, that row is the only one. -/
theorem exists_rowsOf_lineOf_eq_singleton (id : Int) {values : List Text}
    (inner : ∀ value ∈ values, IsLine value) :
    ∃ cells, rowsOf (lines true (lineOf (Numeral.integer id :: values))) =
      [Numeral.integer id :: cells] := by
  obtain ⟨cells, rows, read⟩ := exists_row_of_lineOf id values
  have one_line : lines true (lineOf (Numeral.integer id :: values)) =
      [join [cellMark] (Numeral.integer id :: values)] :=
    lines_lineOf_of_isLine (List.forall_mem_cons.2 ⟨(isCell_integer id).isLine, inner⟩)
  have one_row : rows = [] := by
    rw [one_line, rowsOf_singleton, isBlankText_join_integer] at read
    exact (List.cons_eq_cons.1 read).2.symm
  exact ⟨cells, one_row ▸ read⟩

/-- A cell that an identity was written as is read as the identity. -/
theorem identity?_of_write? {id : Int} {numeral : Text}
    (written : Numeral.write? id = some numeral) (cells : List Text) :
    identity? (numeral :: cells) = some id :=
  Numeral.read?_of_write? written

/-- A row whose identity was written adds that identity. -/
theorem highestIdentity_append_row {id : Int} {numeral : Text}
    (written : Numeral.write? id = some numeral) (positive : 0 ≤ id) (rows : List (List Text))
    (values : List Text) :
    highestIdentity (rows ++ [numeral :: values]) = max (highestIdentity rows) id := by
  have last : highestIdentity [numeral :: values] = id := by
    rw [highestIdentity, identity?_of_write? written, highestIdentity, Option.getD_some]
    omega
  rw [highestIdentity_append, last]

/-! ## Whole files -/

namespace Reading

@[simp]
theorem rows_ofText (text : Text) : (ofText text).rows = rowsOf ((Text.lines true text).drop 1) :=
  rfl

theorem schema_ofText (text : Text) :
    (ofText text).schema = Schema.ofHeader (Text.lines true text).head? := by
  rw [schema, header?, lines_ofText]
  cases (Text.lines true text).head? <;> rfl

theorem ne_nil_of_schema_ofText {text : Text} {found : Schema}
    (h : (ofText text).schema = .ok found) : text ≠ [] := by
  rintro rfl
  cases h

/-- The lines of an ended text begin with a header line. -/
theorem exists_header_of_endsLine {text : Text} (ends : EndsLine text) :
    ∃ header rest, Text.lines true text = header :: rest := by
  refine List.exists_cons_of_ne_nil fun none_left => ?_
  rw [eq_nil_of_lines_eq_nil none_left] at ends
  rcases ends with last | last <;> cases last

/-- Behind an ended line nothing changes the schema. -/
theorem schema_ofText_append {text more : Text} (ends : EndsLine text)
    (apart : more.head? ≠ some '\n') :
    (ofText (text ++ more)).schema = (ofText text).schema := by
  obtain ⟨header, rest, cut⟩ := exists_header_of_endsLine ends
  rw [schema_ofText, schema_ofText, lines_append (.inr ends) apart, cut]
  rfl

/-- Behind an ended line the rows of further lines are added. -/
theorem rows_ofText_append {text more : Text} (ends : EndsLine text)
    (apart : more.head? ≠ some '\n') :
    (ofText (text ++ more)).rows = (ofText text).rows ++ rowsOf (Text.lines true more) := by
  obtain ⟨header, rest, cut⟩ := exists_header_of_endsLine ends
  rw [rows_ofText, rows_ofText, lines_append (.inr ends) apart, cut, ← rowsOf_append]
  rfl

/-- Behind an ended line the line of a clean row adds this row. -/
theorem rows_ofText_append_row {text : Text} (ends : EndsLine text) (id : Int)
    {values : List Text} (clean : ∀ value ∈ values, IsCell value) :
    (ofText (text ++ lineOf (Numeral.integer id :: values))).rows =
      (ofText text).rows ++ [Numeral.integer id :: values] := by
  rw [rows_ofText_append ends (head?_lineOf_integer id values), rowsOf_lines_lineOf id clean]

/-- Behind an unfinished line a line of cells goes on with that line. -/
theorem lines_append_lineOf {before line : Text} {cells : List Text}
    (settled : before = [] ∨ EndsLine before) (some_line : line ≠ []) (isLine : IsLine line)
    (clean : ∀ cell ∈ cells, IsCell cell) :
    Text.lines true (before ++ line) = Text.lines true before ++ [line] ∧
      Text.lines true (before ++ line ++ lineOf cells) =
        Text.lines true before ++ [line ++ join [cellMark] cells] := by
  have apart (rest : Text) : (line ++ rest).head? ≠ some '\n' := by
    obtain ⟨c, tail, rfl⟩ := List.exists_cons_of_ne_nil some_line
    intro feed
    cases feed
    cases isLine '\n' List.mem_cons_self
  have merged_isLine : IsLine (line ++ join [cellMark] cells) := by
    intro c member
    rcases List.mem_append.1 member with member | member
    · exact isLine c member
    · exact isLine_join clean c member
  constructor
  · have apart_line : line.head? ≠ some '\n' := by simpa using apart []
    rw [lines_append settled apart_line, lines_of_isLine isLine some_line]
  · rw [List.append_assoc, lines_append settled (apart _), lineOf, ← List.append_assoc]
    exact congrArg _ (lines_append_lineFeed merged_isLine true [])

/-- A line that goes on with a text is not read as the line and the cells of the text. -/
theorem rowsOf_append_ne {line more : Text} (some_line : line ≠ []) :
    rowsOf [line ++ more] ≠ rowsOf [line] ++ [cellsOf more] := by
  intro rows_eq
  rw [rowsOf_singleton, rowsOf_singleton] at rows_eq
  split at rows_eq
  · simp at rows_eq
  · split at rows_eq
    · rw [List.nil_append, List.singleton_inj, cellsOf, cellsOf] at rows_eq
      have joined := congrArg (join [cellMark]) rows_eq
      rw [join_cutAt, join_cutAt, List.append_left_eq_self] at joined
      exact some_line joined
    · simp at rows_eq

/-- Behind an unfinished line no row is added: the line of the row goes on with that line. -/
theorem rows_ofText_append_row_ne {text : Text} (some_char : text ≠ []) (open_end : ¬EndsLine text)
    (id : Int) {values : List Text} (clean : ∀ value ∈ values, IsCell value) :
    (ofText (text ++ lineOf (Numeral.integer id :: values))).rows ≠
      (ofText text).rows ++ [Numeral.integer id :: values] := by
  obtain ⟨before, line, rfl, some_line, isLine, settled⟩ :=
    exists_unfinished_line some_char open_end
  have clean_cells : ∀ cell ∈ Numeral.integer id :: values, IsCell cell := isCell_of_mem_row clean
  obtain ⟨old_lines, new_lines⟩ := lines_append_lineOf settled some_line isLine clean_cells
  rw [rows_ofText, rows_ofText, old_lines, new_lines]
  cases Text.lines true before with
  | nil => simp [rowsOf]
  | cons header rest =>
      intro same
      have rows_eq : rowsOf (rest ++ [line ++ join [cellMark] (Numeral.integer id :: values)]) =
          rowsOf (rest ++ [line]) ++ [Numeral.integer id :: values] := same
      rw [rowsOf_append, rowsOf_append, List.append_assoc, List.append_cancel_left_eq] at rows_eq
      refine rowsOf_append_ne some_line (rows_eq.trans ?_)
      rw [cellsOf_join (List.cons_ne_nil _ _) clean_cells]

/-! ## New files -/

/-- A header of clean columns that begins with the identity column is read back. -/
theorem schema_ofText_header {schema : Schema} {columns : List Text}
    (identity_first : schema.columns = identityColumn :: columns)
    (clean : ∀ column ∈ columns, IsCell column) : (ofText schema.header).schema = .ok schema := by
  have clean_cells : ∀ cell ∈ schema.columns, IsCell cell := by
    intro cell member
    rw [identity_first] at member
    rcases List.mem_cons.1 member with rfl | member
    · decide
    · exact clean cell member
  have ink : isBlankText (join [cellMark] schema.columns) = false := by
    rw [identity_first]
    exact isBlankText_eq_false_of_mem (c := 'i')
      (mem_join_of_mem List.mem_cons_self List.mem_cons_self) (by decide)
  have cells : cellsOf (join [cellMark] schema.columns) = schema.columns :=
    cellsOf_join (by simp [identity_first]) clean_cells
  rw [schema_ofText, Schema.header, lines_lineOf clean_cells, List.head?_cons]
  simp only [Schema.ofHeader, trimLineEnd_of_isLine (isLine_join clean_cells), ink, cells]
  rw [identity_first, List.headD_cons, ← identity_first]
  rfl

/-- A file of one line has no rows. -/
theorem rows_ofText_header {schema : Schema} (clean : ∀ column ∈ schema.columns, IsCell column) :
    (ofText schema.header).rows = [] := by
  rw [rows_ofText, Schema.header, lines_lineOf clean]
  rfl

end Reading
end FlatStore
