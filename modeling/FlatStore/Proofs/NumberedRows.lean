import FlatStore.Proofs.Storage

/-!
# Numbered rows

Rows that are written one after the other with identities in order, and what is read from their
lines.
-/

namespace FlatStore

open Text

/-- A row with its identity. -/
structure NumberedRow where
  id : Int
  /-- The values behind the identity column. -/
  values : List Text

/-- The cells of a row. -/
def rowCells (row : NumberedRow) : List Text := Numeral.integer row.id :: row.values

/-- The lines of some rows. -/
def linesOf (rows : List NumberedRow) : Text := rows.flatMap fun row => lineOf (rowCells row)

/-- Give rows the identities from the first one on. -/
def numberFrom (first : Int) : List (List Text) → List NumberedRow
  | [] => []
  | values :: rest => ⟨first, values⟩ :: numberFrom (first + 1) rest

theorem numberFrom_append (first : Int) (early late : List (List Text)) :
    numberFrom first (early ++ late) =
      numberFrom first early ++ numberFrom (first + early.length) late := by
  induction early generalizing first with
  | nil => simp [numberFrom]
  | cons values rest ih =>
      rw [List.cons_append, numberFrom, ih, numberFrom, List.cons_append, List.length_cons]
      congr 3
      omega

/-- The values of the rows are those that were given. -/
theorem mem_of_mem_numberFrom {first : Int} {rows : List (List Text)} {row : NumberedRow}
    (member : row ∈ numberFrom first rows) : row.values ∈ rows := by
  induction rows generalizing first with
  | nil => cases member
  | cons values rest ih =>
      rcases List.mem_cons.1 member with rfl | later
      · exact List.mem_cons_self
      · exact List.mem_cons_of_mem _ (ih later)

/-- The identities follow each other without gaps. -/
theorem map_id_numberFrom (first : Int) (rows : List (List Text)) :
    (numberFrom first rows).map NumberedRow.id =
      (List.range rows.length).map fun (n : Nat) => first + (n : Int) := by
  induction rows generalizing first with
  | nil => rfl
  | cons values rest ih =>
      rw [numberFrom, List.map_cons, ih, List.length_cons, List.range_succ_eq_map, List.map_cons,
        List.map_map]
      congr 1
      · simp
      · refine List.map_congr_left fun n _ => ?_
        simp only [Function.comp_apply, Nat.succ_eq_add_one]
        omega

@[simp]
theorem linesOf_append (early late : List NumberedRow) :
    linesOf (early ++ late) = linesOf early ++ linesOf late :=
  List.flatMap_append

/-- Behind an ended line the lines of clean rows add these rows. -/
theorem Reading.rows_ofText_append_linesOf {text : Text} (ends : EndsLine text)
    {rows : List NumberedRow} (clean : ∀ row ∈ rows, ∀ value ∈ row.values, IsCell value) :
    (ofText (text ++ linesOf rows)).rows = (ofText text).rows ++ rows.map rowCells := by
  induction rows generalizing text with
  | nil => simp [linesOf]
  | cons row rest ih =>
      have first_ends : EndsLine (text ++ lineOf (rowCells row)) :=
        (endsLine_append (by simp [lineOf])).2 (endsLine_lineOf _)
      have row_clean := clean row List.mem_cons_self
      have rest_clean : ∀ row ∈ rest, ∀ value ∈ row.values, IsCell value :=
        fun other member => clean other (List.mem_cons_of_mem _ member)
      calc
        (ofText (text ++ linesOf (row :: rest))).rows =
            (ofText (text ++ lineOf (rowCells row) ++ linesOf rest)).rows := by
          rw [List.append_assoc]
          rfl
        _ = (ofText (text ++ lineOf (rowCells row))).rows ++ rest.map rowCells :=
          ih first_ends rest_clean
        _ = (ofText text).rows ++ (row :: rest).map rowCells := by
          rw [rowCells, rows_ofText_append_row ends row.id row_clean, List.append_assoc]
          rfl

/-- Rows that stand behind an ended file are read from it, unless the file was no text. -/
theorem Storage.rows_of_linesOf {storage : Storage} {path : Path} {content : Octets}
    {rows : List NumberedRow} (ends : Utf8.EndsLine content)
    (clean : ∀ row ∈ rows, ∀ value ∈ row.values, IsCell value)
    (stored : storage.contentAt path = .ok (content ++ Utf8.encode (linesOf rows))) :
    (∃ before, storage.rows path = .ok (before ++ rows.map rowCells)) ∨
      (∃ error, storage.rows path = .error error) ∧ ∀ text, content ≠ Utf8.encode text := by
  have rows_of_encode (text : Text) (content_eq : content = Utf8.encode text) :
      storage.rows path = .ok ((Reading.ofText text).rows ++ rows.map rowCells) := by
    rw [content_eq, ← Utf8.encode_append] at stored
    rw [content_eq, Utf8.endsLine_encode_iff] at ends
    rw [rows_of_text stored, Reading.rows_ofText_append_linesOf ends clean]
  cases read : storage.rows path with
  | ok found =>
      obtain ⟨text, stored_text, -⟩ := exists_text_of_rows read
      rw [stored, Except.ok.injEq] at stored_text
      obtain ⟨first, last, -, content_eq, -⟩ := Utf8.exists_text_of_endsLine ends stored_text
      rw [← read, rows_of_encode first content_eq]
      exact .inl ⟨_, rfl⟩
  | error error =>
      refine .inr ⟨⟨error, rfl⟩, fun text content_eq => ?_⟩
      rw [rows_of_encode text content_eq] at read
      cases read

end FlatStore
