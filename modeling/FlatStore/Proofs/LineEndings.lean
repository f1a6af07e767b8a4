import FlatStore.Proofs.RecoveredTable

/-!
# Line ends and blank lines

A text is ended lines and a last line that is not ended, which may be empty.  Whatever the lines are
ended with, and whatever blank lines are put between them, the header and the rows that are read are
the same: a carriage return that comes to stand in front of a line feed takes nothing away but the
end of an empty line.
-/

namespace FlatStore

open Text

/-! ## Ended lines -/

/-- What a line can be ended with. -/
inductive LineEnd
  | lineFeed
  | carriageReturn
  /-- A carriage return and a line feed. -/
  | both
deriving DecidableEq, Repr

/-- A line end as it is written. -/
def LineEnd.text : LineEnd → Text
  | .lineFeed => ['\n']
  | .carriageReturn => ['\r']
  | .both => ['\r', '\n']

/-- A line with what it is ended with. -/
structure EndedLine where
  line : Text
  ending : LineEnd
deriving DecidableEq, Repr

namespace EndedLine

/-- An ended line as it is written. -/
def text (ended : EndedLine) : Text := ended.line ++ ended.ending.text

/-- Ended lines as they are written, one behind the other. -/
def textOf (ended : List EndedLine) : Text := ended.flatMap text

theorem textOf_cons (first : EndedLine) (rest : List EndedLine) :
    textOf (first :: rest) = first.line ++ first.ending.text ++ textOf rest := rfl

/-- No line holds a line end. -/
def AreLines (ended : List EndedLine) : Prop := ∀ each ∈ ended, IsLine each.line

end EndedLine

namespace Text

open EndedLine

/-- Cut a text into its ended lines and what stands behind the last line end. -/
def cutEnds : Text → List EndedLine × Text
  | [] => ([], [])
  | '\n' :: rest => (⟨[], .lineFeed⟩ :: (cutEnds rest).1, (cutEnds rest).2)
  | '\r' :: '\n' :: rest => (⟨[], .both⟩ :: (cutEnds rest).1, (cutEnds rest).2)
  | '\r' :: rest => (⟨[], .carriageReturn⟩ :: (cutEnds rest).1, (cutEnds rest).2)
  | c :: rest =>
      match cutEnds rest with
      | ([], last) => ([], c :: last)
      | (first :: more, last) => ({ first with line := c :: first.line } :: more, last)

/-- The parts are the text. -/
@[simp]
theorem textOf_cutEnds (text : Text) : textOf (cutEnds text).1 ++ (cutEnds text).2 = text := by
  fun_induction cutEnds text with
  | case1 => rfl
  | case2 rest ih | case3 rest ih | case4 rest _ ih =>
      rw [textOf_cons, List.append_assoc, ih]
      rfl
  | case5 c rest _ _ _ last cut ih =>
      rw [cut] at ih
      exact congrArg (c :: ·) ih
  | case6 c rest _ _ _ first more last cut ih =>
      rw [cut] at ih
      exact congrArg (c :: ·) ih

/-- The lines of a text are its ended lines and the last one, unless that is empty. -/
theorem lines_eq_map_cutEnds (text : Text) :
    lines true text = (cutEnds text).1.map EndedLine.line ++ lines true (cutEnds text).2 := by
  fun_induction cutEnds text with
  | case1 => rfl
  | case2 rest ih => rw [lines_lineFeed, ih, List.map_cons, List.cons_append]
  | case3 rest ih => rw [lines_carriageReturn_lineFeed, ih, List.map_cons, List.cons_append]
  | case4 rest apart ih =>
      have no_feed : rest.head? ≠ some '\n' := by
        intro feed
        obtain ⟨more, rfl⟩ := List.head?_eq_some_iff.1 feed
        exact apart more rfl
      rw [lines_carriageReturn no_feed, ih, List.map_cons, List.cons_append]
  | case5 c rest not_feed _ not_return last cut ih =>
      have inner : isLineEnd c = false := isLineEnd_eq_false_iff.2 ⟨not_feed, not_return⟩
      rw [cut] at ih
      rw [lines_cons inner, ih, List.map_nil, List.nil_append]
      exact (lines_cons inner true last).symm
  | case6 c rest not_feed _ not_return first more last cut ih =>
      rw [cut] at ih
      rw [lines_cons (isLineEnd_eq_false_iff.2 ⟨not_feed, not_return⟩), ih]
      rfl

theorem areLines_cutEnds (text : Text) : AreLines (cutEnds text).1 := by
  intro each member
  have line : each.line ∈ lines true text := by
    rw [lines_eq_map_cutEnds]
    exact List.mem_append_left _ (List.mem_map_of_mem member)
  exact isLine_of_mem_lines line

/-! ## Lines with other ends -/

/-- An ended line is the first one, whatever it is ended with.  A line feed that stands behind a
carriage return does not end an empty line any more, so what follows keeps its rows, but not its
lines. -/
theorem exists_lines_ended {line : Text} (isLine : IsLine line) (ending : LineEnd) (rest : Text) :
    ∃ more, lines true (line ++ ending.text ++ rest) = line :: more ∧
      rowsOf more = rowsOf (lines true rest) := by
  rw [List.append_assoc]
  cases ending with
  | lineFeed => exact ⟨_, lines_append_lineFeed isLine true rest, rfl⟩
  | both =>
      refine ⟨lines true rest, ?_, rfl⟩
      have cut : lines true (LineEnd.both.text ++ rest) = [] :: lines true rest :=
        lines_carriageReturn_lineFeed true rest
      rw [lines_append_of_isLine isLine cut, List.append_nil]
  | carriageReturn =>
      by_cases feed : rest.head? = some '\n'
      · obtain ⟨behind, rfl⟩ := List.head?_eq_some_iff.1 feed
        refine ⟨lines true behind, ?_, ?_⟩
        · have cut : lines true (LineEnd.carriageReturn.text ++ '\n' :: behind) =
              [] :: lines true behind := lines_carriageReturn_lineFeed true behind
          rw [lines_append_of_isLine isLine cut, List.append_nil]
        · rw [lines_lineFeed]
          rfl
      · refine ⟨lines true rest, ?_, rfl⟩
        have cut : lines true (LineEnd.carriageReturn.text ++ rest) = [] :: lines true rest :=
          lines_carriageReturn feed
        rw [lines_append_of_isLine isLine cut, List.append_nil]

end Text

/-- Lines with the same rows still have the same ones behind one more line. -/
theorem rowsOf_cons_congr {first : Text} {left right : List Text}
    (same : rowsOf left = rowsOf right) : rowsOf (first :: left) = rowsOf (first :: right) := by
  rw [← List.singleton_append, rowsOf_append, same, ← rowsOf_append, List.singleton_append]

namespace EndedLine

theorem AreLines.tail {first : EndedLine} {rest : List EndedLine}
    (areLines : AreLines (first :: rest)) : AreLines rest :=
  fun each member => areLines each (List.mem_cons_of_mem _ member)

/-- The rows of ended lines do not depend on what they are ended with. -/
theorem rowsOf_lines_textOf {ended : List EndedLine} (areLines : AreLines ended) (last : Text) :
    rowsOf (lines true (textOf ended ++ last)) = rowsOf (ended.map line ++ lines true last) := by
  induction ended with
  | nil => rfl
  | cons first rest ih =>
      obtain ⟨more, cut, rows⟩ :=
        exists_lines_ended (areLines first List.mem_cons_self) first.ending
        (textOf rest ++ last)
      rw [textOf_cons, List.append_assoc, cut]
      exact rowsOf_cons_congr (rows.trans (ih areLines.tail))

/-- The same lines with other ends, and with blank lines between them. -/
inductive Respelled : List EndedLine → List EndedLine → Prop
  | nil : Respelled [] []
  | ending {line : Text} {before after : List EndedLine} (old new : LineEnd)
      (rest : Respelled before after) : Respelled (⟨line, old⟩ :: before) (⟨line, new⟩ :: after)
  | blank {line : Text} {before after : List EndedLine} (isLine : IsLine line)
      (blank : isBlankText line = true) (ending : LineEnd) (rest : Respelled before after) :
      Respelled before (⟨line, ending⟩ :: after)

namespace Respelled

variable {before after : List EndedLine}

theorem areLines (respelled : Respelled before after) (areLines : AreLines before) :
    AreLines after := by
  induction respelled with
  | nil => exact areLines
  | @ending line before after old new rest ih =>
      intro each member
      rcases List.mem_cons.1 member with rfl | member
      · exact areLines ⟨line, old⟩ List.mem_cons_self
      · exact ih areLines.tail each member
  | blank isLine blank ending rest ih =>
      intro each member
      rcases List.mem_cons.1 member with rfl | member
      · exact isLine
      · exact ih areLines each member

theorem rowsOf_map (respelled : Respelled before after) (last : List Text) :
    rowsOf (after.map line ++ last) = rowsOf (before.map line ++ last) := by
  induction respelled with
  | nil => rfl
  | ending old new rest ih => exact rowsOf_cons_congr ih
  | @blank line before after isLine blank ending rest ih =>
      rw [List.map_cons, List.cons_append, ← List.singleton_append, rowsOf_append,
        rowsOf_singleton, if_pos blank, List.nil_append, ih]

end Respelled
end EndedLine

/-! ## Whole files -/

namespace Text

open EndedLine

/-- A text in which the lines have other ends and behind the first of them there are more blank
lines.  A line that is not ended is the last one and stays so. -/
inductive Respelled (text : Text) : Text → Prop
  | unended (none_ended : (cutEnds text).1 = []) : Respelled text text
  | ended {header : EndedLine} {before after : List EndedLine} {last : Text}
      (cut : cutEnds text = (header :: before, last)) (ending : LineEnd)
      (rest : EndedLine.Respelled before after) :
      Respelled text (textOf (⟨header.line, ending⟩ :: after) ++ last)

/-- The first line is the same, and the rows of the others are. -/
theorem Respelled.lines {text after : Text} (respelled : Respelled text after) :
    (lines true after).head? = (lines true text).head? ∧
      rowsOf ((lines true after).drop 1) = rowsOf ((lines true text).drop 1) := by
  cases respelled with
  | unended => exact ⟨rfl, rfl⟩
  | @ended header before after last cut ending rest =>
      have areLines := areLines_cutEnds text
      have old := lines_eq_map_cutEnds text
      rw [cut] at areLines old
      obtain ⟨more, new, rows⟩ :=
        exists_lines_ended (areLines header List.mem_cons_self) ending (textOf after ++ last)
      rw [textOf_cons, List.append_assoc, new, old]
      refine ⟨rfl, ?_⟩
      calc rowsOf more = rowsOf (Text.lines true (textOf after ++ last)) := rows
        _ = rowsOf (after.map line ++ Text.lines true last) :=
            rowsOf_lines_textOf (rest.areLines areLines.tail) last
        _ = rowsOf (before.map line ++ Text.lines true last) := rest.rowsOf_map _

end Text

/-- What is read from a text does not depend on how its lines are ended. -/
theorem Reading.ofText_respelled {text after : Text} (respelled : text.Respelled after) :
    (ofText after).schema = (ofText text).schema ∧ (ofText after).rows = (ofText text).rows := by
  obtain ⟨header, rows⟩ := respelled.lines
  rw [schema_ofText, schema_ofText, header, rows_ofText, rows_ofText, rows]
  exact ⟨rfl, rfl⟩

namespace Storage

variable {storage : Storage} {path : Path} {text after : Text}

/-- A table file that is written anew with other line ends and more blank lines is read as it was:
the same schema, the same rows and the same next identity. -/
theorem reads_respelled (stored : storage.contentAt path = .ok (Utf8.encode text))
    (respelled : text.Respelled after) :
    ∃ tree, storage.tree.write path (Utf8.encode after) = .ok tree ∧
      (storage.withTree tree).contentAt path = .ok (Utf8.encode after) ∧
      (storage.withTree tree).readSchema path = storage.readSchema path ∧
      (storage.withTree tree).rows path = storage.rows path ∧
      (storage.withTree tree).recover path = storage.recover path := by
  obtain ⟨schema, rows⟩ := Reading.ofText_respelled respelled
  obtain ⟨tree, written, holds⟩ := exists_write stored (Utf8.encode after)
  have scan : (storage.withTree tree).scan path = storage.scan path := by
    rw [scan_of_text holds, scan_of_text stored, rows]
  refine ⟨tree, written, holds, ?_, ?_, ?_⟩
  · rw [readSchema_of_text holds, readSchema_of_text stored, schema]
  · rw [Storage.rows, Storage.rows, scan]
  · rw [recover, recover, scan]
    rfl

/-- The last line is not ended. -/
def plainText : Text := "id\ta\n1\tx\n2\ty".toList

/-- The header is ended by a carriage return and an empty line by the line feed behind it; further
down there is a line of blanks. -/
def respelledText : Text := "id\ta\r\n1\tx\r\n \u2003\r2\ty".toList

/-- The empty line is gone with the end of the header line, and the table is read as before. -/
theorem reads_respelled_fused :
    ∃ storage : Storage, ∃ path,
      storage.contentAt path = .ok (Utf8.encode plainText) ∧ plainText.Respelled respelledText ∧
      storage.rows path = .ok (["1\tx".toList, "2\ty".toList].map cellsOf) ∧
      ∃ tree, storage.tree.write path (Utf8.encode respelledText) = .ok tree ∧
        (storage.withTree tree).contentAt path = .ok (Utf8.encode respelledText) ∧
        (storage.withTree tree).readSchema path = storage.readSchema path ∧
        (storage.withTree tree).rows path = storage.rows path ∧
        (storage.withTree tree).recover path = storage.recover path := by
  have stored : (Store.sampleStorage plainText).contentAt Store.sampleRef.path =
      .ok (Utf8.encode plainText) :=
    eq_ok_of_toOption (by decide +kernel)
  have body : EndedLine.Respelled [⟨"1\tx".toList, .lineFeed⟩]
      [⟨[], .lineFeed⟩, ⟨"1\tx".toList, .both⟩, ⟨" \u2003".toList, .carriageReturn⟩] :=
    .blank (isLine_iff.2 (by decide)) (by decide) .lineFeed
      (.ending .lineFeed .both
        (.blank (isLine_iff.2 (by decide)) (by decide) .carriageReturn .nil))
  have cut : cutEnds plainText =
      ([⟨"id\ta".toList, .lineFeed⟩, ⟨"1\tx".toList, .lineFeed⟩], "2\ty".toList) := by
    decide
  have respelled : plainText.Respelled respelledText := .ended cut .carriageReturn body
  refine ⟨_, _, stored, respelled, ?_, reads_respelled stored respelled⟩
  exact eq_ok_of_toOption (by decide +kernel)

end Storage
end FlatStore
