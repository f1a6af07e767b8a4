import FlatStore.Proofs.Agreement
import FlatStore.Proofs.Frames

/-!
# Results as text

A response is text without any quoting.  The rows of a selection can all the same be read off it:
the lines below the first one are the rows, and the parts between the tabs are their values, for no
value holds a tab or a line end and no row is without values.  Every other response is one line,
whatever it repeats of the line that it answers, of names and of files.
-/

namespace FlatStore

open Text

/-! ## Texts of responses -/

namespace Response

/-- Rows of cells are what the tabs part in their lines. -/
theorem map_cutAt_join {rows : List (List Text)}
    (cells : ∀ row ∈ rows, row ≠ [] ∧ ∀ value ∈ row, IsCell value) :
    (rows.map (join ['\t'])).map (cutAt '\t') = rows := by
  induction rows with
  | nil => rfl
  | cons row rest ih =>
      obtain ⟨some_value, clean⟩ := cells row List.mem_cons_self
      have first : cutAt '\t' (join ['\t'] row) = row :=
        cutAt_join some_value fun value member => (clean value member).1
      rw [List.map_cons, List.map_cons, first,
        ih fun other member => cells other (List.mem_cons_of_mem _ member)]

/-- A response without rows is one line behind its mark. -/
theorem text_of_isTidy {response : Response} (tidy : response.IsTidy)
    (no_rows : ∀ rows, response ≠ .table rows) :
    linesOf response.text = [response.text] ∧
      (okMark ++ [' '] <+: response.text ∨ errorMark ++ [' '] <+: response.text) := by
  cases response with
  | table rows => exact absurd rfl (no_rows rows)
  | done message =>
      exact ⟨linesOf_words tidy (.inl rfl), .inl ⟨message, by simp [text]⟩⟩
  | failed reason =>
      exact ⟨linesOf_words tidy (.inr rfl), .inr ⟨reason, by simp [text]⟩⟩

end Response

/-! ## Responses to lines -/

namespace Store

variable {store : Store} {strict : Bool} {session : Session} {line : Text} {answer : Answer}

/-- A line that is answered was read as a plan that has this answer. -/
theorem answers_of_execute (h : (store.execute strict session line).result = .ok answer) :
    ∃ plan, Plan.read line = .ok plan ∧ plan.Answers answer := by
  rw [execute] at h
  split at h
  · cases h
  · rename_i plan read
    exact ⟨plan, read, answers_of_run h⟩

end Store

namespace Service

variable {service : Service} {line : Text}

/-- A dispatched line is answered by the result of executing it. -/
theorem dispatch_snd (service : Service) (strict : Bool) (number : Nat) (origin : Option Origin)
    (line : Text) :
    (service.dispatch strict number origin line).2 =
      Response.ofResult (service.execute strict number line).2 := by
  obtain ⟨telemetry, dispatched⟩ :=
    service.store.dispatch_eq strict (service.session number) origin line
  have noted : Store.Agrees (service.store.note ⟨.received line, origin⟩) service.store :=
    ⟨rfl, rfl⟩
  rw [dispatch, dispatched]
  exact congrArg Response.ofResult (noted.execute strict (service.session number) line).result

/-- In every state, whatever the files hold, a selection that succeeds is answered by its rows: one
line for each of them below the mark, and the parts between the tabs of a line are the values of the
row.  Any other line is answered by a single line behind a mark. -/
theorem dispatch_renders {store : Store} (leads : Leads (fun _ _ => True) (ofStore store) service)
    (flat : '\n' ∉ line) (strict : Bool) (number : Nat) (origin : Option Origin) :
    let result := (service.execute strict number line).2
    let text := (service.dispatch strict number origin line).2.text
    (∀ name requested ignored answer, Plan.read line = .ok (.select name requested ignored) →
        result = .ok answer → ∃ columns rows lines, answer = .read columns rows ∧
          Response.linesOf text = Response.okMark :: lines ∧ lines.map (cutAt '\t') = rows) ∧
      ((∀ name requested ignored answer, Plan.read line = .ok (.select name requested ignored) →
          result ≠ .ok answer) →
        Response.linesOf text = [text] ∧
          (Response.okMark ++ [' '] <+: text ∨ Response.errorMark ++ [' '] <+: text)) := by
  intro result text
  have answered : (service.dispatch strict number origin line).2 = Response.ofResult result :=
    dispatch_snd service strict number origin line
  refine ⟨fun name requested ignored answer read succeeds => ?_, fun other => ?_⟩
  · obtain ⟨plan, read_too, answers⟩ := Store.answers_of_execute succeeds
    cases read.symm.trans read_too
    cases answers with
    | @read _ _ _ columns rows cells =>
        have shown : (service.dispatch strict number origin line).2 = .table rows := by
          rw [answered, succeeds]
          rfl
        have lines : Response.linesOf text = Response.okMark :: rows.map (join ['\t']) := by
          change Response.linesOf (service.dispatch strict number origin line).2.text = _
          rw [shown]
          exact Response.linesOf_text_table fun row member => (cells row member).2
        exact ⟨columns, rows, _, rfl, lines, Response.map_cutAt_join cells⟩
  · refine Response.text_of_isTidy (leads.isTidy strict number origin flat) fun rows shown => ?_
    -- Rows are shown for a selection that succeeds only.
    rw [answered] at shown
    cases given : result with
    | error failure => cases failure <;> (rw [given] at shown; cases shown)
    | ok answer =>
        obtain ⟨plan, read, answers⟩ := Store.answers_of_execute given
        cases answers with
        | read => exact other _ _ _ _ read given
        | databaseCreated | selected | tableCreated | inserted =>
            rw [given] at shown
            cases shown

/-- A file with empty cells, a row that is too short and one that is too long. -/
def unevenText : Text := "id\ta\tb\n1\t x\n\n2\t\ty\tz\n3\n".toList

/-- A session that has selected the database of the file. -/
def unevenService : Service :=
  ((ofStore (Store.sampleStore unevenText)).execute false 1 "USE shop".toList).1

/-- Empty values are read off the text too, a row of nothing else as an empty line. -/
theorem dispatch_renders_uneven :
    let text := (unevenService.dispatch false 1 none "SELECT a FROM stock".toList).2.text
    text = "[OK]\n x\n\n".toList ∧ ∃ rows lines,
      (unevenService.execute false 1 "SELECT a FROM stock".toList).2 =
        .ok (.read ["a".toList] rows) ∧
      rows = [[" x".toList], [[]], [[]]] ∧
      Response.linesOf text = Response.okMark :: lines ∧ lines.map (cutAt '\t') = rows := by
  have leads : Leads (fun _ _ => True) (ofStore (Store.sampleStore unevenText)) unevenService :=
    .command .refl false 1 "USE shop".toList
  have read : Plan.read "SELECT a FROM stock".toList =
      .ok (.select "stock".toList (some ["a".toList]) []) := by
    decide +kernel
  have succeeds : (unevenService.execute false 1 "SELECT a FROM stock".toList).2 =
      .ok (.read ["a".toList] [[" x".toList], [[]], [[]]]) :=
    eq_ok_of_toOption (by decide +kernel)
  have flat : '\n' ∉ "SELECT a FROM stock".toList := by decide
  obtain ⟨rendered, -⟩ := dispatch_renders leads flat false 1 none
  obtain ⟨columns, rows, lines, same, shown, parts⟩ := rendered _ _ _ _ read succeeds
  cases same
  exact ⟨by decide +kernel, _, lines, succeeds, rfl, shown, parts⟩

end Service
end FlatStore
