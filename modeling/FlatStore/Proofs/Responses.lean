import FlatStore.Proofs.Echoes

/-!
# What responses are made of

Acknowledgements and reasons are single lines, and the values in rows hold neither tabs nor line
ends.
-/

namespace FlatStore

open Text

/-- The names that the words of an answer repeat as they are. -/
def Answer.echoes : Answer → List Text
  | .databaseCreated name | .tableCreated name | .selected name | .inserted name _ => [name]
  | .read _ _ => []

theorem Answer.oneLine_message {answer : Answer} (flat : ∀ text ∈ answer.echoes, OneLine text) :
    OneLine answer.message := by
  unfold message
  cases answer with
  | databaseCreated name | tableCreated name | selected name | inserted name id =>
      simp only [oneLine_append, flat name (by simp [echoes])]
      decide
  | read columns rows => exact List.not_mem_nil

/-! ## Rows -/

/-- The cells that a pass over a file delivers hold neither tabs nor line ends. -/
theorem Storage.isCell_of_mem_scan {storage : Storage} {path : Path} {cells : List Text}
    {cell : Text} (row : cells ∈ (storage.scan path).rows) (member : cell ∈ cells) :
    IsCell cell := by
  rw [scan] at row
  split at row
  · cases row
  · rename_i content _
    have isLine : ∀ line ∈ (Reading.ofOctets content).lines.drop 1, IsLine line :=
      fun line member => isLine_of_mem_lines (List.mem_of_mem_drop member)
    exact isCell_of_mem_rowsOf isLine row member

/-- A row is shown by one cell for each of the columns, if there are any. -/
theorem Projection.ne_nil_of_mem_rows {projection : Projection} {scan : Scan}
    {rows : List (List Text)} (projected : projection.rows scan = .ok rows) :
    ∀ row ∈ rows, row ≠ [] := by
  rw [Projection.rows] at projected
  split at projected
  · cases projected
    exact List.forall_mem_nil _
  · rename_i some_position
    obtain ⟨stored, -, rfl⟩ := map_eq_ok projected
    intro row member
    obtain ⟨cells, -, rfl⟩ := List.mem_map.1 member
    rw [Projection.values]
    simpa using some_position

/-- A selection gives rows of cells. -/
theorem Store.exists_rows_of_select {store : Store} {strict : Bool} {database name : Text}
    {requested : Option (List Text)} {answer : Answer}
    (h : store.select strict database name requested = .ok answer) :
    ∃ columns rows, answer = .read columns rows ∧
      ∀ row ∈ rows, row ≠ [] ∧ ∀ value ∈ row, IsCell value := by
  obtain ⟨⟨schema, scan⟩, scanned, h⟩ := bind_eq_ok h
  obtain ⟨projection, -, h⟩ := bind_eq_ok h
  obtain ⟨rows, projected, h⟩ := bind_eq_ok h
  cases h
  obtain ⟨table, -, -, rfl⟩ := scan_eq_ok scanned
  refine ⟨_, _, rfl, fun row member =>
    ⟨Projection.ne_nil_of_mem_rows projected row member, ?_⟩⟩
  rw [Projection.rows] at projected
  split at projected
  · cases projected
    cases member
  · obtain ⟨stored, complete, rfl⟩ := map_eq_ok projected
    rw [Scan.complete] at complete
    split at complete
    · cases complete
      intro value here
      obtain ⟨cells, cells_member, rfl⟩ := List.mem_map.1 member
      rcases Projection.mem_of_mem_values here with rfl | stored
      · decide
      · exact Storage.isCell_of_mem_scan cells_member stored
    · cases complete

/-- What a plan is answered if it succeeds. -/
inductive Plan.Answers : Plan → Answer → Prop
  | databaseCreated {name : Text} : Answers (.createDatabase name) (.databaseCreated name)
  | selected {name : Text} : Answers (.use name) (.selected name)
  | tableCreated {name : Text} {columns : List Text} :
      Answers (.createTable name columns) (.tableCreated name)
  | inserted {name : Text} {values : List Text} {id : Int} :
      Answers (.insert name values) (.inserted name id)
  | read {name : Text} {requested : Option (List Text)} {ignored : Text} {columns : List Text}
      {rows : List (List Text)} (cells : ∀ row ∈ rows, row ≠ [] ∧ ∀ value ∈ row, IsCell value) :
      Answers (.select name requested ignored) (.read columns rows)

namespace Store

variable {store : Store} {strict : Bool} {session : Session} {line : Text} {answer : Answer}

/-- A command that succeeds answers its plan. -/
theorem answers_of_run {plan : Plan} (h : (plan.run strict store session).result = .ok answer) :
    plan.Answers answer := by
  obtain ⟨id, selected⟩ := session
  cases plan with
  | createDatabase name =>
      obtain ⟨done, -, rfl⟩ := map_eq_ok h
      exact .databaseCreated
  | use name =>
      rw [Plan.run] at h
      split at h
      · cases h
        exact .selected
      · cases h
  | createTable name columns =>
      cases selected with
      | none => cases h
      | some database =>
          obtain ⟨done, -, rfl⟩ := map_eq_ok h
          exact .tableCreated
  | insert name values =>
      cases selected with
      | none => cases h
      | some database =>
          have inserted : (Plan.runInsert store database name values).2 = .ok answer := h
          rw [Plan.runInsert] at inserted
          split at inserted
          · cases inserted
          · dsimp only at inserted
            split at inserted
            · obtain ⟨id, -, rfl⟩ := map_eq_ok inserted
              exact .inserted
            · cases inserted
  | select name columns ignored =>
      cases selected with
      | none => cases h
      | some database =>
          have read : (Plan.runSelect strict store database name columns ignored).2 =
            .ok answer := h
          rw [runSelect_snd] at read
          obtain ⟨columns, rows, rfl, cells⟩ := exists_rows_of_select (mapError_eq_ok read)
          exact .read cells

/-- A command that succeeds repeats names of its plan, and the rows that it reads are made of
cells. -/
theorem answer_run {plan : Plan} (h : (plan.run strict store session).result = .ok answer) :
    answer.echoes ⊆ plan.texts ∧
      ∀ rows, answer.rows? = some rows → ∀ row ∈ rows, ∀ value ∈ row, IsCell value := by
  cases answers_of_run h with
  | databaseCreated | selected =>
      exact ⟨List.Subset.refl _, fun rows given => by cases given⟩
  | tableCreated | inserted =>
      exact ⟨by simp [Answer.echoes, Plan.texts], fun rows given => by cases given⟩
  | read cells =>
      refine ⟨List.nil_subset _, fun rows given row member => ?_⟩
      cases given
      exact (cells row member).2

end Store

/-! ## Responses -/

namespace Response

/-- The response to a command by its result. -/
def ofResult : Except Failure Answer → Response
  | .ok answer => .ofAnswer answer
  | .error (.store error) => .failed error.reason
  | .error _ => .failed internalError

/-- Words of one line, or rows of cells. -/
def IsTidy : Response → Prop
  | .done message => OneLine message
  | .table rows => ∀ row ∈ rows, ∀ value ∈ row, IsCell value
  | .failed reason => OneLine reason

end Response

namespace Store

variable {store : Store} {strict : Bool} {session : Session} {origin : Option Origin} {line : Text}

/-- A line is dispatched by executing it; what is logged besides does not matter. -/
theorem dispatch_eq (store : Store) (strict : Bool) (session : Session) (origin : Option Origin)
    (line : Text) :
    let outcome := (store.note ⟨.received line, origin⟩).execute strict session line
    ∃ telemetry, store.dispatch strict session origin line =
      ⟨{ outcome.store with telemetry }, outcome.session, .ofResult outcome.result⟩ := by
  rw [dispatch]
  dsimp only
  split
  · rename_i answer ok
    exact ⟨_, by rw [ok]; rfl⟩
  · rename_i error failed
    exact ⟨_, by rw [failed]; rfl⟩
  · rename_i failure other failed
    cases failure with
    | store error => exact absurd rfl (other error)
    | unwritable | nullCharacter | misuse => exact ⟨_, by rw [failed]; rfl⟩

/-- A single line is answered tidily if the selected database is called by a single line. -/
theorem isTidy_execute (flat : line.OneLine)
    (selected : ∀ database, session.database = some database → database.OneLine) :
    (Response.ofResult (store.execute strict session line).result).IsTidy := by
  cases result : (store.execute strict session line).result with
  | error failure =>
      cases failure with
      | store error => exact oneLine_reason_execute flat selected result
      | unwritable | nullCharacter | misuse => exact (by decide : OneLine internalError)
  | ok answer =>
      rw [execute] at result
      split at result
      · cases result
      · rename_i plan read
        obtain ⟨echoes, cells⟩ := answer_run result
        rw [Response.ofResult, Response.ofAnswer]
        split
        · rename_i rows given
          exact cells rows given
        · exact Answer.oneLine_message fun text member =>
            Plan.oneLine_of_read flat read text (echoes member)

end Store
end FlatStore
