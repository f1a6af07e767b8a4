import FlatStore.Proofs.Failing
import FlatStore.Proofs.OneLine
import FlatStore.Proofs.Services

/-!
# What errors repeat

An error repeats nothing but texts of the command line and the database that the session has
selected.
-/

namespace FlatStore

/-! ## Reading lines -/

namespace Plan

open Text

theorem IsMalformed.echoes_eq {error : StoreError} (malformed : IsMalformed error) :
    error.echoes = [] := by
  obtain ⟨cause, rfl⟩ := malformed
  rfl

/-- A line that can not be read has its verb repeated at most. -/
theorem echoes_read {line : Text} {error : StoreError} (h : Plan.read line = .error error) :
    ∀ text ∈ error.echoes, ∀ c ∈ text, c ∈ line := by
  rcases read_eq_error h with malformed | rfl
  · rw [malformed.echoes_eq]
    exact List.forall_mem_nil _
  · intro text member c here
    rw [List.mem_singleton.1 member] at here
    exact mem_of_mem_trim ((List.takeWhile_sublist _).subset here)

end Plan

/-! ## The catalog -/

namespace Catalog

variable {catalog : Catalog} {database name : Text} {columns : List Text} {error : StoreError}

theorem echoes_resolve (h : catalog.resolve database name = .error error) :
    error.echoes ⊆ [database, name] := by
  rcases resolve_eq_error h with ⟨rfl, -⟩ | rfl <;> simp [StoreError.echoes]

theorem echoes_checkTable (h : catalog.checkTable database name columns = .error error) :
    error.echoes ⊆ database :: name :: columns := by
  rcases checkTable_eq_error h with ⟨rfl, -⟩ | rfl | rfl | wrong
  · simp [StoreError.echoes]
  · simp [StoreError.echoes]
  · exact List.nil_subset _
  · rcases checkColumns_eq_error wrong with rfl | ⟨column, member, rfl | rfl⟩
    · exact List.nil_subset _
    · simp [StoreError.echoes, member]
    · simp [StoreError.echoes, member]

end Catalog

/-! ## Plans -/

namespace Store

variable {store after : Store} {database name : Text} {columns : List Text} {error : StoreError}

theorem echoes_createDatabase (h : store.createDatabase name = (after, .error error)) :
    error.echoes ⊆ [name] := by
  rcases createDatabase_eq_error h with rfl | rfl | ⟨trouble, rfl⟩
  · exact List.Subset.refl _
  · exact List.Subset.refl _
  · exact List.nil_subset _

theorem echoes_createTable (h : store.createTable database name columns = (after, .error error)) :
    error.echoes ⊆ database :: name :: columns := by
  rcases createTable_eq_error h with wrong | rfl | ⟨trouble, rfl⟩
  · exact Catalog.echoes_checkTable wrong
  · simp [StoreError.echoes]
  · exact List.nil_subset _

theorem echoes_runInsert {values : List Text}
    (h : Plan.runInsert store database name values = (after, .error (.store error))) :
    error.echoes ⊆ [database, name] := by
  rcases runInsert_eq_error h with ⟨other, unknown, same⟩ | ⟨expected, given, same⟩ |
    ⟨trouble, same⟩ | same | same
  · cases same
    exact Catalog.echoes_resolve unknown
  · cases same
    simp [StoreError.echoes]
  · cases same
    exact List.nil_subset _
  · cases same
  · cases same

variable {strict : Bool} {requested : Option (List Text)}

theorem echoes_select (h : store.select strict database name requested = .error error) :
    error.echoes ⊆ database :: name :: requested.getD [] := by
  rcases select_eq_error h with unknown | ⟨column, member, rfl⟩ | ⟨trouble, rfl⟩ | ⟨failure, rfl⟩
  · exact List.Subset.trans (Catalog.echoes_resolve unknown) (by simp)
  · simp [StoreError.echoes, member]
  · exact List.nil_subset _
  · exact List.nil_subset _

/-! ## Lines -/

variable {session : Session} {line : Text}

/-- A failed command repeats the selected database and texts of its plan. -/
theorem echoes_run {plan : Plan}
    (h : (plan.run strict store session).result = .error (.store error)) :
    error.echoes ⊆ session.database.toList ++ plan.texts := by
  cases Plan.fails_of_run h with
  | unselected => exact List.nil_subset _
  | use => simp [StoreError.echoes, Plan.texts]
  | createDatabase failed =>
      exact List.subset_append_of_subset_right _ (echoes_createDatabase failed)
  | createTable selected failed =>
      rw [selected]
      exact echoes_createTable failed
  | insert selected failed =>
      rw [selected]
      exact List.Subset.trans (echoes_runInsert failed) (by simp [Plan.texts])
  | select selected failed =>
      rw [selected]
      refine List.Subset.trans (echoes_select failed) ?_
      simp only [Plan.texts, Option.toList]
      grind

/-- The reason of a failed line is one line if the line and the selected database are. -/
theorem oneLine_reason_execute (flat : line.OneLine)
    (selected : ∀ database, session.database = some database → database.OneLine)
    (failed : (store.execute strict session line).result = .error (.store error)) :
    error.reason.OneLine := by
  refine StoreError.oneLine_reason fun text member => ?_
  rw [execute] at failed
  split at failed
  · rename_i unread
    cases failed
    exact flat.mono (Plan.echoes_read unread text member)
  · rename_i plan read
    rcases List.mem_append.1 (echoes_run failed member) with from_session | from_plan
    · exact selected text (Option.mem_toList.1 from_session)
    · exact Plan.oneLine_of_read flat read text from_plan

end Store
end FlatStore
