import FlatStore.Index
import FlatStore.Text.Basic

/-!
# Metrics

What the store counts.  A tally counts how often each label was met; a label that was never met is
not in it.
-/

namespace FlatStore

/-- Counters by label. -/
abbrev Tally (κ : Type) [DecidableEq κ] := Index κ Nat

namespace Tally

variable {κ : Type} [DecidableEq κ]

/-- How often a label was met. -/
def count (tally : Tally κ) (label : κ) : Nat := (tally.find? label).getD 0

/-- Meet a label once more. -/
def bump (tally : Tally κ) (label : κ) : Tally κ := tally.put label (tally.count label + 1)

@[simp]
theorem count_empty (label : κ) : count (Index.empty : Tally κ) label = 0 := rfl

theorem count_bump (tally : Tally κ) (label other : κ) :
    (tally.bump label).count other = tally.count other + if label = other then 1 else 0 := by
  rw [count, bump, Index.find?_put]
  by_cases h : label = other <;> simp [h, count]

end Tally

/-- What a command asks for; `invalid` is a line that is no command. -/
inductive Verb
  | createDatabase
  | createTable
  | use
  | insert
  | select
  | invalid
deriving DecidableEq, Repr

/-- The name of a verb in metrics and spans. -/
def Verb.label : Verb → Text
  | .createDatabase => "create_database".toList
  | .createTable => "create_table".toList
  | .use => "use".toList
  | .insert => "insert".toList
  | .select => "select".toList
  | .invalid => "invalid".toList

/-- How a command ended. -/
inductive Status
  | ok
  | error
deriving DecidableEq, Repr

/-- The name of an ending in metrics. -/
def Status.label : Status → Text
  | .ok => "ok".toList
  | .error => "error".toList

/-- All counters of the store and its server. -/
structure Metrics where
  commands : Tally (Verb × Status)
  /-- Observations of the time that a command took, by verb. -/
  latencies : Tally Verb
  rowsInserted : Nat
  rowsReturned : Nat
  connectionsActive : Nat
  /-- Connections that were ever accepted. -/
  connectionsTotal : Nat
  /-- Observations of the time spent waiting for a table lock. -/
  lockWaits : Nat
  tablesRegistered : Nat
  tablesSkipped : Nat

/-- Nothing counted yet. -/
def Metrics.zero : Metrics := ⟨Index.empty, Index.empty, 0, 0, 0, 0, 0, 0, 0⟩

end FlatStore
