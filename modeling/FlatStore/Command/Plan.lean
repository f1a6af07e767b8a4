import FlatStore.Telemetry.Metrics
import FlatStore.Text.Quoted
import FlatStore.Number.Numeral

/-!
# Plans

What a command line asks for, once it is understood.
-/

namespace FlatStore

/-- A command that was understood. -/
inductive Plan
  | createDatabase (database : Text)
  /-- Create a table in the selected database. -/
  | createTable (table : Text) (columns : List Text)
  /-- Select a database for the rest of the session. -/
  | use (database : Text)
  | insert (table : Text) (values : List Text)
  /-- Read the given columns of a table, or all of them; `ignored` is what followed the table. -/
  | select (table : Text) (columns : Option (List Text)) (ignored : Text)
deriving DecidableEq, Repr

namespace Plan

/-- The verb of a plan. -/
def verb : Plan → Verb
  | .createDatabase _ => .createDatabase
  | .createTable _ _ => .createTable
  | .use _ => .use
  | .insert _ _ => .insert
  | .select _ _ _ => .select

/-- A plan in words. -/
def text : Plan → Text
  | .createDatabase database => "CreateDatabase(".toList ++ database ++ [')']
  | .createTable table columns =>
      "CreateTable(".toList ++ table ++ ", ".toList ++ Text.quotedList columns ++ [')']
  | .use database => "Use(".toList ++ database ++ [')']
  | .insert table values =>
      "Insert(".toList ++ table ++ ", values=".toList ++ Numeral.natural values.length ++ [')']
  | .select table columns _ =>
      "Select(".toList ++ (columns.map (Text.join ", ".toList)).getD ['*']
        ++ ")\n  -> Scan(".toList ++ table ++ [')']

end Plan
end FlatStore
