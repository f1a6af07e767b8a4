import FlatStore.Command.Plan
import FlatStore.Error
import FlatStore.Text.Blank
import FlatStore.Text.Capital
import FlatStore.Text.Cut

/-!
# Reading command lines

A command line is a verb, a space and what the verb needs:

* `CREATE DATABASE name` and `CREATE TABLE name (column, ...)`,
* `USE name`,
* `INSERT INTO table VALUES (value, ...)`,
* `SELECT column, ... FROM table ...`, with `*` for all columns.

The verb and the word after `CREATE` may be in any case; the other keywords are capitals and are
found wherever they stand, inside words as well.  Semicolons at the end are dropped, and values lose
their parentheses and quotation marks.
-/

namespace FlatStore

/-- The words that open a command. -/
inductive Opening
  | create
  | use
  | insert
  | select
deriving DecidableEq, Repr

namespace Opening

/-- All opening words. -/
def all : List Opening := [.create, .use, .insert, .select]

/-- The spelling of an opening word in capitals. -/
def word : Opening → Text
  | .create => "CREATE".toList
  | .use => "USE".toList
  | .insert => "INSERT".toList
  | .select => "SELECT".toList

/-- The opening word that a text spells. -/
def ofWord? (text : Text) : Option Opening := all.find? fun opening => Text.spells opening.word text

end Opening

namespace Plan

open Text

/-- Remove blanks at both ends, then semicolons at the end, then blanks again. -/
def stripTerminator (text : Text) : Text := trim (trimEnd (· = ';') (trim text))

/-- Fail with a cause when a condition does not hold. -/
def require (condition : Bool) (cause : SyntaxError) : Except StoreError Unit :=
  if condition then .ok () else .error (.malformed cause)

/-- The one name that a text consists of. -/
def singleName (role : NameRole) (text : Text) : Except StoreError Text := do
  let name := stripTerminator text
  require (isWord name) (.notOneName role)
  return name

/-- The entries of a column list. -/
def columnNames (list : ColumnList) (text : Text) : Except StoreError (List Text) := do
  let columns := (cutAt ',' text).map trim
  require (columns.all fun column => !column.isEmpty) (.emptyColumn list)
  return columns

/-- What follows `CREATE TABLE`. -/
def readCreateTable (text : Text) : Except StoreError Plan := do
  let name := trim (upTo '(' text)
  let list := trim (behind '(' text)
  require ((behind? '(' text).isSome && isWord name && list.getLast? == some ')') .createTableShape
  return .createTable name (← columnNames .created list.dropLast)

/-- What follows `CREATE`. -/
def readCreate (text : Text) : Except StoreError Plan :=
  let body := stripTerminator text
  let kind := upTo ' ' body
  let rest := behind ' ' body
  if spells "DATABASE".toList kind then (singleName .database rest).map .createDatabase
  else if spells "TABLE".toList kind then readCreateTable rest
  else .error (.malformed .unknownCreation)

/-- What follows `USE`. -/
def readUse (text : Text) : Except StoreError Plan := (singleName .database text).map .use

/-- The keywords inside an insert. -/
def insertWords : List Text := ["INTO".toList, "VALUES".toList]

/-- Whether a character decorates values without belonging to them. -/
def isDecoration (c : Char) : Bool := c = '(' || c = ')' || c = '\'' || c = '"'

/-- The values in the text behind `VALUES`. -/
def valuesOf (text : Text) : List Text :=
  (cutAt ',' ((stripTerminator text).filter fun c => !isDecoration c)).map trim

/-- What follows `INSERT`. -/
def readInsert (text : Text) : Except StoreError Plan :=
  match cutAtWords insertWords 0 text with
  | [lead, middle, list] => do
      let table := trim middle
      require (isBlankText lead && isWord table) .insertShape
      let values := valuesOf list
      require (values.all fun value => !value.contains '\t') .tabInValue
      return .insert table values
  | _ => .error (.malformed .insertShape)

/-- The keyword inside a selection. -/
def selectWords : List Text := ["FROM".toList]

/-- What follows `SELECT`. -/
def readSelect (text : Text) : Except StoreError Plan :=
  match cutAtWords selectWords 0 text with
  | [list, rest] => do
      let projection := trim list
      let target := stripTerminator rest
      require (!projection.isEmpty && !target.isEmpty) .selectShape
      let table := trimEnd (· = ';') (firstWord target)
      let ignored := afterFirstWord target
      if projection = ['*'] then return .select table none ignored
      else return .select table (some (← columnNames .selected projection)) ignored
  | _ => .error (.malformed .selectShape)

/-- What follows an opening word. -/
def readAfter : Opening → Text → Except StoreError Plan
  | .create => readCreate
  | .use => readUse
  | .insert => readInsert
  | .select => readSelect

/-- Read a command line. -/
def read (line : Text) : Except StoreError Plan :=
  let text := trim line
  if text.isEmpty then .error (.malformed .emptyCommand)
  else
    let verb := upTo ' ' text
    match Opening.ofWord? verb with
    | none => .error (.unknownVerb verb)
    | some opening =>
        let rest := trim (behind ' ' text)
        if (stripTerminator rest).isEmpty then .error (.malformed .bareVerb)
        else readAfter opening rest

end Plan
end FlatStore
