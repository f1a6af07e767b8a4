import FlatStore.Disk.Refusal
import FlatStore.Table.Schema
import FlatStore.Text.Reading

/-!
# Errors

Every failure that a client can cause or meet, by its cause.  A cause has a kind, which sorts it
for the log, and a reason, which is its wording.
-/

namespace FlatStore

/-- The categories of errors. -/
inductive ErrorKind
  /-- The command does not have the shape of its verb, or names something impossible. -/
  | malformedCommand
  | unknownCommand
  | noSuchDatabase
  | noSuchTable
  | alreadyExists
  | noDatabaseSelected
  | unknownColumn
  | ioFailure
  | malformedTable
  /-- No identities are kept for the table. -/
  | unknownTable
deriving DecidableEq, Repr

/-- The name of a category. -/
def ErrorKind.label : ErrorKind → Text
  | .malformedCommand => "SyntaxError".toList
  | .unknownCommand => "UnknownCommand".toList
  | .noSuchDatabase => "NoSuchDatabase".toList
  | .noSuchTable => "NoSuchTable".toList
  | .alreadyExists => "AlreadyExists".toList
  | .noDatabaseSelected => "NoDatabaseSelected".toList
  | .unknownColumn => "UnknownColumn".toList
  | .ioFailure => "IOFailure".toList
  | .malformedTable => "MalformedTable".toList
  | .unknownTable => "UnknownTable".toList

/-- What a name in a command stands for. -/
inductive NameRole
  | database
  | table
  | column
deriving DecidableEq, Repr

/-- The word for the role. -/
def NameRole.word : NameRole → Text
  | .database => "database".toList
  | .table => "table".toList
  | .column => "column".toList

/-- The two commands that list columns. -/
inductive ColumnList
  | created
  | selected
deriving DecidableEq, Repr

/-- The words that introduce the list. -/
def ColumnList.words : ColumnList → Text
  | .created => "CREATE TABLE".toList
  | .selected => "SELECT".toList

/-- How a command line can fail to be a command. -/
inductive SyntaxError
  /-- Nothing but blanks. -/
  | emptyCommand
  /-- Nothing but terminators after the verb. -/
  | bareVerb
  /-- Neither a database nor a table is to be created. -/
  | unknownCreation
  /-- Not exactly one name where one is needed. -/
  | notOneName (role : NameRole)
  /-- No name and parenthesised column list of a new table. -/
  | createTableShape
  | emptyColumn (list : ColumnList)
  /-- Not `INTO`, a table, `VALUES` and values. -/
  | insertShape
  | tabInValue
  /-- Not a projection, `FROM` and a table. -/
  | selectShape
deriving DecidableEq, Repr

/-- Wording of a command that is none. -/
def SyntaxError.reason : SyntaxError → Text
  | .emptyCommand => "Empty command".toList
  | .bareVerb => "Invalid command".toList
  | .unknownCreation => "Invalid CREATE command".toList
  | .notOneName role => "Invalid ".toList ++ role.word ++ " name".toList
  | .createTableShape => "Invalid CREATE TABLE syntax".toList
  | .emptyColumn list => "Empty column name in ".toList ++ list.words
  | .insertShape => "Invalid INSERT syntax".toList
  | .tabInValue => "Values must not contain tab characters".toList
  | .selectShape => "Invalid SELECT syntax".toList

/-- What was being done to a file or directory. -/
inductive FileTask
  | readHeader
  | readData
  | createTable
  | createDatabase
  | appendRow
deriving DecidableEq, Repr

/-- Wording of the task that failed. -/
def FileTask.words : FileTask → Text
  | .readHeader => "Error reading table header: ".toList
  | .readData => "Error reading table data: ".toList
  | .createTable => "Error creating table: ".toList
  | .createDatabase => "Error creating database: ".toList
  | .appendRow => "Error writing to table: ".toList

/-- What stopped the task. -/
inductive FileTrouble
  /-- The operating system refused the path, as it is shown. -/
  | refused (refusal : Refusal) (shown : Text)
  | diskFull
deriving DecidableEq, Repr

/-- Wording of what stopped the task. -/
def FileTrouble.words : FileTrouble → Text
  | .refused refusal shown => refusal.message shown
  | .diskFull => "disk full".toList

/-- What is wrong with the header line of a table file. -/
inductive HeaderFlaw
  | missing
  | empty
  /-- The first cell is not the identity column. -/
  | notIdentity (cell : Text)
  | undecodable (failure : Utf8.Failure)
deriving DecidableEq, Repr

/-- Wording of what is wrong with the header. -/
def HeaderFlaw.reason : HeaderFlaw → Text
  | .missing => "Table header is missing".toList
  | .empty => "Table header is empty".toList
  | .notIdentity cell =>
      "Table header must start with '".toList ++ identityColumn ++ "', got '".toList ++ cell
        ++ ['\'']
  | .undecodable failure => "Table header is not valid utf-8: ".toList ++ failure.message

/-- A failure of the store, by its cause. -/
inductive StoreError
  | malformed (cause : SyntaxError)
  | unknownVerb (verb : Text)
  | invalidName (role : NameRole) (name : Text)
  | noColumns
  /-- The identity column among the given ones. -/
  | identityGiven
  | duplicateColumn (column : Text)
  /-- Not as many values as the table has value columns. -/
  | wrongValueCount (table : Text) (expected given : Nat)
  | noDatabase (database : Text)
  | noTable (table : Text)
  | databaseExists (database : Text)
  | tableExists (table : Text)
  | noneSelected
  | noColumn (column table : Text)
  | file (task : FileTask) (trouble : FileTrouble)
  | undecodableData (failure : Utf8.Failure)
  | header (flaw : HeaderFlaw)
  /-- No identities are kept for the table. -/
  | noIdentities (database table : Text)
deriving DecidableEq, Repr

namespace StoreError

/-- The category of an error. -/
def kind : StoreError → ErrorKind
  | .malformed _ | .invalidName _ _ | .noColumns | .identityGiven | .duplicateColumn _
  | .wrongValueCount _ _ _ => .malformedCommand
  | .unknownVerb _ => .unknownCommand
  | .noDatabase _ => .noSuchDatabase
  | .noTable _ => .noSuchTable
  | .databaseExists _ | .tableExists _ => .alreadyExists
  | .noneSelected => .noDatabaseSelected
  | .noColumn _ _ => .unknownColumn
  | .file _ _ | .undecodableData _ => .ioFailure
  | .header _ => .malformedTable
  | .noIdentities _ _ => .unknownTable

/-- The wording of an error. -/
def reason : StoreError → Text
  | .malformed cause => cause.reason
  | .unknownVerb verb => "Unknown command ".toList ++ verb
  | .invalidName role name => "Invalid ".toList ++ role.word ++ " name '".toList ++ name ++ ['\'']
  | .noColumns => "A table needs at least one column".toList
  | .identityGiven => "Column '".toList ++ identityColumn ++ "' is added implicitly".toList
  | .duplicateColumn column => "Duplicate column '".toList ++ column ++ ['\'']
  | .wrongValueCount table expected given =>
      "Table ".toList ++ table ++ " expects ".toList ++ Numeral.natural expected
        ++ " values, got ".toList ++ Numeral.natural given
  | .noDatabase database => "Database ".toList ++ database ++ " not found".toList
  | .noTable table => "Table ".toList ++ table ++ " does not exist".toList
  | .databaseExists database => "Database ".toList ++ database ++ " already exists".toList
  | .tableExists table => "Table ".toList ++ table ++ " already exists".toList
  | .noneSelected => "No database selected".toList
  | .noColumn column table =>
      "Column ".toList ++ column ++ " does not exist in table ".toList ++ table
  | .file task trouble => task.words ++ trouble.words
  | .undecodableData failure => "Table data is not valid utf-8: ".toList ++ failure.message
  | .header flaw => flaw.reason
  | .noIdentities database table =>
      "No identity allocator for table ".toList ++ database ++ '.' :: table

end StoreError
end FlatStore
