import FlatStore.Server.Program

/-!
# Running the program

The outer layer: it fetches the environment and the files of the data directory, serves the
standard streams as one connection and carries changes of the tree over to the disk.  What a line
means, what is answered and what is logged is decided by the library; here is only input and output.
-/

namespace FlatStore

/-- Octets as an array of bytes. -/
def bytesOf (octets : Octets) : ByteArray := ⟨octets.toArray⟩

/-- Fetch the variables that settings can come from. -/
def fetchEnvironment : IO Environment :=
  Environment.variableNames.filterMapM fun name => do
    let value? ← IO.getEnv (String.ofList name)
    return value?.map fun value => (name, value.toList)

/-- Fetch what a directory entry stands for. -/
def fetchNode (entry : IO.FS.DirEntry) : IO Node := do
  if ← entry.path.isDir then return .directory
  else return .file (← IO.FS.readBinFile entry.path).toList

/-- Fetch the databases and their files below a directory; what lies deeper is never looked at. -/
def fetchTree (root : String) : IO Tree := do
  let root := (← IO.currentDir) / root
  IO.FS.createDirAll root
  let mut tree := Tree.bare
  for database in ← root.readDir do
    let place := Place.root.child database.fileName.toList
    let node ← fetchNode database
    tree := tree.put place node
    if node = .directory then
      for table in ← database.path.readDir do
        tree := tree.put (place.child table.fileName.toList) (← fetchNode table)
  return tree

/-- Carry the differences between two trees over to the disk. -/
def saveTree (root : String) (before after : Tree) : IO Unit := do
  for (place, node) in after.entries do
    if before.find? place != some node then
      let target := (← IO.currentDir) / root / String.ofList (Text.join ['/'] place.names)
      match before.find? place, node with
      | _, .directory => IO.FS.createDir target
      | some (.file old), .file content =>
          let handle ← IO.FS.Handle.mk target .append
          handle.write (bytesOf (content.drop old.length))
      | _, .file content => IO.FS.writeBinFile target (bytesOf content)

/-- Write the log lines of a store, and forget what is written. -/
def writeLog (settings : Settings) (store : Store) : IO Store := do
  let (records, store) := store.takeRecords
  for line in Program.logLines settings records do
    match settings.observability.logFile with
    | none => (← IO.getStderr).putStrLn (String.ofList line)
    | some file =>
        let handle ← IO.FS.Handle.mk (String.ofList file.text) .append
        handle.putStrLn (String.ofList line)
  return store

/-- Answer lines that were read, each over the files as they are on disk. -/
def answerLines (settings : Settings) (origin : Origin) :
    List Octets → Conversation → IO (Conversation × Halt)
  | [], conversation => return (conversation, .noMoreLines)
  | line :: rest, conversation => do
      let root := String.ofList settings.storage.dataDir.text
      let before ← fetchTree root
      let conversation := { conversation with store.storage.tree := before, frames := [] }
      let (conversation, halt) :=
        conversation.answer settings.query.strictColumns origin none [line]
      saveTree root before conversation.store.storage.tree
      let store ← writeLog settings conversation.store
      let output ← IO.getStdout
      for frame in conversation.frames do
        output.write (bytesOf frame)
      output.flush
      let conversation := { conversation with store }
      match halt with
      | .noMoreLines => answerLines settings origin rest conversation
      | halt => return (conversation, halt)

/-- Answer what arrives on standard input, `carried` being the begin of a line. -/
partial def converse (settings : Settings) (origin : Origin) (carried : Octets)
    (conversation : Conversation) : IO (Conversation × Halt) := do
  let arrived ← (← IO.getStdin).read 4096
  if arrived.isEmpty then
    answerLines settings origin (Traffic.lines ⟨carried, .endOfInput, none⟩) conversation
  else
    let (lines, rest) := cutAtLineFeed (carried ++ arrived.toList)
    match ← answerLines settings origin lines conversation with
    | (conversation, .noMoreLines) => converse settings origin rest conversation
    | done => return done

/-- Serve the standard streams with the given settings. -/
def serveStreams (settings : Settings) : IO UInt32 := do
  match Program.build settings (← fetchTree (String.ofList settings.storage.dataDir.text)) with
  | .error failure =>
      (← IO.getStderr).putStrLn (String.ofList (failure.message settings.storage.dataDir.text))
      return 1
  | .ok server =>
      let server := Program.listen settings settings.server.port server
      let origin : Origin := ⟨server.nextSession, "standard input".toList⟩
      let (conversation, halt) ← converse settings origin [] (server.openConnection origin)
      let event := endingEvent server.idleTimeout halt .endOfInput
      let server := Program.stop (server.closeConnection origin conversation event)
      discard (writeLog settings server.store)
      return 0

/-- Run the program with the settings of the environment. -/
def runProgram : IO UInt32 := do
  match Settings.ofEnvironment (← fetchEnvironment) with
  | .ok settings => serveStreams settings
  | .error error =>
      for line in error.lines do
        (← IO.getStderr).putStrLn (String.ofList line)
      return 1

end FlatStore

/-- Run the program. -/
def main : IO UInt32 := FlatStore.runProgram
