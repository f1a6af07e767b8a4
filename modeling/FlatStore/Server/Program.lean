import FlatStore.Server.Connection
import FlatStore.Settings.Environment
import FlatStore.Store.Load

/-!
# The program

From settings and the files on disk to a running server.  The data directory and the log file are
created if they are missing.  Every record at or above the configured level is written when it is
made; if that fails while the server is built, there is no server.
-/

namespace FlatStore
namespace Program

/-- The logger of a run. -/
def logger (settings : Settings) : Logger := ⟨settings.observability.logLevel, []⟩

/-- The lines that are written of some records. -/
def logLines (settings : Settings) (records : List Record) : List Text :=
  ((logger settings).kept records).filterMap Record.line?

/-- The storage root over the files of the data directory. -/
def storage (settings : Settings) (tree : Tree) : Storage :=
  ⟨settings.storage.dataDir.text, tree, Troubles.none, Index.empty⟩

/-- Why a program does not start. -/
inductive StartFailure
  /-- Nothing can be done with a path in the settings. -/
  | path (fault : PathFault)
  /-- A record has an integer with too many digits to be written. -/
  | record
deriving DecidableEq, Repr

/-- The wording of a failure, `place` being what the path leads to. -/
def StartFailure.message (place : Text) : StartFailure → Text
  | .path fault => fault.message place
  | .record => Numeral.tooLongMessage

/-- Load the store and put a server in front of it. -/
def build (settings : Settings) (tree : Tree) : Except StartFailure Server :=
  match (Store.ofStorage (storage settings tree)).load with
  | .error refusal => .error (.path (.refused refusal))
  | .ok store =>
      if (logger settings).canWrite store.takeRecords.1 then
        .ok (Server.ofStore store settings.query.strictColumns settings.server.idleTimeout)
      else .error .record

/-! ## From the start to the end -/

/-- Create the data directory, seen from a working directory, if it is missing. -/
def makeDataDirectory (settings : Settings) (working : Path) (disk : Tree) :
    Except PathFault Tree :=
  match disk.makeWritten working settings.storage.dataDir with
  | (_, .error fault) => .error fault
  | (disk, .ok ()) => .ok disk

/-- Open a log file for lines to be appended, after the directories on the way to it have been
created. -/
def openLog (working : Path) (file : WrittenPath) (disk : Tree) : Except PathFault Tree :=
  match disk.depositWritten working file fun disk path => disk.append path [] with
  | (_, .error fault) => .error fault
  | (disk, .ok ()) => .ok disk

/-- The disk on which a program with the given settings can start. -/
def prepare (settings : Settings) (working : Path) (disk : Tree) : Except PathFault Tree := do
  let disk ← makeDataDirectory settings working disk
  match settings.observability.logFile with
  | none => return disk
  | some file => openLog working file disk

/-- What a run leaves behind. -/
structure Run where
  server : Server
  disk : Tree
  /-- The frames sent on each connection. -/
  frames : List (List Octets)
  written : List Record

/-- Serve connections one after the other. -/
def serveAll (peer : Text) : List Traffic → Server → Server × List (List Octets)
  | [], server => (server, [])
  | traffic :: rest, server =>
      let (server, frames) := server.serve peer traffic
      let (server, others) := serveAll peer rest server
      (server, frames :: others)

/-- The server listens on a port. -/
def listen (settings : Settings) (port : Int) (server : Server) : Server :=
  { server with store := server.store.log (.listening settings.server.host port) }

/-- The server stops. -/
def stop (server : Server) : Server := { server with store := server.store.log .stopping }

/-- Start in a working directory, build a server that listens on `port`, serve connections from
`peer` and stop. -/
def run (settings : Settings) (working : Path) (disk : Tree) (port : Int) (peer : Text)
    (connections : List Traffic) : Except StartFailure Run := do
  let disk ← (prepare settings working disk).mapError .path
  let place ← (Tree.atWritten working settings.storage.dataDir disk.resolve).mapError .path
  let server ← build settings (disk.below place)
  let (server, frames) := serveAll peer connections (listen settings port server)
  let server := stop server
  let disk := disk.graft place server.store.storage.tree
  return ⟨server, disk, frames, (logger settings).kept server.store.takeRecords.1⟩

end Program
end FlatStore
