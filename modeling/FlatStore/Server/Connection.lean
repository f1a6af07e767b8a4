import FlatStore.Server.Dispatch
import FlatStore.Text.Reading

/-!
# Connections

A connection sends one command per line.  Each line is dispatched in the connection's own session
and its frame is sent before the next line is read.  A blank line, the end of the input, silence
beyond the limit, a reset or a failed send end the connection.
-/

namespace FlatStore

/-- How the input of a connection ends. -/
inductive Ending
  | endOfInput
  | timeout
  | reset
deriving DecidableEq, Repr

/-- All that happens to a connection from outside. -/
structure Traffic where
  octets : Octets
  ending : Ending
  /-- After how many frames sending fails, if ever. -/
  sendLimit : Option Nat
deriving DecidableEq, Repr

/-- Cut octets at line feeds: the ended lines, and what follows the last line feed. -/
def cutAtLineFeed : Octets → List Octets × Octets
  | [] => ([], [])
  | octet :: rest =>
      match octet == 10, cutAtLineFeed rest with
      | true, (lines, tail) => ([] :: lines, tail)
      | false, ([], tail) => ([], octet :: tail)
      | false, (line :: lines, tail) => ((octet :: line) :: lines, tail)

/-- The lines that are read: an unfinished last one only if the client closes its side. -/
def Traffic.lines (traffic : Traffic) : List Octets :=
  let (lines, tail) := cutAtLineFeed traffic.octets
  if traffic.ending = .endOfInput && !tail.isEmpty then lines ++ [tail] else lines

/-- The command that a line holds. -/
def commandOf (line : Octets) : Text := Text.trimLineEnd (Utf8.decodeReplacing line)

/-- A conversation so far. -/
structure Conversation where
  store : Store
  session : Session
  frames : List Octets

/-- Why no more lines are answered. -/
inductive Halt
  | noMoreLines
  | blankLine
  | sendFailed
deriving DecidableEq, Repr

namespace Conversation

/-- Answer lines one after the other, as long as frames can be sent. -/
def answer (strict : Bool) (origin : Origin) :
    (room : Option Nat) → List Octets → Conversation → Conversation × Halt
  | _, [], conversation => (conversation, .noMoreLines)
  | room, line :: rest, conversation =>
      let command := commandOf line
      if Text.isBlankText command then (conversation, .blankLine)
      else
        let reply := conversation.store.dispatch strict conversation.session origin command
        let frames := conversation.frames
        match room with
        | some 0 => (⟨reply.store, reply.session, frames⟩, .sendFailed)
        | room => answer strict origin (room.map (· - 1)) rest
            ⟨reply.store, reply.session, frames ++ [reply.response.frame]⟩

end Conversation

/-- What is logged about the way a connection ends, if anything. -/
def endingEvent (limit : Option Binary64) : Halt → Ending → Option Event
  | .noMoreLines, .timeout => some (.timedOut limit)
  | .noMoreLines, .reset => some (.broken "[Errno 104] Connection reset by peer".toList)
  | .sendFailed, _ => some (.broken "[Errno 32] Broken pipe".toList)
  | .noMoreLines, .endOfInput | .blankLine, _ => none

/-- A server in front of a store. -/
structure Server where
  store : Store
  /-- Whether unknown columns are errors. -/
  strict : Bool
  /-- Seconds that a connection may be silent, if there is a limit. -/
  idleTimeout : Option Binary64
  /-- The number of the next session. -/
  nextSession : Nat

namespace Server

/-- A server that had no connection yet. -/
def ofStore (store : Store) (strict : Bool) (idleTimeout : Option Binary64) : Server :=
  ⟨store, strict, idleTimeout, 1⟩

/-- Count the begin of a connection. -/
def countOpened (metrics : Metrics) : Metrics :=
  { metrics with
    connectionsTotal := metrics.connectionsTotal + 1
    connectionsActive := metrics.connectionsActive + 1 }

/-- Count the end of a connection. -/
def countClosed (metrics : Metrics) : Metrics :=
  { metrics with connectionsActive := metrics.connectionsActive - 1 }

/-- The begin of a connection: it is counted and logged, and has a session of its own. -/
def openConnection (server : Server) (origin : Origin) : Conversation :=
  ⟨(server.store.count countOpened).note ⟨.opened, origin⟩, Session.fresh origin.session, []⟩

/-- The end of a connection, with what is logged about the way it ends. -/
def closeConnection (server : Server) (origin : Origin) (conversation : Conversation)
    (event : Option Event) : Server :=
  let store := match event with
    | some event => conversation.store.note ⟨event, origin⟩
    | none => conversation.store
  let store := (store.count countClosed).note ⟨.closed conversation.session.database, origin⟩
  { server with store, nextSession := server.nextSession + 1 }

/-- Serve a connection to its end, and give the frames that were sent. -/
def serve (server : Server) (peer : Text) (traffic : Traffic) : Server × List Octets :=
  let origin : Origin := ⟨server.nextSession, peer⟩
  let (conversation, halt) :=
    (server.openConnection origin).answer server.strict origin traffic.sendLimit traffic.lines
  let event := endingEvent server.idleTimeout halt traffic.ending
  (server.closeConnection origin conversation event, conversation.frames)

end Server
end FlatStore
