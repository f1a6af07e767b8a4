import FlatStore.Server.Response
import FlatStore.Session.Execute

/-!
# Dispatching command lines

A dispatched line is logged, executed and answered.  Every failure becomes a response; one that is
no error of the store is logged with its trace and answered in general words.
-/

namespace FlatStore

/-- What a dispatched line leaves behind. -/
structure Reply where
  store : Store
  session : Session
  response : Response

/-- The answer to a command that ended in a way that is no error of the store. -/
def internalError : Text := "Internal error".toList

namespace Store

/-- Execute a line and answer it. -/
def dispatch (store : Store) (strict : Bool) (session : Session) (origin : Option Origin)
    (line : Text) : Reply :=
  let outcome := (store.note ⟨.received line, origin⟩).execute strict session line
  match outcome.result with
  | .ok answer =>
      let message := if answer.message.isEmpty then none else some answer.message
      let event := Event.succeeded (answer.rows?.map List.length) message
      ⟨outcome.store.note ⟨event, origin⟩, outcome.session, .ofAnswer answer⟩
  | .error (.store error) =>
      ⟨outcome.store.note ⟨.failed error, origin⟩, outcome.session, .failed error.reason⟩
  | .error _ =>
      ⟨outcome.store.note ⟨.crashed line, origin⟩, outcome.session, .failed internalError⟩

end Store
end FlatStore
