import FlatStore.Json.Basic
import FlatStore.Telemetry.Metrics

/-!
# Spans

A span is the trace of one command that was understood: what it was, who issued it, and whether it
was left by a failure.
-/

namespace FlatStore

/-- The trace of one command. -/
structure Span where
  verb : Verb
  session : Nat
  /-- The session's database when it was issued; empty if there was none. -/
  database : Text
  failed : Bool
deriving DecidableEq, Repr

namespace Span

/-- The name of a span. -/
def name (span : Span) : Text := "command.".toList ++ span.verb.label

/-- What a span records besides its name. -/
def attributes (span : Span) : Members :=
  [("session.id".toList, .ofNat span.session), ("session.database".toList, .string span.database)]

/-- The name of a span's ending. -/
def status (span : Span) : Text := if span.failed then "ERROR".toList else "UNSET".toList

end Span
end FlatStore
