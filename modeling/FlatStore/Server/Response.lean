import FlatStore.Session.Basic
import FlatStore.Text.Utf8

/-!
# Responses

Every command is answered by one response: an acknowledgement, the rows that were read, or a
reason for failure.  On the wire a response is framed by a closing line that holds nothing but the
sentinel.
-/

namespace FlatStore

/-- The answer to a command as the client gets it. -/
inductive Response
  | done (message : Text)
  | table (rows : List (List Text))
  | failed (reason : Text)
deriving DecidableEq, Repr

namespace Response

/-- The mark of a success. -/
def okMark : Text := "[OK]".toList

/-- The mark of a failure. -/
def errorMark : Text := "[ERROR]".toList

/-- The line that closes a frame. -/
def sentinel : Text := "EOT".toList

/-- A response as text: rows stand below the mark, one line each, their values parted by tabs. -/
def text : Response → Text
  | .done message => okMark ++ ' ' :: message
  | .table rows => Text.join ['\n'] (okMark :: rows.map (Text.join ['\t']))
  | .failed reason => errorMark ++ ' ' :: reason

/-- The frame of a text: the text and the sentinel, each with its line end. -/
def frameOf (text : Text) : Octets := Utf8.encode (text ++ '\n' :: sentinel ++ ['\n'])

/-- The frame of a response. -/
def frame (response : Response) : Octets := frameOf response.text

/-- The response to a command that succeeded. -/
def ofAnswer (answer : Answer) : Response :=
  match answer.rows? with
  | some rows => .table rows
  | none => .done answer.message

end Response
end FlatStore
