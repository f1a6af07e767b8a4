import FlatStore.Proofs.Attendance
import FlatStore.Proofs.Trim
import Mathlib.Data.List.TakeWhile

/-!
# Connections

What a connection executes is told by its input alone: the pieces between line feeds before the
first blank one, as far as responses can be sent.  The command whose response can not be sent any
more is still executed, and it is the last one.
-/

namespace FlatStore

open Text

/-! ## What the input asks for -/

/-- The first members of a list, if their number is limited. -/
def atMost {α : Type} : Option Nat → List α → List α
  | none, list => list
  | some limit, list => list.take limit

@[simp]
theorem atMost_nil {α : Type} (limit : Option Nat) : atMost limit ([] : List α) = [] := by
  cases limit <;> simp [atMost]

theorem atMost_of_le {α : Type} {limit : Option Nat} {list : List α}
    (enough : ∀ number, limit = some number → list.length ≤ number) : atMost limit list = list := by
  cases limit with
  | none => rfl
  | some number => exact List.take_of_length_le (enough number rfl)

namespace Traffic

variable (traffic : Traffic)

/-- The input cut at line feeds; what is left behind the last one counts only if the client closes
its side. -/
def pieces : List Octets :=
  let pieces := cutAt 10 traffic.octets
  if traffic.ending = .endOfInput then pieces else pieces.dropLast

/-- The pieces before the first one that is blank. -/
def requests : List Octets :=
  traffic.pieces.takeWhile fun piece => trim (Utf8.decodeReplacing piece) ≠ []

/-- The commands that are executed: the response to the last one need not be sent. -/
def commands : List Text := (atMost (traffic.sendLimit.map (· + 1)) traffic.requests).map commandOf

end Traffic

/-! ## The lines that are read -/

theorem cutAt_eq_cutAtLineFeed (octets : Octets) :
    cutAt 10 octets = (cutAtLineFeed octets).1 ++ [(cutAtLineFeed octets).2] := by
  induction octets with
  | nil => rfl
  | cons octet rest ih =>
      rw [cutAt, cutAtLineFeed, ih]
      rcases cutAtLineFeed rest with ⟨lines, tail⟩
      by_cases feed : octet = 10
      · simp [feed]
      · have no_feed : (octet == 10) = false := by simpa using feed
        rw [if_neg feed, no_feed]
        cases lines <;> rfl

theorem isBlank_of_isLineEnd {c : Char} (ends : isLineEnd c = true) : isBlank c = true := by
  rw [isLineEnd, Bool.or_eq_true, decide_eq_true_eq, decide_eq_true_eq] at ends
  rcases ends with rfl | rfl <;> rfl

/-- Line ends do not matter for whether a text is blank. -/
theorem isBlankText_trimLineEnd (text : Text) :
    isBlankText (trimLineEnd text) = isBlankText text := by
  have ends_blank : (text.reverse.takeWhile isLineEnd).all isBlank = true :=
    List.all_eq_true.2 fun c member => isBlank_of_isLineEnd (List.mem_takeWhile_imp member)
  rw [isBlankText, isBlankText, trimLineEnd, trimEnd, List.all_reverse,
    ← List.all_reverse (l := text),
    ← List.takeWhile_append_dropWhile (p := isLineEnd) (l := text.reverse), List.all_append,
    ends_blank, List.takeWhile_append_dropWhile, Bool.true_and]

/-- A last member outside the class is not taken. -/
theorem takeWhile_concat_of_not {α : Type} {p : α → Bool} {last : α} (outside : p last = false)
    (list : List α) : (list ++ [last]).takeWhile p = list.takeWhile p := by
  rw [List.takeWhile_append]
  split
  · rename_i whole
    rw [List.takeWhile_cons_of_neg (by simp [outside]), List.append_nil]
    exact ((List.takeWhile_prefix p).eq_of_length whole).symm
  · rfl

/-- The lines that are read before the first blank one are the requests. -/
theorem Traffic.requests_eq (traffic : Traffic) :
    traffic.requests = traffic.lines.takeWhile fun line => !isBlankText (commandOf line) := by
  have same (piece : Octets) : decide (trim (Utf8.decodeReplacing piece) ≠ []) =
      !isBlankText (commandOf piece) := by
    rw [commandOf, isBlankText_trimLineEnd]
    simp [trim_eq_nil_iff]
  rw [requests, pieces, lines, cutAt_eq_cutAtLineFeed, List.dropLast_concat]
  simp only [same]
  rcases cutAtLineFeed traffic.octets with ⟨ended, tail⟩
  by_cases closes : traffic.ending = .endOfInput
  · cases tail with
    | nil =>
        -- There is nothing behind a last line feed, and nothing is blank.
        simpa [closes] using takeWhile_concat_of_not (by rfl) ended
    | cons octet rest => simp [closes]
  · simp [closes]

/-! ## The loop -/

namespace Conversation

/-- Dispatch commands one after the other and keep the frame of every response. -/
def dispatchAll (strict : Bool) (origin : Origin) (conversation : Conversation) :
    List Text → Conversation
  | [] => conversation
  | command :: rest =>
      let reply := conversation.store.dispatch strict conversation.session origin command
      dispatchAll strict origin
        ⟨reply.store, reply.session, conversation.frames ++ [reply.response.frame]⟩ rest

variable (strict : Bool) (origin : Origin)

/-- Every command has one frame. -/
theorem length_frames_dispatchAll (conversation : Conversation) (commands : List Text) :
    (conversation.dispatchAll strict origin commands).frames.length =
      conversation.frames.length + commands.length := by
  induction commands generalizing conversation with
  | nil => rfl
  | cons command rest ih =>
      rw [dispatchAll, ih, List.length_append, List.length_singleton, List.length_cons]
      omega

/-- Every command is entered when it is dispatched, and nothing else is. -/
theorem attendance_dispatchAll (conversation : Conversation) (commands : List Text) :
    (conversation.dispatchAll strict origin commands).store.attendance =
      { conversation.store.attendance with
        received := conversation.store.attendance.received ++ commands } := by
  induction commands generalizing conversation with
  | nil => simp [dispatchAll]
  | cons command rest ih =>
      rw [dispatchAll, ih, Store.attendance_dispatch, List.append_assoc, List.singleton_append]

/-- There is room for the frames that were sent before. -/
theorem atMost_frames (room : Option Nat) (conversation : Conversation) :
    { conversation with
      frames := atMost (room.map (conversation.frames.length + ·)) conversation.frames } =
      conversation := by
  rw [atMost_of_le]
  intro number same
  obtain ⟨left, -, rfl⟩ := Option.map_eq_some_iff.1 same
  exact Nat.le_add_right ..

/-- Answering lines executes those before the first blank one, up to the first whose frame can not
be sent, and all frames but this one are sent. -/
theorem answer_eq (room : Option Nat) (lines : List Octets) (conversation : Conversation) :
    let requests := lines.takeWhile fun line => !isBlankText (commandOf line)
    let dispatched := conversation.dispatchAll strict origin
      ((atMost (room.map (· + 1)) requests).map commandOf)
    (conversation.answer strict origin room lines).1 =
      { dispatched with
        frames := atMost (room.map (conversation.frames.length + ·)) dispatched.frames } := by
  dsimp only
  induction lines generalizing room conversation with
  | nil =>
      rw [answer, List.takeWhile_nil, atMost_nil, List.map_nil, dispatchAll, atMost_frames]
  | cons line rest ih =>
      rw [answer]
      by_cases blank : isBlankText (commandOf line) = true
      · rw [if_pos blank, List.takeWhile_cons_of_neg (by simp [blank]), atMost_nil, List.map_nil,
          dispatchAll, atMost_frames]
      · rw [if_neg blank, List.takeWhile_cons_of_pos (by simp [blank])]
        rcases room with _ | _ | left
        · exact ih none _
        · simp [atMost, dispatchAll]
        · let reply :=
            conversation.store.dispatch strict conversation.session (some origin) (commandOf line)
          have later := ih (some left)
            ⟨reply.store, reply.session, conversation.frames ++ [reply.response.frame]⟩
          -- One frame more is sent, and there is room for one less.
          have room_eq : (conversation.frames ++ [reply.response.frame]).length + left =
              conversation.frames.length + (left + 1) := by
            rw [List.length_append, List.length_singleton]
            omega
          dsimp only [Option.map_some] at later
          rw [room_eq] at later
          exact later

end Conversation

/-! ## Whole connections -/

/-- How a server has served a connection: what it has left behind and the frames that it has sent
are those of the commands that were dispatched. -/
structure Server.Served (server : Server) (traffic : Traffic) (dispatched : Conversation)
    (after : Server) (frames : List Octets) : Prop where
  /-- The frames of all commands that were executed, but not more than can be sent. -/
  frames : frames = atMost traffic.sendLimit dispatched.frames
  /-- The commands that were executed have one frame each. -/
  one_each : dispatched.frames.length = traffic.commands.length
  /-- Files, catalog and locks are as the last command left them. -/
  store : after.store = { dispatched.store with telemetry := after.store.telemetry }
  spans : after.store.telemetry.spans = dispatched.store.telemetry.spans
  /-- All counters but that of the connection are as the last command left them. -/
  metrics : after.store.telemetry.metrics =
    Server.countClosed dispatched.store.telemetry.metrics
  /-- The commands were received, and no others. -/
  received : after.store.attendance.received =
    server.store.attendance.received ++ traffic.commands
  active : after.store.attendance.active = server.store.attendance.active
  total : after.store.attendance.total = server.store.attendance.total + 1
  /-- No other connection has the same session. -/
  nextSession : after.nextSession = server.nextSession + 1

namespace Server

/-- Opening a connection enters it. -/
theorem attendance_openConnection (server : Server) (origin : Origin) :
    (server.openConnection origin).store.attendance =
      { server.store.attendance with
        active := server.store.attendance.active + 1
        total := server.store.attendance.total + 1 } :=
  Store.attendance_note_of_none _ rfl

theorem command?_endingEvent {limit : Option Binary64} {halt : Halt} {ending : Ending}
    {event : Event} (logged : endingEvent limit halt ending = some event) :
    event.command? = none := by
  cases halt <;> cases ending <;> cases logged <;> rfl

/-- Closing a connection enters that it is gone. -/
theorem attendance_closeConnection (server : Server) (origin : Origin) (conversation : Conversation)
    (limit : Option Binary64) (halt : Halt) (ending : Ending) :
    (server.closeConnection origin conversation (endingEvent limit halt ending)).store.attendance =
      { conversation.store.attendance with
        active := conversation.store.attendance.active - 1 } := by
  cases logged : endingEvent limit halt ending with
  | none => exact Store.attendance_note_of_none _ rfl
  | some event =>
      have ended : (conversation.store.note ⟨event, origin⟩).attendance =
          conversation.store.attendance :=
        Store.attendance_note_of_none _ (command?_endingEvent logged)
      rw [← ended]
      exact Store.attendance_note_of_none _ rfl

/-- The commands of a connection, dispatched one after the other in a fresh session. -/
def dispatched (server : Server) (peer : Text) (traffic : Traffic) : Conversation :=
  let origin : Origin := ⟨server.nextSession, peer⟩
  let opened := (server.store.count countOpened).note ⟨.opened, origin⟩
  Conversation.dispatchAll server.strict origin ⟨opened, ⟨server.nextSession, none⟩, []⟩
    traffic.commands

/-- A connection is closed when its commands are dispatched and their frames sent. -/
theorem serve_eq (server : Server) (peer : Text) (traffic : Traffic) :
    let dispatched := server.dispatched peer traffic
    let frames := atMost traffic.sendLimit dispatched.frames
    ∃ halt, server.serve peer traffic =
      (server.closeConnection ⟨server.nextSession, peer⟩ { dispatched with frames }
        (endingEvent server.idleTimeout halt traffic.ending), frames) := by
  intro dispatched frames
  let origin : Origin := ⟨server.nextSession, peer⟩
  have commands_eq : (atMost (traffic.sendLimit.map (· + 1)) traffic.requests).map commandOf =
      traffic.commands := rfl
  have answered := Conversation.answer_eq server.strict origin traffic.sendLimit traffic.lines
    (server.openConnection origin)
  have no_frames : (server.openConnection origin).frames.length = 0 := rfl
  simp only [← traffic.requests_eq, commands_eq, no_frames, Nat.zero_add, Option.map_id']
    at answered
  rcases loop : (server.openConnection origin).answer server.strict origin traffic.sendLimit
    traffic.lines with ⟨conversation, halt⟩
  rw [loop] at answered
  obtain rfl : conversation = { dispatched with frames } := answered
  refine ⟨halt, ?_⟩
  rw [serve, loop]

/-- Whatever comes in, however the input ends and however many frames can be sent: the commands of a
connection are dispatched one after the other in a fresh session, the frames of their responses are
sent as far as possible, and nothing else is done but to count and log the connection. -/
theorem serve_commands (server : Server) (peer : Text) (traffic : Traffic) :
    server.Served traffic (server.dispatched peer traffic) (server.serve peer traffic).1
      (server.serve peer traffic).2 := by
  let origin : Origin := ⟨server.nextSession, peer⟩
  obtain ⟨halt, served⟩ := server.serve_eq peer traffic
  have one_each : (server.dispatched peer traffic).frames.length = 0 + traffic.commands.length :=
    Conversation.length_frames_dispatchAll _ _ (server.openConnection origin) traffic.commands
  have entered : (server.dispatched peer traffic).store.attendance = _ :=
    Conversation.attendance_dispatchAll _ _ (server.openConnection origin) traffic.commands
  rw [attendance_openConnection] at entered
  have closed := server.attendance_closeConnection origin
    { server.dispatched peer traffic with
      frames := atMost traffic.sendLimit (server.dispatched peer traffic).frames }
    server.idleTimeout halt traffic.ending
  rw [entered] at closed
  rw [served]
  exact
    { frames := rfl
      one_each := one_each.trans (Nat.zero_add _)
      store := by cases endingEvent server.idleTimeout halt traffic.ending <;> rfl
      spans := by cases endingEvent server.idleTimeout halt traffic.ending <;> rfl
      metrics := by cases endingEvent server.idleTimeout halt traffic.ending <;> rfl
      received := by rw [closed]
      active := by rw [closed]; exact Nat.add_sub_cancel ..
      total := by rw [closed]
      nextSession := rfl }

end Server
end FlatStore
