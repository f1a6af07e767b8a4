import FlatStore.Proofs.Reachable
import FlatStore.Proofs.Responses

/-!
# Frames

A client reads a response line by line up to the sentinel.  It gets the response as it was sent,
and leaves unread what follows the frame, exactly if no line of the response is the sentinel itself.
Only a row can be such a line: one whose single value is the sentinel.
-/

namespace FlatStore

open Text

/-! ## Octets of lines -/

namespace Utf8

theorem text?_encode (text : Text) : text? (encode text) = some text := by
  rw [text?, decode_encode]

/-- The octet of the line feed stands for the line feed only. -/
theorem lineFeed_not_mem_encode {text : Text} (flat : text.OneLine) :
    (10 : UInt8) ∉ encode text := by
  intro member
  obtain ⟨c, here, inside⟩ := List.mem_flatMap.1 member
  have alone := (sequence_encodeChar c).eq_singleton inside (by decide)
  have last : (encodeChar c).getLast? = some (UInt8.ofNat '\n'.toNat) := by
    rw [alone]
    rfl
  rw [(getLast?_encodeChar_iff (by decide)).1 last] at here
  exact flat here

end Utf8

/-! ## The client -/

namespace Response

/-- The lines that a client reads before the first that is the sentinel, with what it leaves unread;
`line` is what it has read of a line already. -/
def receiveLines (line : Octets) : Octets → Option (List Text × Octets)
  | [] => if Utf8.text? line = some sentinel then some ([], []) else none
  | octet :: rest =>
      if octet = 10 then
        match Utf8.text? line with
        | none => none
        | some text =>
            if text = sentinel then some ([], rest)
            else (receiveLines [] rest).map fun (lines, left) => (text :: lines, left)
      else receiveLines (line ++ [octet]) rest

/-- What a client takes for a response, with what it leaves unread. -/
def receive (octets : Octets) : Option (Text × Octets) :=
  (receiveLines [] octets).map fun (lines, left) => (Text.join ['\n'] lines, left)

/-- What a client takes for the responses to some commands. -/
def receiveMany : (count : Nat) → Octets → Option (List Text × Octets)
  | 0, octets => some ([], octets)
  | count + 1, octets => do
      let (text, left) ← receive octets
      let (texts, left) ← receiveMany count left
      return (text :: texts, left)

/-- Octets without a line feed belong to the line. -/
theorem receiveLines_append {line front rest : Octets} (inner : (10 : UInt8) ∉ front) :
    receiveLines line (front ++ rest) = receiveLines (line ++ front) rest := by
  induction front generalizing line with
  | nil => rw [List.nil_append, List.append_nil]
  | cons octet front ih =>
      rw [List.mem_cons, not_or] at inner
      rw [List.cons_append, receiveLines, if_neg (Ne.symm inner.1), ih inner.2, List.append_assoc,
        List.singleton_append]

/-- Reading one line. -/
theorem receiveLines_line {text : Text} (flat : text.OneLine) (rest : Octets) :
    receiveLines [] (Utf8.encode (text ++ ['\n']) ++ rest) =
      if text = sentinel then some ([], rest)
      else (receiveLines [] rest).map fun (lines, left) => (text :: lines, left) := by
  have feed : Utf8.encode ['\n'] = [10] := by decide
  rw [Utf8.encode_append, feed, List.append_assoc,
    receiveLines_append (Utf8.lineFeed_not_mem_encode flat), List.nil_append, List.singleton_append,
    receiveLines, if_pos rfl, Utf8.text?_encode]

/-- The octets of lines with their ends. -/
def octetsOf (lines : List Text) : Octets := lines.flatMap fun line => Utf8.encode (line ++ ['\n'])

/-- Reading stops behind the first sentinel. -/
theorem receiveLines_octetsOf {lines : List Text} (flat : ∀ line ∈ lines, line.OneLine)
    (apart : sentinel ∉ lines) (rest : Octets) :
    receiveLines [] (octetsOf (lines ++ [sentinel]) ++ rest) = some (lines, rest) := by
  induction lines with
  | nil =>
      rw [List.nil_append, octetsOf, List.flatMap_singleton, receiveLines_line (by decide),
        if_pos rfl]
  | cons line lines ih =>
      rw [List.mem_cons, not_or] at apart
      rw [List.cons_append, octetsOf, List.flatMap_cons, ← octetsOf, List.append_assoc,
        receiveLines_line (flat line List.mem_cons_self), if_neg (Ne.symm apart.1),
        ih (fun other member => flat other (List.mem_cons_of_mem _ member)) apart.2]
      rfl

/-! ## One frame -/

/-- The lines of a text. -/
def linesOf (text : Text) : List Text := cutAt '\n' text

theorem oneLine_of_mem_linesOf {text line : Text} (member : line ∈ linesOf text) : line.OneLine :=
  separator_not_mem_cutAt member

theorem octetsOf_append (left right : List Text) :
    octetsOf (left ++ right) = octetsOf left ++ octetsOf right :=
  List.flatMap_append

theorem octetsOf_of_join {lines : List Text} (some_line : lines ≠ []) :
    Utf8.encode (join ['\n'] lines ++ ['\n']) = octetsOf lines := by
  induction lines with
  | nil => exact absurd rfl some_line
  | cons line rest ih =>
      cases rest with
      | nil => simp [octetsOf]
      | cons next rest =>
          rw [join_cons_cons, List.append_assoc, Utf8.encode_append, ih (by simp)]
          rfl

/-- A frame holds the lines of its text and the sentinel. -/
theorem frameOf_eq (text : Text) : frameOf text = octetsOf (linesOf text ++ [sentinel]) := by
  have lines := octetsOf_of_join (cutAt_ne_nil '\n' text)
  rw [join_cutAt] at lines
  rw [octetsOf_append, linesOf, ← lines]
  simp [frameOf, octetsOf]

/-- Without a sentinel among its lines a text is received as it is. -/
theorem receive_frameOf {text : Text} (apart : sentinel ∉ linesOf text) (more : Octets) :
    receive (frameOf text ++ more) = some (text, more) := by
  rw [receive, frameOf_eq,
    receiveLines_octetsOf (fun line member => oneLine_of_mem_linesOf member) apart]
  simp [linesOf, join_cutAt]

/-- A text with a sentinel among its lines is cut off before it. -/
theorem receive_frameOf_of_mem {text : Text} (within : sentinel ∈ linesOf text) (more : Octets) :
    ∃ received left, receive (frameOf text ++ more) = some (received, left) ∧ received ≠ text := by
  obtain ⟨before, behind, lines, apart⟩ := List.eq_append_cons_of_mem within
  have flat : ∀ line ∈ before, line.OneLine := fun line member =>
    oneLine_of_mem_linesOf (by rw [lines]; exact List.mem_append_left _ member)
  have octets : frameOf text ++ more =
      octetsOf (before ++ [sentinel]) ++ (octetsOf (behind ++ [sentinel]) ++ more) := by
    rw [frameOf_eq, lines, ← List.append_assoc, ← octetsOf_append]
    simp
  refine ⟨join ['\n'] before, octetsOf (behind ++ [sentinel]) ++ more, ?_, ?_⟩
  · rw [receive, octets, receiveLines_octetsOf flat apart]
    rfl
  · -- The lines that were read are a proper initial part of the lines of the text.
    rintro rfl
    rcases before with _ | ⟨first, rest⟩
    · rw [join_nil, linesOf, cutAt_nil, List.nil_append] at lines
      exact absurd (List.head_eq_of_cons_eq lines) (by decide)
    · rw [linesOf, cutAt_join (by simp) flat] at lines
      have lengths := congrArg List.length lines
      simp at lengths

/-! ## Responses -/

/-- No row of a response is the sentinel alone. -/
def IsClear : Response → Prop
  | .table rows => [sentinel] ∉ rows
  | .done _ | .failed _ => True

instance : (response : Response) → Decidable response.IsClear
  | .table rows => inferInstanceAs (Decidable ([sentinel] ∉ rows))
  | .done _ => inferInstanceAs (Decidable True)
  | .failed _ => inferInstanceAs (Decidable True)

/-- The lines of rows of cells are the rows below the mark. -/
theorem linesOf_text_table {rows : List (List Text)}
    (cells : ∀ row ∈ rows, ∀ value ∈ row, IsCell value) :
    linesOf (text (.table rows)) = okMark :: rows.map (join ['\t']) := by
  refine cutAt_join (by simp) fun line member => ?_
  rcases List.mem_cons.1 member with rfl | member
  · decide
  · obtain ⟨row, row_member, rfl⟩ := List.mem_map.1 member
    exact (isLine_iff.1 (isLine_join (cells row row_member))).1

/-- Words of one line make a response of one line. -/
theorem linesOf_words {mark words : Text} (flat : words.OneLine)
    (marked : mark = okMark ∨ mark = errorMark) :
    linesOf (mark ++ ' ' :: words) = [mark ++ ' ' :: words] := by
  have one : mark.OneLine := by
    rcases marked with rfl | rfl <;> decide
  exact cutAt_of_not_mem (oneLine_append.2 ⟨one, oneLine_cons.2 ⟨by decide, flat⟩⟩)

/-- Words behind a mark are no sentinel. -/
theorem not_mem_linesOf_words {mark words : Text} (flat : words.OneLine)
    (marked : mark = okMark ∨ mark = errorMark) : sentinel ∉ linesOf (mark ++ ' ' :: words) := by
  have first : mark.head? = some '[' := by
    rcases marked with rfl | rfl <;> decide
  rw [linesOf_words flat marked, List.mem_singleton]
  intro same
  have heads := congrArg List.head? same
  rw [List.head?_append, first, Option.some_or] at heads
  exact absurd heads (by decide)

/-- Cells in a row are the sentinel exactly if it is the only one. -/
theorem join_eq_sentinel_iff {row : List Text} (cells : ∀ value ∈ row, IsCell value) :
    join ['\t'] row = sentinel ↔ row = [sentinel] := by
  constructor
  · intro same
    rcases row with _ | ⟨first, rest⟩
    · cases same
    · -- The sentinel holds no tab, so it is cut into one part.
      have parts : cutAt '\t' (join ['\t'] (first :: rest)) = first :: rest :=
        cutAt_join (by simp) fun value member => (cells value member).1
      rw [same, cutAt_of_not_mem (by decide)] at parts
      exact parts.symm
  · rintro rfl
    rfl

/-- The lines of a tidy response hold no sentinel exactly if it is clear. -/
theorem not_mem_linesOf_iff {response : Response} (tidy : response.IsTidy) :
    sentinel ∉ linesOf response.text ↔ response.IsClear := by
  cases response with
  | done message =>
      exact iff_of_true (not_mem_linesOf_words tidy (.inl rfl)) trivial
  | failed reason =>
      exact iff_of_true (not_mem_linesOf_words tidy (.inr rfl)) trivial
  | table rows =>
      rw [linesOf_text_table tidy, IsClear, List.mem_cons, List.mem_map]
      refine not_congr ⟨?_, fun member => .inr ⟨[sentinel], member, rfl⟩⟩
      rintro (same | ⟨row, member, same⟩)
      · exact absurd same (by decide)
      · rwa [(join_eq_sentinel_iff (tidy row member)).1 same] at member

/-- The texts of tidy responses are received as they were sent, and nothing behind their frames is
read, exactly if all of them are clear. -/
theorem receiveMany_frames {responses : List Response}
    (tidy : ∀ response ∈ responses, response.IsTidy) (more : Octets) :
    receiveMany responses.length (responses.flatMap frame ++ more) =
        some (responses.map text, more) ↔
      ∀ response ∈ responses, response.IsClear := by
  induction responses with
  | nil => simp [receiveMany]
  | cons response rest ih =>
      have rest_tidy := fun other member => tidy other (List.mem_cons_of_mem _ member)
      rw [List.length_cons, List.flatMap_cons, List.append_assoc, receiveMany, List.forall_mem_cons,
        ← ih rest_tidy, ← not_mem_linesOf_iff (tidy response List.mem_cons_self), frame]
      by_cases apart : sentinel ∉ linesOf response.text
      · rw [receive_frameOf apart]
        simp [apart, Option.bind_eq_some_iff]
      · -- One response that is cut off is enough: the first text received differs already.
        obtain ⟨received, left, got, differs⟩ := receive_frameOf_of_mem (not_not.1 apart)
          (rest.flatMap frame ++ more)
        rw [got]
        simp [apart, Option.bind_eq_some_iff, differs]

end Response

/-! ## Sequences of commands -/

/-- A line that a session sends. -/
structure Request where
  number : Nat
  origin : Option Origin
  line : Text

namespace Service

variable {Outside : Storage → Storage → Prop} {start service : Service}

/-- What lines of some sessions are answered, each with the session that it goes to. -/
def answers (service : Service) (strict : Bool) : List Request → List (Nat × Response)
  | [] => []
  | request :: rest =>
      let (service, response) := service.dispatch strict request.number request.origin request.line
      (request.number, response) :: service.answers strict rest

/-- The responses that go to a session. -/
def responsesTo (number : Nat) (answers : List (Nat × Response)) : List Response :=
  (answers.filter (·.1 = number)).map Prod.snd

/-- Dispatching a line leads on. -/
theorem Leads.dispatch (leads : Leads Outside start service) (strict : Bool) (number : Nat)
    (origin : Option Origin) (line : Text) :
    Leads Outside start (service.dispatch strict number origin line).1 := by
  obtain ⟨telemetry, dispatched⟩ :=
    service.store.dispatch_eq strict (service.session number) origin line
  rw [Service.dispatch, dispatched]
  exact ((leads.telemetry _).command strict number line).telemetry telemetry

/-- What a session has selected is called by a single line. -/
theorem Leads.oneLine_selected {store : Store} (leads : Leads Outside (ofStore store) service)
    {number : Nat} {database : Text} (selected : service.selected number = some database) :
    database.OneLine := by
  induction leads generalizing number database with
  | refl => cases selected
  | @command service _ strict sender line ih =>
      rw [selected_execute] at selected
      by_cases same : number = sender
      · subst same
        rw [Function.update_self] at selected
        have selects := Store.execute_selects service.store strict (service.session number) line
        rcases selects.database_eq with kept | ⟨name, read, used⟩
        · exact ih (kept ▸ selected)
        · cases used.symm.trans selected
          exact oneLine_of_isWord (Plan.fits_of_read read)
      · rw [Function.update_of_ne same] at selected
        exact ih selected
  | outside _ _ ih => exact ih selected
  | telemetry _ _ ih => exact ih selected

/-- A line without line feeds is answered tidily. -/
theorem Leads.isTidy {store : Store} (leads : Leads Outside (ofStore store) service) (strict : Bool)
    (number : Nat) (origin : Option Origin) {line : Text} (flat : line.OneLine) :
    (service.dispatch strict number origin line).2.IsTidy := by
  obtain ⟨telemetry, dispatched⟩ :=
    service.store.dispatch_eq strict (service.session number) origin line
  rw [Service.dispatch, dispatched]
  exact Store.isTidy_execute flat fun database selected => leads.oneLine_selected selected

theorem Leads.isTidy_answers {store : Store} (leads : Leads Outside (ofStore store) service)
    (strict : Bool) {requests : List Request} (flat : ∀ request ∈ requests, request.line.OneLine) :
    ∀ answer ∈ service.answers strict requests, answer.2.IsTidy := by
  induction requests generalizing service with
  | nil => exact nofun
  | cons request rest ih =>
      intro answer member
      rcases List.mem_cons.1 member with rfl | member
      · exact leads.isTidy strict _ _ (flat request List.mem_cons_self)
      · exact ih (leads.dispatch strict _ _ _)
          (fun other later => flat other (List.mem_cons_of_mem _ later)) answer member

/-- Whatever lines without line feeds some sessions send, the client of each of them receives one
response for each of its lines, as it was sent and in order, and reads nothing behind them, exactly
if no row of these responses is the sentinel alone. -/
theorem receiveMany_answers {store : Store} {requests : List Request} (strict : Bool)
    (leads : Leads (fun _ _ => True) (ofStore store) service)
    (flat : ∀ request ∈ requests, '\n' ∉ request.line) (number : Nat) (more : Octets) :
    let responses := responsesTo number (service.answers strict requests)
    Response.receiveMany responses.length (responses.flatMap Response.frame ++ more) =
        some (responses.map Response.text, more) ↔
      ∀ response ∈ responses, response.IsClear := by
  refine Response.receiveMany_frames (fun response member => ?_) more
  obtain ⟨answer, kept, rfl⟩ := List.mem_map.1 member
  exact leads.isTidy_answers strict flat answer (List.mem_filter.1 kept).1

/-- Two sessions; the first one stores the sentinel as a value and then sends a last line. -/
def sentinelRequests (last : Text) : List Request :=
  [⟨1, none, "CREATE DATABASE shop".toList⟩, ⟨1, none, "USE shop".toList⟩,
    ⟨1, none, "CREATE TABLE stock (a)".toList⟩, ⟨2, none, "USE bakery".toList⟩,
    ⟨1, none, "INSERT INTO stock VALUES (EOT)".toList⟩, ⟨1, none, last⟩]

/-- What the first of the sessions gets. -/
def sentinelResponses (last : Text) : List Response :=
  responsesTo 1 ((ofStore Store.emptyStore).answers false (sentinelRequests last))

/-- The responses before the last one. -/
def sentinelAcknowledgements : List Response :=
  [.done "Database shop created".toList, .done "Using shop".toList,
    .done "Table stock created".toList, .done "Data inserted into table stock".toList]

/-- Next to its identity the value is told apart from the end of the frame. -/
theorem receiveMany_answers_whole :
    sentinelResponses "SELECT * FROM stock".toList =
        sentinelAcknowledgements ++ [.table [["1".toList, "EOT".toList]]] ∧
      Response.receiveMany (sentinelResponses "SELECT * FROM stock".toList).length
          ((sentinelResponses "SELECT * FROM stock".toList).flatMap Response.frame) =
        some ((sentinelResponses "SELECT * FROM stock".toList).map Response.text, []) := by
  have flat : ∀ request ∈ sentinelRequests "SELECT * FROM stock".toList, '\n' ∉ request.line := by
    decide
  have given : sentinelResponses "SELECT * FROM stock".toList =
      sentinelAcknowledgements ++ [.table [["1".toList, "EOT".toList]]] := by
    decide +kernel
  have clear : ∀ response ∈ sentinelResponses "SELECT * FROM stock".toList, response.IsClear := by
    rw [given]
    decide
  have leads : Leads (fun _ _ => True) (ofStore Store.emptyStore) (ofStore Store.emptyStore) :=
    .refl
  have received := receiveMany_answers false leads flat 1 []
  rw [← sentinelResponses] at received
  dsimp only at received
  rw [List.append_nil] at received
  exact ⟨given, received.2 clear⟩

/-- Alone in its row the value is taken for the end of the frame: the client misses the row, and the
true end is left over as a response to the next command. -/
theorem not_receiveMany_answers_single :
    (Store.ofStorage ⟨"/data".toList, Tree.bare, Troubles.none, Index.empty⟩).load =
        .ok Store.emptyStore ∧
      sentinelResponses "SELECT a FROM stock".toList =
        sentinelAcknowledgements ++ [.table [["EOT".toList]]] ∧
      Response.receiveMany (sentinelResponses "SELECT a FROM stock".toList).length
          ((sentinelResponses "SELECT a FROM stock".toList).flatMap Response.frame) =
        some (sentinelAcknowledgements.map Response.text ++ ["[OK]".toList],
          Utf8.encode "EOT\n".toList) ∧
      Response.receiveMany (sentinelResponses "SELECT a FROM stock".toList).length
          ((sentinelResponses "SELECT a FROM stock".toList).flatMap Response.frame) ≠
        some ((sentinelResponses "SELECT a FROM stock".toList).map Response.text, []) := by
  have given : sentinelResponses "SELECT a FROM stock".toList =
      sentinelAcknowledgements ++ [.table [["EOT".toList]]] := by
    decide +kernel
  rw [given]
  exact ⟨Store.load_emptyStore, rfl, by decide +kernel, by decide +kernel⟩

end Service
end FlatStore
