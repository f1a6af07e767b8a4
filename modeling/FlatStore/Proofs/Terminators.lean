import FlatStore.Proofs.Cutting

/-!
# Semicolons at the end

A statement may be followed by blanks and semicolons.  Reading removes the last run of semicolons
with the blanks around it.  So the end of a statement does not matter as long as it holds one run at
most; of several runs all but the last one become part of what is read.
-/

namespace FlatStore

namespace Text

/-- Whether a character may follow a statement: a blank or a semicolon. -/
def isLoose (c : Char) : Bool := isBlank c || c = ';'

/-- The blanks and semicolons at the end of a text. -/
def ending (text : Text) : Text := text.rtakeWhile isLoose

/-- The number of runs of semicolons in a text. -/
def terminators : Text → Nat
  | [] => 0
  | c :: rest =>
      if c = ';' ∧ rest.head? ≠ some ';' then terminators rest + 1 else terminators rest

theorem isLoose_eq_false_iff {c : Char} : isLoose c = false ↔ isBlank c = false ∧ c ≠ ';' := by
  rw [isLoose, Bool.or_eq_false_iff, decide_eq_false_iff_not]

/-! ## Runs of semicolons -/

theorem terminators_cons_cons (c d : Char) (rest : Text) :
    terminators (c :: d :: rest) =
      if c = ';' ∧ d ≠ ';' then terminators (d :: rest) + 1 else terminators (d :: rest) := by
  rw [terminators, List.head?_cons]
  simp only [ne_eq, Option.some.injEq]

/-- Runs are counted apart if none goes on from the one text to the other. -/
theorem terminators_append {left right : Text}
    (apart : left.getLast? = some ';' → right.head? ≠ some ';') :
    terminators (left ++ right) = terminators left + terminators right := by
  induction left with
  | nil => rw [List.nil_append, terminators, Nat.zero_add]
  | cons c rest ih =>
      cases rest with
      | nil =>
          by_cases here : c = ';'
          · subst here
            simp [terminators, apart rfl, Nat.add_comm]
          · simp [terminators, here]
      | cons d rest =>
          rw [List.getLast?_cons_cons] at apart
          have both := ih apart
          rw [List.cons_append] at both
          rw [List.cons_append, List.cons_append, terminators_cons_cons, terminators_cons_cons,
            both]
          split
          · exact Nat.add_right_comm ..
          · rfl

theorem terminators_of_not_mem {text : Text} (absent : ';' ∉ text) : terminators text = 0 := by
  induction text with
  | nil => rfl
  | cons c rest ih =>
      rw [List.mem_cons, not_or] at absent
      rw [terminators, if_neg fun here => absent.1 here.1.symm, ih absent.2]

theorem terminators_pos {text : Text} (member : ';' ∈ text) : 0 < terminators text := by
  induction text with
  | nil => cases member
  | cons c rest ih =>
      rw [terminators]
      split
      · exact Nat.succ_pos _
      · rename_i inner
        rcases List.mem_cons.1 member with rfl | member
        · have next : rest.head? = some ';' := by simpa using inner
          exact ih (List.mem_of_head? next)
        · exact ih member

/-- A text of semicolons only is one run. -/
theorem terminators_of_forall {text : Text} (all : ∀ c ∈ text, c = ';') (some_char : text ≠ []) :
    terminators text = 1 := by
  induction text with
  | nil => exact absurd rfl some_char
  | cons c rest ih =>
      obtain rfl := all c List.mem_cons_self
      have later : ∀ d ∈ rest, d = ';' := fun d member => all d (List.mem_cons_of_mem _ member)
      cases rest with
      | nil => rfl
      | cons d rest =>
          obtain rfl := later d List.mem_cons_self
          rw [terminators, if_neg (by simp), ih later (by simp)]

theorem terminators_le_append (left right : Text) :
    terminators left ≤ terminators (left ++ right) := by
  induction left with
  | nil => exact Nat.zero_le _
  | cons c rest ih =>
      cases rest with
      | nil =>
          by_cases here : c = ';'
          · subst here
            exact terminators_pos List.mem_cons_self
          · rw [terminators_of_not_mem (by simpa using Ne.symm here)]
            exact Nat.zero_le _
      | cons d rest =>
          rw [List.cons_append] at ih
          rw [List.cons_append, List.cons_append, terminators_cons_cons, terminators_cons_cons]
          split
          · exact Nat.succ_le_succ ih
          · exact ih

end Text

namespace Plan

open Text

/-! ## What is removed at the end -/

/-- Remove blanks at the end, then semicolons, then blanks again. -/
def dropTerminator (text : Text) : Text :=
  trimEnd isBlank (trimEnd (· = ';') (trimEnd isBlank text))

/-- The start may be trimmed first or last. -/
theorem stripTerminator_eq (text : Text) :
    stripTerminator text = trimStart isBlank (dropTerminator text) := by
  have twice (text : Text) : trimStart isBlank (trimStart isBlank text) = trimStart isBlank text :=
    trimStart_of_head fun c first => by
      obtain ⟨rest, kept⟩ := List.head?_eq_some_iff.1 first
      exact trimStart_eq_cons kept
  rw [stripTerminator, trim, trim, trimBoth, trimBoth, trimEnd_trimStart isBlank isBlank text,
    trimEnd_trimStart, trimEnd_trimStart, trimEnd_trimStart, twice]
  rfl

theorem dropTerminator_initial (text : Text) : dropTerminator text <+: text :=
  ((trimEnd_initial _ _).trans (trimEnd_initial _ _)).trans (trimEnd_initial _ _)

/-- What is removed are blanks, semicolons and blanks. -/
theorem exists_removed (text : Text) :
    ∃ blanks run back, dropTerminator text ++ blanks = trimEnd (· = ';') (trimEnd isBlank text) ∧
      dropTerminator text ++ (blanks ++ run) = trimEnd isBlank text ∧
      dropTerminator text ++ (blanks ++ (run ++ back)) = text ∧
      (∀ c ∈ blanks, isBlank c = true) ∧ (∀ c ∈ run, c = ';') ∧ ∀ c ∈ back, isBlank c = true := by
  obtain ⟨back, whole, back_blank⟩ := trimEnd_append_removed isBlank text
  obtain ⟨run, body, semicolons⟩ := trimEnd_append_removed (· = ';') (trimEnd isBlank text)
  obtain ⟨blanks, rest, blank⟩ :=
    trimEnd_append_removed isBlank (trimEnd (· = ';') (trimEnd isBlank text))
  refine ⟨blanks, run, back, rest, ?_, ?_, blank, fun c member => ?_, back_blank⟩
  · rw [dropTerminator, ← List.append_assoc, rest, body]
  · rw [dropTerminator, ← List.append_assoc, rest, ← List.append_assoc, body, whole]
  · exact of_decide_eq_true (semicolons c member)

/-- Behind a text that ends in neither a blank nor a semicolon the end is removed by itself. -/
theorem dropTerminator_append {text : Text}
    (ink : ∀ c, text.getLast? = some c → isLoose c = false) (tail : Text) :
    dropTerminator (text ++ tail) = text ++ dropTerminator tail := by
  have no_blank : ∀ c, text.getLast? = some c → isBlank c = false := fun c last =>
    (isLoose_eq_false_iff.1 (ink c last)).1
  have no_semicolon : ∀ c, text.getLast? = some c → decide (c = ';') = false := fun c last =>
    decide_eq_false (isLoose_eq_false_iff.1 (ink c last)).2
  rw [dropTerminator, trimEnd_append_of_last no_blank, trimEnd_append_of_last no_semicolon,
    trimEnd_append_of_last no_blank]
  rfl

theorem dropTerminator_trimEnd (text : Text) :
    dropTerminator (trimEnd isBlank text) = dropTerminator text := by
  rw [dropTerminator, trimEnd_of_last fun _ => getLast?_trimEnd]
  rfl

section Loose

variable {tail more : Text}

/-- What is left of blanks and semicolons is nothing or ends in a semicolon. -/
theorem getLast?_dropTerminator (loose : ∀ c ∈ tail, isLoose c = true) {c : Char}
    (last : (dropTerminator tail).getLast? = some c) : c = ';' := by
  have not_blank := getLast?_trimEnd last
  have member := (dropTerminator_initial tail).subset (List.mem_of_getLast? last)
  by_contra other
  have ink := isLoose_eq_false_iff.2 ⟨not_blank, other⟩
  rw [loose c member] at ink
  cases ink

theorem semicolon_not_mem {text : Text} (blank : ∀ c ∈ text, isBlank c = true) : ';' ∉ text := by
  intro member
  have impossible := blank _ member
  cases impossible

/-- What is removed of blanks and semicolons is one run, which does not go on from what is left; if
there is none, nothing is left. -/
theorem exists_removed_run (loose : ∀ c ∈ tail, isLoose c = true) :
    ∃ removed, dropTerminator tail ++ removed = tail ∧
      ((dropTerminator tail).getLast? = some ';' → ∃ c, removed.head? = some c ∧ c ≠ ';') ∧
      (terminators removed = 1 ∨ terminators removed = 0 ∧ dropTerminator tail = []) := by
  obtain ⟨blanks, run, back, rest, body, whole, blank, semicolons, back_blank⟩ :=
    exists_removed tail
  refine ⟨blanks ++ (run ++ back), whole, fun last => ?_, ?_⟩
  · cases blanks with
    | nil =>
        rw [List.append_nil] at rest
        rw [rest] at last
        have impossible := getLast?_trimEnd last
        cases impossible
    | cons c blanks =>
        refine ⟨c, rfl, ?_⟩
        rintro rfl
        exact semicolon_not_mem blank List.mem_cons_self
  · have counted : terminators (blanks ++ (run ++ back)) = terminators run := by
      rw [terminators_append fun last =>
          absurd (List.mem_of_getLast? last) (semicolon_not_mem blank),
        terminators_append fun _ first =>
          semicolon_not_mem back_blank (List.mem_of_head? first),
        terminators_of_not_mem (semicolon_not_mem blank),
        terminators_of_not_mem (semicolon_not_mem back_blank), Nat.zero_add, Nat.add_zero]
    rw [counted]
    cases run with
    | cons c run => exact .inl (terminators_of_forall semicolons nofun)
    | nil =>
        -- Without a run the rest ends in a character that may not stand there.
        rw [List.append_nil, rest] at body
        have nothing : trimEnd isBlank tail = [] := by
          rw [← List.getLast?_eq_none_iff, Option.eq_none_iff_forall_ne_some]
          intro c last
          have not_blank := getLast?_trimEnd last
          have not_semicolon := getLast?_trimEnd (body.symm ▸ last)
          have ink := isLoose_eq_false_iff.2 ⟨not_blank, of_decide_eq_false not_semicolon⟩
          rw [loose c ((trimEnd_initial _ _).subset (List.mem_of_getLast? last))] at ink
          cases ink
        refine .inr ⟨rfl, ?_⟩
        rw [dropTerminator, nothing]
        rfl

/-- One run of semicolons is removed if there is one. -/
theorem terminators_dropTerminator (loose : ∀ c ∈ tail, isLoose c = true) :
    terminators (dropTerminator tail) = terminators tail - 1 := by
  obtain ⟨removed, whole, apart, one | ⟨zero, nothing⟩⟩ := exists_removed_run loose
  · have counted := terminators_append fun last first => by
      obtain ⟨c, begins, other⟩ := apart last
      exact other (Option.some.inj (begins.symm.trans first))
    rw [whole, one] at counted
    exact Nat.eq_sub_of_add_eq counted.symm
  · rw [nothing, List.nil_append] at whole
    rw [nothing, ← whole, zero]
    rfl

/-- Of two ends that begin one text, less is left of one only with fewer runs of semicolons. -/
theorem dropTerminator_eq_or_lt {left right surplus text : Text}
    (left_loose : ∀ c ∈ left, isLoose c = true) (right_loose : ∀ c ∈ right, isLoose c = true)
    (left_initial : left <+: text) (right_initial : right <+: text)
    (longer : dropTerminator left ++ surplus = dropTerminator right) :
    dropTerminator left = dropTerminator right ∨
      terminators (dropTerminator left) < terminators (dropTerminator right) := by
  cases last : surplus.getLast? with
  | none =>
      rw [List.getLast?_eq_none_iff.1 last, List.append_nil] at longer
      exact .inl longer
  | some c =>
      obtain rfl : c = ';' :=
        getLast?_dropTerminator right_loose (by rw [← longer, List.getLast?_append, last]; rfl)
      obtain ⟨removed, whole, apart, -⟩ := exists_removed_run left_loose
      have seam : (dropTerminator left).getLast? = some ';' → surplus.head? ≠ some ';' := by
        intro ends first
        obtain ⟨c, begins, other⟩ := apart ends
        obtain ⟨rest, rfl⟩ := left_initial
        obtain ⟨surplus_rest, rfl⟩ := List.head?_eq_some_iff.1 first
        obtain ⟨removed_rest, rfl⟩ := List.head?_eq_some_iff.1 begins
        have within : dropTerminator left ++ ';' :: surplus_rest <+:
            dropTerminator left ++ (c :: removed_rest ++ rest) := by
          rw [longer, ← List.append_assoc, whole]
          exact (dropTerminator_initial right).trans right_initial
        rw [List.prefix_append_right_inj, List.cons_append, List.cons_prefix_cons] at within
        exact other within.1.symm
      rw [← longer, terminators_append seam]
      exact .inr (Nat.lt_add_of_pos_right (terminators_pos (List.mem_of_getLast? last)))

/-- Of an end and a longer one the same is left if the longer one holds one run of semicolons at
most, or no more runs than the shorter one. -/
theorem dropTerminator_append_eq_iff (tail_loose : ∀ c ∈ tail, isLoose c = true)
    (more_loose : ∀ c ∈ more, isLoose c = true) :
    dropTerminator (tail ++ more) = dropTerminator tail ↔
      terminators (tail ++ more) ≤ max 1 (terminators tail) := by
  have loose : ∀ c ∈ tail ++ more, isLoose c = true := fun c member =>
    (List.mem_append.1 member).elim (tail_loose c) (more_loose c)
  have shorter := terminators_dropTerminator tail_loose
  have longer := terminators_dropTerminator loose
  have grows := terminators_le_append tail more
  have initial : tail <+: tail ++ more := List.prefix_append ..
  constructor
  · intro same
    rw [same] at longer
    omega
  · intro few
    rcases List.prefix_or_prefix_of_prefix ((dropTerminator_initial tail).trans initial)
      (dropTerminator_initial (tail ++ more)) with ⟨surplus, here⟩ | ⟨surplus, here⟩
    · rcases dropTerminator_eq_or_lt tail_loose loose initial List.prefix_rfl here with same | fewer
      · exact same.symm
      · omega
    · rcases dropTerminator_eq_or_lt loose tail_loose List.prefix_rfl initial here with same | fewer
      · exact same
      · omega

end Loose

/-! ## Reading behind an ending -/

section Endings

variable {text left right : Text}

theorem stripTerminator_append (ink : ∀ c, text.getLast? = some c → isLoose c = false)
    (same : dropTerminator left = dropTerminator right) :
    stripTerminator (text ++ left) = stripTerminator (text ++ right) := by
  rw [stripTerminator_eq, stripTerminator_eq, dropTerminator_append ink,
    dropTerminator_append ink, same]

/-- Blanks and semicolons behind a text belong to the last part of a cut at keywords. -/
theorem cutAtWords_append_loose {words : List Text}
    (keywords : ∀ word ∈ words, word ≠ [] ∧ ∀ c ∈ word, isLoose c = false)
    (ink : ∀ c, text.getLast? = some c → isLoose c = false) :
    ∃ parts last, (∀ c, last.getLast? = some c → isLoose c = false) ∧
      cutAtWords words 0 text = parts ++ [last] ∧
      ∀ tail, (∀ c ∈ tail, isLoose c = true) →
        cutAtWords words 0 (text ++ tail) = parts ++ [last ++ tail] := by
  obtain ⟨parts, last, ⟨front, rfl⟩, cut, longer⟩ :=
    cutAtWords_append (fun word member => (keywords word member).1) (Nat.zero_le text.length)
  refine ⟨parts, last, fun c here => ink c ?_, cut, fun tail loose => longer tail ?_⟩
  · rw [List.getLast?_append, here]
    rfl
  · intro word member c inside here
    have ink_here := (keywords word member).2 c inside
    rw [loose c here] at ink_here
    cases ink_here

theorem insertWords_apart : ∀ word ∈ insertWords, word ≠ [] ∧ ∀ c ∈ word, isLoose c = false := by
  simp [insertWords, isLoose, isBlank]

theorem selectWords_apart : ∀ word ∈ selectWords, word ≠ [] ∧ ∀ c ∈ word, isLoose c = false := by
  simp [selectWords, isLoose, isBlank]

/-- What follows an opening word is read without its last run of semicolons. -/
theorem readAfter_append (ink : ∀ c, text.getLast? = some c → isLoose c = false)
    (left_loose : ∀ c ∈ left, isLoose c = true) (right_loose : ∀ c ∈ right, isLoose c = true)
    (same : dropTerminator left = dropTerminator right) (opening : Opening) :
    readAfter opening (text ++ left) = readAfter opening (text ++ right) := by
  cases opening with
  | create =>
      change readCreate (text ++ left) = readCreate (text ++ right)
      rw [readCreate, readCreate, stripTerminator_append ink same]
  | use =>
      change readUse (text ++ left) = readUse (text ++ right)
      rw [readUse, readUse, singleName, singleName, stripTerminator_append ink same]
  | insert =>
      obtain ⟨parts, last, last_ink, -, cut⟩ := cutAtWords_append_loose insertWords_apart ink
      have values : valuesOf (last ++ left) = valuesOf (last ++ right) := by
        rw [valuesOf, valuesOf, stripTerminator_append last_ink same]
      change readInsert (text ++ left) = readInsert (text ++ right)
      rw [readInsert, readInsert, cut left left_loose, cut right right_loose]
      rcases parts with _ | ⟨lead, _ | ⟨middle, _ | ⟨third, more⟩⟩⟩
      · rfl
      · rfl
      · dsimp only [List.cons_append, List.nil_append]
        rw [values]
      · cases more <;> rfl
  | select =>
      obtain ⟨parts, last, last_ink, -, cut⟩ := cutAtWords_append_loose selectWords_apart ink
      change readSelect (text ++ left) = readSelect (text ++ right)
      rw [readSelect, readSelect, cut left left_loose, cut right right_loose]
      rcases parts with _ | ⟨list, _ | ⟨second, more⟩⟩
      · rfl
      · dsimp only [List.cons_append, List.nil_append]
        rw [stripTerminator_append last_ink same]
      · cases more <;> rfl

/-- What follows the first space ends as the text does. -/
theorem getLast?_remainder {front rest : Text} {c : Char} (last : front.getLast? = some c)
    (not_blank : isBlank c = false) (found : behind? ' ' (trimStart isBlank front) = some rest)
    (some_rest : rest ≠ []) : rest.getLast? = some c := by
  have start_last := getLast?_trimStart last not_blank
  obtain ⟨lead, whole⟩ := final_of_behind? found
  rw [← whole, List.getLast?_append_of_ne_nil _ some_rest] at start_last
  exact start_last

/-- A statement is read by its opening word, with what follows the statement behind the rest. -/
theorem read_append {front rest tail : Text} {c : Char} (last : front.getLast? = some c)
    (ink : isLoose c = false) (found : behind? ' ' (trimStart isBlank front) = some rest)
    (some_rest : rest ≠ []) :
    Plan.read (front ++ tail) =
      match Opening.ofWord? (upTo ' ' (trimStart isBlank front)) with
      | none => .error (.unknownVerb (upTo ' ' (trimStart isBlank front)))
      | some opening => readAfter opening (trimStart isBlank rest ++ trimEnd isBlank tail) := by
  have not_blank := (isLoose_eq_false_iff.1 ink).1
  have start_last := getLast?_trimStart last not_blank
  have rest_last := getLast?_remainder last not_blank found some_rest
  have rest_start := getLast?_trimStart rest_last not_blank
  have rest_ink : ∀ d, (trimStart isBlank rest).getLast? = some d → isLoose d = false := by
    intro d here
    rw [rest_start] at here
    cases here
    exact ink
  have trimmed : trim (front ++ tail) = trimStart isBlank front ++ trimEnd isBlank tail :=
    trim_append last not_blank tail
  have some_char : (trimStart isBlank front ++ trimEnd isBlank tail).isEmpty = false := by
    rw [List.isEmpty_eq_false_iff]
    exact List.append_ne_nil_of_left_ne_nil (List.ne_nil_of_mem (List.mem_of_getLast? start_last)) _
  have remainder : trim (behind ' ' (trimStart isBlank front ++ trimEnd isBlank tail)) =
      trimStart isBlank rest ++ trimEnd isBlank tail := by
    rw [behind, behind?_append, found]
    change trim (rest ++ trimEnd isBlank tail) = _
    rw [trim_append rest_last not_blank, trimEnd_of_last fun _ => getLast?_trimEnd]
  have some_more : (stripTerminator (trimStart isBlank rest ++ trimEnd isBlank tail)).isEmpty =
      false := by
    rw [stripTerminator_eq, dropTerminator_append rest_ink,
      trimStart_append (List.mem_of_getLast? rest_start) not_blank, List.isEmpty_eq_false_iff]
    have twice := getLast?_trimStart rest_start not_blank
    exact List.append_ne_nil_of_left_ne_nil (List.ne_nil_of_mem (List.mem_of_getLast? twice)) _
  rw [Plan.read, trimmed, some_char, upTo_append found, remainder]
  dsimp only
  rw [some_more]
  rfl

end Endings

/-! ## Statements -/

/-- Trimmed, the line is a verb, a space and a text with more than blanks and semicolons in it. -/
def IsStatement (line : Text) : Prop :=
  ∃ rest, behind? ' ' (trim line) = some rest ∧ ∃ c ∈ rest, isLoose c = false

theorem isLoose_of_mem_ending {line : Text} : ∀ c ∈ ending line, isLoose c = true := fun _ =>
  List.mem_rtakeWhile_imp

/-- The ending begins behind the last character that is neither a blank nor a semicolon. -/
theorem ending_append {front tail : Text} {c : Char} (last : front.getLast? = some c)
    (ink : isLoose c = false) (loose : ∀ c ∈ tail, isLoose c = true) :
    ending (front ++ tail) = tail := by
  obtain ⟨lead, rfl⟩ := List.getLast?_eq_some_iff.1 last
  have reversed : ∀ d ∈ tail.reverse, isLoose d = true := fun d member =>
    loose d (List.mem_reverse.1 member)
  rw [ending, List.rtakeWhile, List.reverse_append, List.takeWhile_append_of_pos reversed,
    List.reverse_append]
  simp [ink]

/-- A statement is more than its ending: the first space, and something behind it, come before. -/
theorem IsStatement.exists_front {line : Text} (statement : IsStatement line) :
    ∃ front c rest, front ++ ending line = line ∧ front.getLast? = some c ∧ isLoose c = false ∧
      behind? ' ' (trimStart isBlank front) = some rest ∧ rest ≠ [] := by
  obtain ⟨remainder, found, c, member, ink⟩ := statement
  have apart {tail : Text} (loose : ∀ d ∈ tail, isLoose d = true) : c ∉ tail := by
    intro here
    rw [loose c here] at ink
    cases ink
  have whole : trimEnd isLoose line ++ ending line = line := List.rdropWhile_append_rtakeWhile ..
  have loose_end : ∀ d ∈ trimEnd isBlank (ending line), isLoose d = true := fun d here =>
    isLoose_of_mem_ending d ((trimEnd_initial _ _).subset here)
  cases last : (trimEnd isLoose line).getLast? with
  | none =>
      rw [List.getLast?_eq_none_iff.1 last, List.nil_append] at whole
      have in_line := mem_of_mem_trim ((final_of_behind? found).subset member)
      exact absurd (whole.symm ▸ in_line) (apart isLoose_of_mem_ending)
  | some d =>
      have d_ink := getLast?_trimEnd last
      have trimmed := trim_append last (isLoose_eq_false_iff.1 d_ink).1 (ending line)
      rw [whole] at trimmed
      rw [trimmed, behind?_append] at found
      cases before : behind? ' ' (trimStart isBlank (trimEnd isLoose line)) with
      | none =>
          rw [before] at found
          exact absurd ((final_of_behind? found).subset member) (apart loose_end)
      | some rest =>
          rw [before] at found
          refine ⟨_, d, rest, whole, last, d_ink, before, ?_⟩
          rintro rfl
          cases found
          exact absurd member (apart loose_end)

/-- A statement is read in the same way if the same is left of its ending. -/
theorem read_append_of_same {line more : Text} (statement : IsStatement line)
    (more_loose : ∀ c ∈ more, isLoose c = true)
    (same : dropTerminator (ending line ++ more) = dropTerminator (ending line)) :
    Plan.read (line ++ more) = Plan.read line := by
  obtain ⟨front, c, rest, whole, last, ink, found, some_rest⟩ := statement.exists_front
  have loose : ∀ d ∈ ending line ++ more, isLoose d = true := fun d member =>
    (List.mem_append.1 member).elim (isLoose_of_mem_ending d) (more_loose d)
  have not_blank := (isLoose_eq_false_iff.1 ink).1
  have rest_last := getLast?_trimStart (getLast?_remainder last not_blank found some_rest) not_blank
  have rest_ink : ∀ d, (trimStart isBlank rest).getLast? = some d → isLoose d = false := by
    intro d here
    rw [rest_last] at here
    cases here
    exact ink
  have trimmed_loose {tail : Text} (loose : ∀ d ∈ tail, isLoose d = true) :
      ∀ d ∈ trimEnd isBlank tail, isLoose d = true := fun d member =>
    loose d ((trimEnd_initial _ _).subset member)
  have same_reading (opening : Opening) :=
    readAfter_append rest_ink (trimmed_loose loose) (trimmed_loose isLoose_of_mem_ending)
      (by rw [dropTerminator_trimEnd, dropTerminator_trimEnd, same]) opening
  conv_lhs => rw [← whole, List.append_assoc]
  conv_rhs => rw [← whole]
  rw [read_append last ink found some_rest, read_append last ink found some_rest]
  cases Opening.ofWord? (upTo ' ' (trimStart isBlank front)) with
  | none => rfl
  | some opening => exact same_reading opening

/-- What is left of the ending is read as a part of the ignored text behind a table. -/
theorem read_select_append {tail : Text} (loose : ∀ c ∈ tail, isLoose c = true) :
    Plan.read ("SELECT * FROM t x".toList ++ tail) =
      .ok (.select ['t'] none ('x' :: dropTerminator tail)) := by
  have found : behind? ' ' (trimStart isBlank "SELECT * FROM t x".toList) =
      some "* FROM t x".toList := by decide
  have opening : Opening.ofWord? (upTo ' ' (trimStart isBlank "SELECT * FROM t x".toList)) =
      some .select := by decide
  have loose_end : ∀ c ∈ trimEnd isBlank tail, isLoose c = true := fun c member =>
    loose c ((trimEnd_initial _ _).subset member)
  have rest_ink : ∀ c, "* FROM t x".toList.getLast? = some c → isLoose c = false := by
    rintro c ⟨⟩
    decide
  obtain ⟨parts, last, last_ink, cut, longer⟩ := cutAtWords_append_loose selectWords_apart rest_ink
  have known : cutAtWords selectWords 0 "* FROM t x".toList = ["* ".toList] ++ [" t x".toList] := by
    decide
  obtain ⟨rfl, same⟩ := List.append_inj' (cut.symm.trans known) rfl
  obtain rfl := (List.cons.inj same).1
  have target : stripTerminator (" t x".toList ++ trimEnd isBlank tail) =
      "t x".toList ++ dropTerminator tail := by
    rw [stripTerminator_eq, dropTerminator_append last_ink, dropTerminator_trimEnd]
    rfl
  rw [read_append rfl (by decide) found nofun, opening]
  change readSelect ("* FROM t x".toList ++ trimEnd isBlank tail) = _
  rw [readSelect, longer _ loose_end]
  dsimp only [List.cons_append, List.nil_append]
  rw [target]
  rfl

/-- With more blanks and semicolons behind them the statements of a certain ending are read in the
same way exactly if the ending then holds one run of semicolons at most, or no more runs than
before: of several runs only the last is removed. -/
theorem read_append_iff {tail more : Text} (tail_loose : ∀ c ∈ tail, isLoose c = true)
    (more_loose : ∀ c ∈ more, isLoose c = true) :
    (∀ line, IsStatement line → ending line = tail → Plan.read (line ++ more) = Plan.read line) ↔
      terminators (tail ++ more) ≤ max 1 (terminators tail) := by
  rw [← dropTerminator_append_eq_iff tail_loose more_loose]
  constructor
  · intro transparent
    have loose : ∀ c ∈ tail ++ more, isLoose c = true := fun c member =>
      (List.mem_append.1 member).elim (tail_loose c) (more_loose c)
    have statement : IsStatement ("SELECT * FROM t x".toList ++ tail) := by
      have trimmed : trim ("SELECT * FROM t x".toList ++ tail) =
          "SELECT * FROM t x".toList ++ trimEnd isBlank tail := trim_append rfl (by decide) tail
      refine ⟨"* FROM t x".toList ++ trimEnd isBlank tail, ?_, '*', by simp, by decide⟩
      rw [trimmed]
      rfl
    have same := transparent _ statement (ending_append rfl (by decide) tail_loose)
    rw [List.append_assoc, read_select_append loose, read_select_append tail_loose] at same
    injection same with same
    injection same with _ _ same
    exact (List.cons.inj same).2
  · rintro same line statement rfl
    exact read_append_of_same statement more_loose same

/-- The run of semicolons behind a statement may go on, with blanks behind it. -/
theorem read_append_terminator :
    (∀ c ∈ [';'], isLoose c = true) ∧ (∀ c ∈ ";;\t ".toList, isLoose c = true) ∧
      (IsStatement "USE shop;".toList ∧ ending "USE shop;".toList = [';']) ∧
      ∀ line, IsStatement line → ending line = [';'] →
        Plan.read (line ++ ";;\t ".toList) = Plan.read line := by
  have tail_loose : ∀ c ∈ [';'], isLoose c = true := List.all_eq_true.1 (by decide)
  have more_loose : ∀ c ∈ ";;\t ".toList, isLoose c = true := List.all_eq_true.1 (by decide)
  have statement : IsStatement "USE shop;".toList :=
    ⟨"shop;".toList, by decide, 's', by decide, by decide⟩
  exact ⟨tail_loose, more_loose, ⟨statement, by decide⟩,
    (read_append_iff tail_loose more_loose).2 (by decide)⟩

/-- With two runs of semicolons behind it a name is read with the first of them. -/
theorem not_read_append_twoRuns :
    IsStatement "USE shop".toList ∧ (∀ c ∈ "; ;".toList, isLoose c = true) ∧
      Plan.read "USE shop".toList = .ok (.use "shop".toList) ∧
      Plan.read ("USE shop".toList ++ "; ;".toList) = .ok (.use "shop;".toList) ∧
      Plan.read ("USE shop".toList ++ "; ;".toList) ≠ Plan.read "USE shop".toList :=
  ⟨⟨"shop".toList, by decide, 's', by decide, by decide⟩, List.all_eq_true.1 (by decide),
    by decide, by decide, by decide⟩

end Plan
end FlatStore
