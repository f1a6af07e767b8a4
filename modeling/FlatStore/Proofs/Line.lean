import FlatStore.Text.Line
import FlatStore.Proofs.Utf8

/-!
# Lines of concatenated texts

Cutting into lines respects concatenation behind an ended line, unless a line feed would join a
carriage return.  Behind an unfinished line the next text goes on with that line.
-/

namespace FlatStore
namespace Text

/-- No character of the text belongs to the end of a line. -/
def IsLine (line : Text) : Prop := ∀ c ∈ line, isLineEnd c = false

/-- The last line of the text is ended. -/
def EndsLine (text : Text) : Prop := text.getLast? = some '\n' ∨ text.getLast? = some '\r'

instance (text : Text) : Decidable (EndsLine text) := inferInstanceAs (Decidable (_ ∨ _))

theorem isLineEnd_eq_false_iff {c : Char} : isLineEnd c = false ↔ c ≠ '\n' ∧ c ≠ '\r' := by
  simp [isLineEnd, and_comm]

theorem isLine_iff {line : Text} : IsLine line ↔ '\n' ∉ line ∧ '\r' ∉ line := by
  constructor
  · intro isLine
    exact ⟨fun member => Bool.noConfusion (isLine _ member),
      fun member => Bool.noConfusion (isLine _ member)⟩
  · rintro ⟨noFeed, noReturn⟩ c member
    refine isLineEnd_eq_false_iff.2 ⟨?_, ?_⟩
    · rintro rfl
      exact noFeed member
    · rintro rfl
      exact noReturn member

theorem endsLine_iff {text : Text} :
    EndsLine text ↔ ∃ c, text.getLast? = some c ∧ isLineEnd c = true := by
  constructor
  · rintro (last | last)
    · exact ⟨_, last, rfl⟩
    · exact ⟨_, last, rfl⟩
  · rintro ⟨c, last, ends⟩
    rw [isLineEnd, Bool.or_eq_true, decide_eq_true_eq, decide_eq_true_eq] at ends
    rcases ends with rfl | rfl
    · exact .inr last
    · exact .inl last

theorem endsLine_cons {c : Char} {text : Text} (more : text ≠ []) :
    EndsLine (c :: text) ↔ EndsLine text := by
  obtain ⟨d, rest, rfl⟩ := List.exists_cons_of_ne_nil more
  simp [EndsLine]

theorem endsLine_append {left right : Text} (more : right ≠ []) :
    EndsLine (left ++ right) ↔ EndsLine right := by
  simp [EndsLine, more]

/-! ## Cutting -/

@[simp]
theorem lines_lineFeed (complete : Bool) (rest : Text) :
    lines complete ('\n' :: rest) = [] :: lines complete rest := by
  rw [lines]

@[simp]
theorem lines_carriageReturn_lineFeed (complete : Bool) (rest : Text) :
    lines complete ('\r' :: '\n' :: rest) = [] :: lines complete rest := by
  rw [lines]

/-- A carriage return without a line feed behind it ends a line of a complete text. -/
theorem lines_carriageReturn {rest : Text} (apart : rest.head? ≠ some '\n') :
    lines true ('\r' :: rest) = [] :: lines true rest := by
  cases rest with
  | nil => simp [lines]
  | cons c rest =>
      rw [lines]
      · simpa using apart
      · simp

/-- A character inside a line stands in front of the first line of the rest. -/
theorem lines_cons {c : Char} (inner : isLineEnd c = false) (complete : Bool) (rest : Text) :
    lines complete (c :: rest) = match lines complete rest with
      | [] => if complete then [[c]] else []
      | line :: more => (c :: line) :: more := by
  obtain ⟨notFeed, notReturn⟩ := isLineEnd_eq_false_iff.1 inner
  cases tail : lines complete rest <;> rw [lines] <;> simp_all

/-- An ended line is the first one. -/
theorem lines_append_lineFeed {line : Text} (isLine : IsLine line) (complete : Bool)
    (rest : Text) : lines complete (line ++ '\n' :: rest) = line :: lines complete rest := by
  induction line with
  | nil => simp
  | cons c line ih =>
      rw [List.cons_append, lines_cons (isLine c (by simp)),
        ih fun d member => isLine d (by simp [member])]

/-- A text within a line is one line, unless it is empty. -/
theorem lines_of_isLine {line : Text} (isLine : IsLine line) (some_char : line ≠ []) :
    lines true line = [line] := by
  induction line with
  | nil => exact absurd rfl some_char
  | cons c line ih =>
      rw [lines_cons (isLine c (by simp))]
      cases line with
      | nil => rfl
      | cons d line =>
          rw [ih (fun d member => isLine d (by simp [member])) (by simp)]

/-- A text within a line is continued by the first line of what follows. -/
theorem lines_append_of_isLine {line rest first : Text} {more : List Text} (isLine : IsLine line)
    (cut : lines true rest = first :: more) :
    lines true (line ++ rest) = (line ++ first) :: more := by
  induction line with
  | nil => exact cut
  | cons c line ih =>
      rw [List.cons_append, lines_cons (isLine c (by simp)),
        ih fun d member => isLine d (by simp [member])]
      rfl

/-- Only the empty text has no lines. -/
theorem eq_nil_of_lines_eq_nil {text : Text} (none_left : lines true text = []) : text = [] := by
  revert none_left
  fun_cases lines true text <;> simp_all

/-- No line has a line end in it. -/
theorem isLine_of_mem_lines {complete : Bool} {text line : Text}
    (member : line ∈ lines complete text) : IsLine line := by
  fun_induction lines complete text generalizing line with
  | case1 => simp at member
  | case2 rest ih =>
      rcases List.mem_cons.1 member with rfl | member
      · simp [IsLine]
      · exact ih member
  | case3 rest ih =>
      rcases List.mem_cons.1 member with rfl | member
      · simp [IsLine]
      · exact ih member
  | case4 =>
      rw [List.mem_singleton.1 member]
      simp [IsLine]
  | case5 => simp at member
  | case6 rest _ _ ih =>
      rcases List.mem_cons.1 member with rfl | member
      · simp [IsLine]
      · exact ih member
  | case7 c rest notFeed _ _ notReturn =>
      rw [List.mem_singleton.1 member]
      intro d member
      rw [List.mem_singleton.1 member]
      exact isLineEnd_eq_false_iff.2 ⟨notFeed, notReturn⟩
  | case8 => simp at member
  | case9 c rest notFeed _ _ notReturn first more cut ih =>
      rw [cut] at ih
      rcases List.mem_cons.1 member with rfl | member
      · intro d member
        rcases List.mem_cons.1 member with rfl | member
        · exact isLineEnd_eq_false_iff.2 ⟨notFeed, notReturn⟩
        · exact ih (by simp) d member
      · exact ih (by simp [member])

theorem settled_of_cons {c : Char} {rest : Text}
    (settled : c :: rest = [] ∨ EndsLine (c :: rest)) : rest = [] ∨ EndsLine rest := by
  by_cases more : rest = []
  · exact .inl more
  · exact .inr ((endsLine_cons more).1 (settled.resolve_left (by simp)))

/-- Behind an ended line the lines of the two texts follow each other. -/
theorem lines_append {left right : Text} (settled : left = [] ∨ EndsLine left)
    (apart : right.head? ≠ some '\n') :
    lines true (left ++ right) = lines true left ++ lines true right := by
  fun_induction lines true left with
  | case1 => rfl
  | case2 rest ih =>
      rw [List.cons_append, lines_lineFeed, ih (settled_of_cons settled), List.cons_append]
  | case3 rest ih =>
      rw [List.cons_append, List.cons_append, lines_carriageReturn_lineFeed,
        ih (settled_of_cons (.inr ((endsLine_cons (by simp)).1 (settled.resolve_left (by simp))))),
        List.cons_append]
  | case4 =>
      rw [List.singleton_append, lines_carriageReturn apart, List.singleton_append]
  | case5 notComplete => exact absurd rfl notComplete
  | case6 rest noFeed some_char ih =>
      have rest_apart : (rest ++ right).head? ≠ some '\n' := by
        obtain ⟨c, rest, rfl⟩ := List.exists_cons_of_ne_nil some_char
        intro feed
        cases feed
        exact noFeed rest rfl
      rw [List.cons_append, lines_carriageReturn rest_apart, ih (settled_of_cons settled),
        List.cons_append]
  | case7 c rest notFeed _ _ notReturn none_left =>
      -- A settled text ends with a line end, so something follows a character inside a line.
      obtain rfl := eq_nil_of_lines_eq_nil none_left
      rcases settled with absent | last | last
      · cases absent
      · cases last
        exact absurd rfl notFeed
      · cases last
        exact absurd rfl notReturn
  | case8 _ _ _ _ _ _ _ notComplete => exact absurd rfl notComplete
  | case9 c rest notFeed _ _ notReturn first more cut ih =>
      rw [List.cons_append, lines_cons (isLineEnd_eq_false_iff.2 ⟨notFeed, notReturn⟩),
        ih (settled_of_cons settled), cut]
      rfl

/-- A text whose last line is not ended is an unfinished line behind ended ones. -/
theorem exists_unfinished_line {text : Text} (some_char : text ≠ []) (open_end : ¬EndsLine text) :
    ∃ before line, text = before ++ line ∧ line ≠ [] ∧ IsLine line ∧
      (before = [] ∨ EndsLine before) := by
  induction text with
  | nil => exact absurd rfl some_char
  | cons c rest ih =>
      by_cases more : rest = []
      · subst more
        refine ⟨[], [c], rfl, by simp, ?_, .inl rfl⟩
        intro d member
        rw [List.mem_singleton.1 member]
        cases inner : isLineEnd c with
        | false => rfl
        | true => exact absurd (endsLine_iff.2 ⟨c, rfl, inner⟩) open_end
      · obtain ⟨before, line, rfl, some_line, isLine, settled⟩ :=
          ih more fun ends => open_end ((endsLine_cons more).2 ends)
        cases inner : isLineEnd c with
        | true =>
            refine ⟨c :: before, line, rfl, some_line, isLine, .inr ?_⟩
            rcases settled with rfl | ends
            · exact endsLine_iff.2 ⟨c, rfl, inner⟩
            · exact (endsLine_cons (by rintro rfl; simp [EndsLine] at ends)).2 ends
        | false =>
            rcases settled with rfl | ends
            · refine ⟨[], c :: line, rfl, by simp, ?_, .inl rfl⟩
              intro d member
              rcases List.mem_cons.1 member with rfl | member
              · exact inner
              · exact isLine d member
            · refine ⟨c :: before, line, rfl, some_line, isLine, .inr ?_⟩
              exact (endsLine_cons (by rintro rfl; simp [EndsLine] at ends)).2 ends

end Text

namespace Utf8

/-- The last line of a file is ended. -/
def EndsLine (octets : Octets) : Prop :=
  octets.getLast? = some 0x0A ∨ octets.getLast? = some 0x0D

instance (octets : Octets) : Decidable (EndsLine octets) := inferInstanceAs (Decidable (_ ∨ _))

/-- An ASCII octet of a sequence is all of it. -/
theorem Sequence.eq_singleton {octets : Octets} {value : Nat} {octet : UInt8}
    (sequence : Sequence octets value) (member : octet ∈ octets) (ascii : octet.toNat < 0x80) :
    octets = [octet] := by
  cases sequence with
  | one =>
      rw [List.mem_singleton] at member
      rw [member]
  | two =>
      simp only [List.mem_cons, List.not_mem_nil, or_false] at member
      rcases member with rfl | rfl <;> omega
  | three =>
      simp only [List.mem_cons, List.not_mem_nil, or_false] at member
      rcases member with rfl | rfl | rfl <;> omega
  | four =>
      simp only [List.mem_cons, List.not_mem_nil, or_false] at member
      rcases member with rfl | rfl | rfl | rfl <;> omega

/-- A sequence that ends with an ASCII octet is that character. -/
theorem Sequence.eq_of_getLast? {octets : Octets} {value : Nat} {octet : UInt8}
    (sequence : Sequence octets value) (last : octets.getLast? = some octet)
    (ascii : octet.toNat < 0x80) : value = octet.toNat := by
  obtain rfl := sequence.eq_singleton (List.mem_of_getLast? last) ascii
  cases sequence with
  | one fits sum => exact sum

theorem getLast?_encodeChar_iff {c d : Char} (ascii : d.toNat < 0x80) :
    (encodeChar c).getLast? = some (UInt8.ofNat d.toNat) ↔ c = d := by
  have value : (UInt8.ofNat d.toNat).toNat = d.toNat :=
    UInt8.toNat_ofNat_of_lt' (Nat.lt_trans ascii (by decide))
  constructor
  · intro last
    have h := (sequence_encodeChar c).eq_of_getLast? last (by omega)
    rw [← Char.ofNat_toNat c, h, value, Char.ofNat_toNat]
  · rintro rfl
    simp [encodeChar, ascii]

/-- The file of a text ends a line if the text does. -/
theorem endsLine_encode_iff {text : Text} : EndsLine (encode text) ↔ text.EndsLine := by
  rcases List.eq_nil_or_concat text with rfl | ⟨front, c, rfl⟩
  · simp [EndsLine, Text.EndsLine]
  · have some_octet : encodeChar c ≠ [] :=
      List.ne_nil_of_length_pos (sequence_encodeChar c).length_pos
    have last : (encode (front.concat c)).getLast? = (encodeChar c).getLast? := by
      rw [List.concat_eq_append, encode_append, encode_cons, encode_nil, List.append_nil,
        List.getLast?_append, List.getLast?_eq_some_getLast some_octet, Option.some_or]
    have feed := getLast?_encodeChar_iff (c := c) (d := '\n') (by decide)
    have carriage := getLast?_encodeChar_iff (c := c) (d := '\r') (by decide)
    rw [EndsLine, Text.EndsLine, last, List.concat_eq_append, List.getLast?_concat,
      Option.some.injEq, Option.some.injEq]
    exact or_congr feed carriage

/-- What is left unfinished does not begin with a character. -/
theorem Unfinished.ne_append {octets : Octets} (unfinished : Unfinished octets) (c : Char)
    (rest : Octets) : octets ≠ encodeChar c ++ rest := by
  rintro rfl
  obtain ⟨position, decoded⟩ := unfinished
  rw [(sequence_encodeChar c).decodeFrom] at decoded
  obtain ⟨others, none_left, -⟩ := Decoded.cons_eq_chars decoded
  cases none_left

/-- An ended part at the begin of an encoded text is an encoded text itself. -/
theorem exists_text_of_endsLine {octets rest : Octets} {text : Text} (ends : EndsLine octets)
    (h : octets ++ rest = encode text) :
    ∃ first last, text = first ++ last ∧ octets = encode first ∧ rest = encode last := by
  obtain ⟨first, last, unfinished, rfl, decoded, tail⟩ := exists_split_of_append_eq_encode h
  have octets_eq : octets = encode first ++ unfinished := eq_encode_of_decodeFrom decoded
  have left := unfinished_of_decode decoded
  rcases List.eq_nil_or_concat unfinished with rfl | ⟨front, octet, rfl⟩
  · exact ⟨first, last, rfl, by rw [octets_eq, List.append_nil], tail⟩
  · exfalso
    -- The last octet is a line end, so no sequence of several octets goes on over it.
    have ascii : octet.toNat < 0x80 := by
      rw [EndsLine, octets_eq, List.concat_eq_append, ← List.append_assoc, List.getLast?_concat,
        Option.some.injEq, Option.some.injEq] at ends
      rcases ends with rfl | rfl <;> decide
    have here : octet ∈ front.concat octet := by simp
    cases last with
    | nil =>
        rw [encode_nil, List.append_eq_nil_iff] at tail
        rw [tail.1] at here
        cases here
    | cons c others =>
        rw [encode_cons, List.append_eq_append_iff] at tail
        obtain ⟨more, sequence_eq, -⟩ | ⟨more, front_eq, -⟩ := tail
        · have member : octet ∈ encodeChar c := by
            rw [sequence_eq]
            exact List.mem_append_left _ here
          have single := (sequence_encodeChar c).eq_singleton member ascii
          have whole : front.concat octet = encodeChar c ++ [] := by
            rw [List.append_nil, single]
            rw [single] at sequence_eq
            have lengths := congrArg List.length sequence_eq
            have front_nil : front = [] := by
              rw [← List.length_eq_zero_iff]
              simp at lengths
              omega
            rw [front_nil]
            rfl
          exact left.ne_append c [] whole
        · exact left.ne_append c more front_eq

end Utf8
end FlatStore
