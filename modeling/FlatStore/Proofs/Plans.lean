import FlatStore.Command.Reader
import FlatStore.Proofs.Outcome
import FlatStore.Proofs.TableFile
import FlatStore.Proofs.Trim
import FlatStore.Table.Name

/-!
# What command lines are read as

The names in a plan are single words or have no blanks around them, and the values of an insert are
made of characters of the line.  A selection of all columns is read from its plain spelling for
every table whose name does not hold the keyword.
-/

namespace FlatStore

namespace Text

theorem mem_of_mem_behind {mark c : Char} {text : Text} (member : c ∈ behind mark text) :
    c ∈ text := by
  rw [behind] at member
  cases found : behind? mark text with
  | none =>
      rw [found] at member
      cases member
  | some rest =>
      rw [found] at member
      rw [← upTo_append_behind found]
      exact List.mem_append_right _ (List.mem_cons_of_mem _ member)

/-- Cutting at words invents no character. -/
theorem mem_of_mem_cutAtWords {words : List Text} {skip : Nat} {text part : Text} {c : Char}
    (member : part ∈ cutAtWords words skip text) (here : c ∈ part) : c ∈ text := by
  fun_induction cutAtWords words skip text generalizing part with
  | case1 =>
      rw [List.mem_singleton.1 member] at here
      cases here
  | case2 skip first rest ih => exact List.mem_cons_of_mem _ (ih member here)
  | case3 first rest word found ih =>
      rcases List.mem_cons.1 member with rfl | member
      · cases here
      · exact List.mem_cons_of_mem _ (ih member here)
  | case4 first rest absent ih =>
      obtain ⟨front, parts, cut⟩ :=
        List.exists_cons_of_ne_nil (cutAtWords_ne_nil words 0 rest)
      rw [cut] at ih member
      rcases List.mem_cons.1 member with rfl | member
      · rcases List.mem_cons.1 here with rfl | here
        · exact List.mem_cons_self
        · exact List.mem_cons_of_mem _ (ih List.mem_cons_self here)
      · exact List.mem_cons_of_mem _ (ih (List.mem_cons_of_mem _ member) here)

/-- Without an occurrence of a word there is one part. -/
theorem cutAtWords_of_absent {words : List Text} {text : Text}
    (absent : ∀ word ∈ words, ¬word <:+: text) : cutAtWords words 0 text = [text] := by
  induction text with
  | nil => rfl
  | cons c rest ih =>
      have none_here : words.find? (·.isPrefixOf (c :: rest)) = none := by
        rw [List.find?_eq_none]
        intro word member begins
        exact absent word member (List.isPrefixOf_iff_prefix.1 begins).isInfix
      have none_later : ∀ word ∈ words, ¬word <:+: rest := fun word member inside =>
        absent word member (List.infix_cons inside)
      rw [cutAtWords, none_here]
      dsimp only
      rw [ih none_later, consHead_cons]

end Text

/-! ## Names -/

/-- A name without the line feed that may stand at the end of one. -/
def IsPlainName (name : Text) : Prop := name ≠ [] ∧ ∀ c ∈ name, isNameChar c = true

theorem isNameChar_bounds {c : Char} (inner : isNameChar c = true) :
    33 ≤ c.toNat ∧ c.toNat ≤ 122 ∧ c.toNat ≠ 59 := by
  rw [isNameChar, Bool.or_eq_true, Bool.or_eq_true] at inner
  rcases inner with (alphanumeric | underscore) | dash
  · have ranges : (decide (c.val ≥ 'A'.val ∧ c.val ≤ 'Z'.val) ||
        (decide (c.val ≥ 'a'.val) && decide (c.val ≤ 'z'.val)) ||
        (decide (c.val ≥ '0'.val) && decide (c.val ≤ '9'.val))) = true := alphanumeric
    simp only [Bool.or_eq_true, Bool.and_eq_true, decide_eq_true_eq, ge_iff_le,
      UInt32.le_iff_toNat_le] at ranges
    change ((65 ≤ c.toNat ∧ c.toNat ≤ 90) ∨ (97 ≤ c.toNat ∧ c.toNat ≤ 122)) ∨
      (48 ≤ c.toNat ∧ c.toNat ≤ 57) at ranges
    omega
  · obtain rfl := of_decide_eq_true underscore
    decide
  · obtain rfl := of_decide_eq_true dash
    decide

theorem not_isBlank_of_isNameChar {c : Char} (inner : isNameChar c = true) :
    Text.isBlank c = false := by
  obtain ⟨low, high, -⟩ := isNameChar_bounds inner
  simp only [Text.isBlank]
  grind

theorem ne_semicolon_of_isNameChar {c : Char} (inner : isNameChar c = true) : c ≠ ';' := by
  rintro rfl
  cases inner

theorem IsPlainName.isCell {name : Text} (plain : IsPlainName name) : IsCell name := by
  have absent {c : Char} (blank : Text.isBlank c = true) : c ∉ name := by
    intro member
    rw [not_isBlank_of_isNameChar (plain.2 c member)] at blank
    cases blank
  exact ⟨absent Text.isBlank_tab, absent Text.isBlank_lineFeed, absent Text.isBlank_carriageReturn⟩

theorem isPlainName_of_isName {name : Text} (valid : isName name = true)
    (last : name.getLast? ≠ some '\n') : IsPlainName name := by
  rw [isName, withoutLineFeed, if_neg last, Bool.and_eq_true, List.all_eq_true] at valid
  refine ⟨?_, valid.2⟩
  rintro rfl
  cases valid.1

theorem isPlainName_of_isWord {name : Text} (valid : isName name = true)
    (word : Text.isWord name = true) : IsPlainName name := by
  refine isPlainName_of_isName valid fun last => ?_
  have ink := Text.not_isBlank_of_isWord word (List.mem_of_getLast? last)
  cases ink

theorem isPlainName_of_trim {text : Text} (valid : isName (Text.trim text) = true) :
    IsPlainName (Text.trim text) := by
  refine isPlainName_of_isName valid fun last => ?_
  have ink := Text.getLast?_trim last
  cases ink

namespace Plan

open Text

/-! ## What is read -/

/-- Names are single words or have no blanks around them, and values are made of characters of the
line, without tabs. -/
def Fits (line : Text) : Plan → Prop
  | .createDatabase name => isWord name = true
  | .createTable table columns =>
      isWord table = true ∧ ∀ column ∈ columns, ∃ text, column = trim text
  | .use name => isWord name = true
  | .insert table values =>
      isWord table = true ∧ ∀ value ∈ values, '\t' ∉ value ∧ ∀ c ∈ value, c ∈ line
  | .select _ _ _ => True

theorem Fits.mono {part line : Text} {plan : Plan} (inside : ∀ c ∈ part, c ∈ line)
    (fits : plan.Fits part) : plan.Fits line := by
  cases plan with
  | insert table values =>
      obtain ⟨word, each⟩ := fits
      refine ⟨word, fun value member => ⟨(each value member).1, fun c here => ?_⟩⟩
      exact inside c ((each value member).2 c here)
  | createDatabase | createTable | use | select => exact fits

/-- Behind a requirement that is not met nothing is read. -/
theorem of_require_bind {α : Type} {condition : Bool} {cause : SyntaxError}
    {next : Unit → Except StoreError α} {value : α}
    (h : (require condition cause >>= next) = .ok value) :
    condition = true ∧ next () = .ok value := by
  rw [require] at h
  cases condition with
  | false => cases h
  | true => exact ⟨rfl, h⟩

theorem isWord_of_singleName {role : NameRole} {text name : Text}
    (h : singleName role text = .ok name) : isWord name = true := by
  obtain ⟨word, read⟩ := of_require_bind h
  cases read
  exact word

theorem columnNames_eq_ok {list : ColumnList} {text : Text} {columns : List Text}
    (h : columnNames list text = .ok columns) : columns = (cutAt ',' text).map trim := by
  obtain ⟨-, read⟩ := of_require_bind h
  cases read
  rfl

theorem fits_of_readUse {text : Text} {plan : Plan} (h : readUse text = .ok plan) :
    plan.Fits text := by
  obtain ⟨name, read, rfl⟩ := map_eq_ok h
  exact isWord_of_singleName read

theorem fits_of_readCreateTable {text : Text} {plan : Plan} (h : readCreateTable text = .ok plan) :
    plan.Fits text := by
  obtain ⟨shape, read⟩ := of_require_bind h
  rw [Bool.and_eq_true, Bool.and_eq_true] at shape
  obtain ⟨columns, listed, rfl⟩ := map_eq_ok read
  refine ⟨shape.1.2, fun column member => ?_⟩
  rw [columnNames_eq_ok listed] at member
  obtain ⟨part, -, rfl⟩ := List.mem_map.1 member
  exact ⟨part, rfl⟩

theorem fits_of_readCreate {text : Text} {plan : Plan} (h : readCreate text = .ok plan) :
    plan.Fits text := by
  rw [readCreate] at h
  have inside : ∀ c ∈ behind ' ' (stripTerminator text), c ∈ text := by
    intro c member
    have in_body := mem_of_mem_trim (mem_of_mem_behind member)
    exact mem_of_mem_trim ((trimEnd_initial _ _).subset in_body)
  split at h
  · obtain ⟨name, read, rfl⟩ := map_eq_ok h
    exact isWord_of_singleName read
  · split at h
    · exact (fits_of_readCreateTable h).mono inside
    · cases h

theorem fits_of_readInsert {text : Text} {plan : Plan} (h : readInsert text = .ok plan) :
    plan.Fits text := by
  rw [readInsert] at h
  split at h
  · rename_i lead middle list cut
    obtain ⟨shape, read⟩ := of_require_bind h
    obtain ⟨no_tab, read⟩ := of_require_bind read
    cases read
    rw [Bool.and_eq_true] at shape
    rw [List.all_eq_true] at no_tab
    refine ⟨shape.2, fun value member => ⟨?_, fun c here => ?_⟩⟩
    · simpa using no_tab value member
    · obtain ⟨part, part_member, rfl⟩ := List.mem_map.1 member
      have in_part := mem_of_mem_trim here
      have in_list := (List.mem_filter.1 (mem_of_mem_cutAt in_part part_member)).1
      have in_rest := mem_of_mem_trim ((trimEnd_initial _ _).subset (mem_of_mem_trim in_list))
      exact mem_of_mem_cutAtWords (by rw [cut]; simp) in_rest
  · cases h

theorem fits_of_readSelect {text : Text} {plan : Plan} (h : readSelect text = .ok plan) :
    plan.Fits text := by
  rw [readSelect] at h
  split at h
  · obtain ⟨-, read⟩ := of_require_bind h
    dsimp only at read
    split at read
    · cases read
      trivial
    · obtain ⟨columns, -, rfl⟩ := map_eq_ok read
      trivial
  · cases h

/-- Around what follows the first space of a trimmed line stand blanks and the text before it. -/
theorem exists_around_remainder {line rest : Text} (found : behind? ' ' (trim line) = some rest) :
    ∃ lead back, lead ++ (trim rest ++ back) = line ∧
      (∀ c ∈ lead, isBlank c = true ∨ c ∈ upTo ' ' (trim line)) ∧
      ∀ c ∈ back, isBlank c = true := by
  obtain ⟨front, back, whole, front_blank, back_blank⟩ := exists_trimmed line
  obtain ⟨inner, last, rest_whole, inner_blank, last_blank⟩ := exists_trimmed rest
  refine ⟨front ++ (upTo ' ' (trim line) ++ ' ' :: inner), last ++ back, ?_, fun c member => ?_,
    fun c member => ?_⟩
  · calc front ++ (upTo ' ' (trim line) ++ ' ' :: inner) ++ (trim rest ++ (last ++ back))
      _ = front ++ (upTo ' ' (trim line) ++ ' ' :: (inner ++ (trim rest ++ last)) ++ back) := by
          simp only [List.append_assoc, List.cons_append]
      _ = line := by rw [rest_whole, upTo_append_behind found, whole]
  · rcases List.mem_append.1 member with here | here
    · exact .inl (front_blank c here)
    · rcases List.mem_append.1 here with here | here
      · exact .inr here
      · rcases List.mem_cons.1 here with rfl | here
        · exact .inl (by decide)
        · exact .inl (inner_blank c here)
  · exact (List.mem_append.1 member).elim (last_blank c) (back_blank c)

/-- A plan is read from what follows the opening word: before it stand blanks and the word, and
blanks behind it. -/
theorem exists_remainder_of_read {line : Text} {plan : Plan} (h : Plan.read line = .ok plan) :
    ∃ opening lead part back, lead ++ (part ++ back) = line ∧ readAfter opening part = .ok plan ∧
      Opening.ofWord? (upTo ' ' (trim line)) = some opening ∧
      (∀ c ∈ lead, isBlank c = true ∨ c ∈ upTo ' ' (trim line)) ∧
      ∀ c ∈ back, isBlank c = true := by
  rw [read] at h
  split at h
  · cases h
  · dsimp only at h
    split at h
    · cases h
    · rename_i opening spelled
      split at h
      · cases h
      · rename_i some_more
        cases found : behind? ' ' (trim line) with
        | none =>
            rw [behind, found] at some_more
            exact absurd rfl some_more
        | some rest =>
            rw [behind, found, Option.getD_some] at h
            obtain ⟨lead, back, whole, lead_chars, back_blank⟩ := exists_around_remainder found
            exact ⟨opening, lead, trim rest, back, whole, h, spelled, lead_chars, back_blank⟩

/-- What follows the opening word is a part of the line. -/
theorem exists_part_of_read {line : Text} {plan : Plan} (h : Plan.read line = .ok plan) :
    ∃ opening part, readAfter opening part = .ok plan ∧ ∀ c ∈ part, c ∈ line := by
  obtain ⟨opening, lead, part, back, rfl, read, -⟩ := exists_remainder_of_read h
  exact ⟨opening, part, read, fun c member =>
    List.mem_append_right _ (List.mem_append_left _ member)⟩

/-- The plan of a line fits the line. -/
theorem fits_of_read {line : Text} {plan : Plan} (h : Plan.read line = .ok plan) :
    plan.Fits line := by
  obtain ⟨opening, part, read, inside⟩ := exists_part_of_read h
  refine Fits.mono inside ?_
  cases opening with
  | create => exact fits_of_readCreate read
  | use => exact fits_of_readUse read
  | insert => exact fits_of_readInsert read
  | select => exact fits_of_readSelect read

/-! ## Selecting everything -/

/-- The line that asks for all columns of a table. -/
def selectAll (table : Text) : Text := "SELECT * FROM ".toList ++ table

section SelectAll

variable {table : Text}

theorem stripTerminator_of_last {text : Text}
    (first : ∀ c, text.head? = some c → isBlank c = false)
    (last : ∀ c, text.getLast? = some c → isNameChar c = true) : stripTerminator text = text := by
  have ink : ∀ c, text.getLast? = some c → isBlank c = false := fun c here =>
    not_isBlank_of_isNameChar (last c here)
  have no_terminator : ∀ c, text.getLast? = some c → decide (c = ';') = false := fun c here =>
    decide_eq_false (ne_semicolon_of_isNameChar (last c here))
  rw [stripTerminator, trim_of_ends first ink, trimEnd_of_last no_terminator,
    trim_of_ends first ink]

theorem getLast?_append_name (plain : IsPlainName table) (front : Text) {c : Char}
    (last : (front ++ table).getLast? = some c) : isNameChar c = true := by
  rw [List.getLast?_append, List.getLast?_eq_some_getLast plain.1, Option.some_or,
    Option.some.injEq] at last
  rw [← last]
  exact plain.2 _ (List.getLast_mem plain.1)

theorem stripTerminator_of_name (plain : IsPlainName table) : stripTerminator table = table :=
  stripTerminator_of_last
    (fun _ first => not_isBlank_of_isNameChar (plain.2 _ (List.mem_of_head? first)))
    (fun _ last => plain.2 _ (List.mem_of_getLast? last))

theorem cutAtWords_selectAll (apart : ¬"FROM".toList <:+: table) :
    cutAtWords selectWords 0 ("* FROM ".toList ++ table) = ["* ".toList, ' ' :: table] := by
  have absent : ∀ word ∈ selectWords, ¬word <:+: ' ' :: table := by
    intro word member inside
    rw [List.mem_singleton.1 member, List.infix_cons_iff] at inside
    rcases inside with ⟨rest, begins⟩ | inside
    · cases begins
    · exact apart inside
  have step : cutAtWords selectWords 0 ("* FROM ".toList ++ table) =
      consHead '*' (consHead ' ' ([] :: cutAtWords selectWords 0 (' ' :: table))) := rfl
  rw [step, cutAtWords_of_absent absent]
  rfl

theorem readSelect_selectAll (plain : IsPlainName table) (apart : ¬"FROM".toList <:+: table) :
    readSelect ("* FROM ".toList ++ table) = .ok (.select table none []) := by
  have projection : trim "* ".toList = ['*'] := by decide
  have target : stripTerminator (' ' :: table) = table := by
    rw [stripTerminator, trim_cons_of_isBlank (by decide)]
    exact stripTerminator_of_name plain
  have ink : ∀ c ∈ table, isBlank c = false := fun c member =>
    not_isBlank_of_isNameChar (plain.2 c member)
  have no_terminator : trimEnd (fun c => decide (c = ';')) table = table :=
    trimEnd_of_forall fun c member =>
      decide_eq_false (ne_semicolon_of_isNameChar (plain.2 c member))
  have some_char : table.isEmpty = false := by
    rw [List.isEmpty_eq_false_iff]
    exact plain.1
  rw [readSelect, cutAtWords_selectAll apart]
  dsimp only
  rw [projection, target, firstWord_of_forall ink, afterFirstWord_of_forall ink, no_terminator,
    some_char]
  rfl

/-- A selection of all columns is read as what it says, unless the name of the table holds the
keyword. -/
theorem read_selectAll (plain : IsPlainName table) (apart : ¬"FROM".toList <:+: table) :
    Plan.read (selectAll table) = .ok (.select table none []) := by
  have last (front : Text) : ∀ c, (front ++ table).getLast? = some c → isNameChar c = true :=
    fun c => getLast?_append_name plain front
  have ink (front : Text) : ∀ c, (front ++ table).getLast? = some c → isBlank c = false :=
    fun c here => not_isBlank_of_isNameChar (last front c here)
  have trimmed : trim (selectAll table) = selectAll table :=
    trim_of_ends (by rintro c ⟨⟩; decide) (ink _)
  have first_star : ∀ c, ("* FROM ".toList ++ table).head? = some c → isBlank c = false := by
    rintro c ⟨⟩
    decide
  have rest : trim (behind ' ' (selectAll table)) = "* FROM ".toList ++ table :=
    trim_of_ends first_star (ink _)
  have some_more : (stripTerminator ("* FROM ".toList ++ table)).isEmpty = false := by
    rw [stripTerminator_of_last first_star (last _)]
    rfl
  have some_char : (selectAll table).isEmpty = false := rfl
  have verb : upTo ' ' (selectAll table) = "SELECT".toList := rfl
  have opening : Opening.ofWord? "SELECT".toList = some .select := by decide
  rw [read, trimmed, some_char]
  dsimp only
  rw [verb, opening, rest]
  dsimp only
  rw [some_more]
  exact readSelect_selectAll plain apart

end SelectAll

end Plan
end FlatStore
