import FlatStore.Proofs.Keywords
import FlatStore.Proofs.TableFile

/-!
# Lists of entries

Entries are written with a comma between neighbours and spaces around each.  Cut at the commas and
trimmed, the list gives the entries back, and a keyword occurs in it only inside an entry.
-/

namespace FlatStore
namespace Text

/-- A number of spaces. -/
def spaces (n : Nat) : Text := List.replicate n ' '

/-- Spaces, at least one of them. -/
def gap (n : Nat) : Text := ' ' :: spaces n

/-- The text lists the entries: a comma between neighbours, and each entry with spaces around it and
written in one of the ways that are given for it. -/
inductive Listed (Written : Text → Text → Prop) : List Text → Text → Prop
  | single {entry text : Text} (before after : Nat) (written : Written entry text) :
      Listed Written [entry] (spaces before ++ (text ++ spaces after))
  | cons {entry text list : Text} {entries : List Text} (before after : Nat)
      (written : Written entry text) (rest : Listed Written entries list) :
      Listed Written (entry :: entries) (spaces before ++ (text ++ (spaces after ++ ',' :: list)))

/-! ## Spaces -/

theorem eq_space_of_mem_spaces {n : Nat} {c : Char} (member : c ∈ spaces n) : c = ' ' :=
  List.eq_of_mem_replicate member

theorem isBlank_of_mem_spaces {n : Nat} : ∀ c ∈ spaces n, isBlank c = true := fun c member => by
  rw [eq_space_of_mem_spaces member]
  decide

theorem isBlank_of_mem_gap {n : Nat} : ∀ c ∈ gap n, isBlank c = true :=
  isBlank_of_mem_spaces (n := n + 1)

theorem isUpper_of_mem_spaces {n : Nat} : ∀ c ∈ spaces n, c.isUpper = false := fun c member => by
  rw [eq_space_of_mem_spaces member]
  decide

theorem isUpper_of_mem_gap {n : Nat} : ∀ c ∈ gap n, c.isUpper = false :=
  isUpper_of_mem_spaces (n := n + 1)

theorem gap_eq_spaces (n : Nat) : gap n = spaces (n + 1) := rfl

/-- Spaces around a text are trimmed. -/
theorem trim_spaces_append (n m : Nat) (text : Text) :
    trim (spaces n ++ (text ++ spaces m)) = trim text := by
  rw [trim_blank_append isBlank_of_mem_spaces, trim_append_blank isBlank_of_mem_spaces]

/-! ## Cuts at commas -/

/-- Blanks in front belong to the first part. -/
theorem map_trim_cutAt_blank_append {lead : Text} (blank : ∀ c ∈ lead, isBlank c = true)
    (text : Text) : (cutAt ',' (lead ++ text)).map trim = (cutAt ',' text).map trim := by
  induction lead with
  | nil => rfl
  | cons c lead ih =>
      have here := blank c List.mem_cons_self
      have no_comma : c ≠ ',' := by
        rintro rfl
        cases here
      obtain ⟨part, parts, cut⟩ := List.exists_cons_of_ne_nil (cutAt_ne_nil ',' (lead ++ text))
      have later := ih fun d member => blank d (List.mem_cons_of_mem _ member)
      rw [cut] at later
      rw [List.cons_append, cutAt, if_neg no_comma, cut, consHead_cons, List.map_cons,
        trim_cons_of_isBlank here, ← later, List.map_cons]

/-- A text behind without commas belongs to the last part. -/
theorem exists_last_part {back : Text} (absent : ',' ∉ back) (text : Text) :
    ∃ parts last, cutAt ',' text = parts ++ [last] ∧
      cutAt ',' (text ++ back) = parts ++ [last ++ back] := by
  induction text with
  | nil => exact ⟨[], [], rfl, cutAt_of_not_mem absent⟩
  | cons c text ih =>
      obtain ⟨parts, last, cut, longer⟩ := ih
      by_cases comma : c = ','
      · refine ⟨[] :: parts, last, ?_, ?_⟩
        · rw [cutAt, if_pos comma, cut]
          rfl
        · rw [List.cons_append, cutAt, if_pos comma, longer]
          rfl
      · cases parts with
        | nil =>
            refine ⟨[], c :: last, ?_, ?_⟩
            · rw [cutAt, if_neg comma, cut]
              rfl
            · rw [List.cons_append, cutAt, if_neg comma, longer]
              rfl
        | cons first parts =>
            refine ⟨(c :: first) :: parts, last, ?_, ?_⟩
            · rw [cutAt, if_neg comma, cut]
              rfl
            · rw [List.cons_append, cutAt, if_neg comma, longer]
              rfl

theorem comma_not_mem_of_blank {text : Text} (blank : ∀ c ∈ text, isBlank c = true) :
    ',' ∉ text := fun member => by
  have impossible := blank _ member
  cases impossible

/-- Blanks behind belong to the last part. -/
theorem map_trim_cutAt_append_blank {back : Text} (blank : ∀ c ∈ back, isBlank c = true)
    (text : Text) : (cutAt ',' (text ++ back)).map trim = (cutAt ',' text).map trim := by
  obtain ⟨parts, last, cut, longer⟩ := exists_last_part (comma_not_mem_of_blank blank) text
  rw [cut, longer, List.map_append, List.map_append, List.map_singleton, List.map_singleton,
    trim_append_blank blank]

theorem map_trim_cutAt_trimStart (text : Text) :
    (cutAt ',' (trimStart isBlank text)).map trim = (cutAt ',' text).map trim := by
  have whole : text.takeWhile isBlank ++ trimStart isBlank text = text :=
    List.takeWhile_append_dropWhile
  conv_rhs => rw [← whole]
  rw [map_trim_cutAt_blank_append fun _ => List.mem_takeWhile_imp]

/-- The entries of a list do not depend on the blanks around it. -/
theorem map_trim_cutAt_trim (text : Text) :
    (cutAt ',' (trim text)).map trim = (cutAt ',' text).map trim := by
  obtain ⟨front, back, whole, front_blank, back_blank⟩ := exists_trimmed text
  conv_rhs => rw [← whole]
  rw [map_trim_cutAt_blank_append front_blank, map_trim_cutAt_append_blank back_blank]

/-! ## Lists -/

section Lists

variable {Written : Text → Text → Prop} {words entries : List Text} {list : Text}

/-- A list without some of its characters is a list of the same entries, written without them. -/
theorem Listed.filter (keep : Char → Bool) (space : keep ' ' = true) (comma : keep ',' = true)
    (same : ∀ entry text, Written entry text → entry ∈ entries → text.filter keep = entry)
    (listed : Listed Written entries list) : Listed Eq entries (list.filter keep) := by
  have spaces_kept (n : Nat) : (spaces n).filter keep = spaces n := List.filter_eq_self.2
    fun c member => by rw [eq_space_of_mem_spaces member, space]
  induction listed with
  | single before after written =>
      rw [List.filter_append, List.filter_append, spaces_kept, spaces_kept,
        same _ _ written List.mem_cons_self]
      exact .single before after rfl
  | cons before after written rest ih =>
      rw [List.filter_append, List.filter_append, List.filter_append, List.filter_cons_of_pos comma,
        spaces_kept, spaces_kept, same _ _ written List.mem_cons_self]
      exact .cons before after rfl (ih fun entry text written member =>
        same entry text written (List.mem_cons_of_mem _ member))

/-- Entries without commas and without blanks around them are found again. -/
theorem Listed.map_trim_cutAt (no_comma : ∀ entry ∈ entries, ',' ∉ entry)
    (trimmed : ∀ entry ∈ entries, trim entry = entry) (listed : Listed Eq entries list) :
    (cutAt ',' list).map trim = entries := by
  have absent {entry : Text} (before after : Nat) (no_comma : ',' ∉ entry) :
      ',' ∉ spaces before ++ (entry ++ spaces after) := by
    rw [List.mem_append, List.mem_append, not_or, not_or]
    exact ⟨comma_not_mem_of_blank isBlank_of_mem_spaces, no_comma,
      comma_not_mem_of_blank isBlank_of_mem_spaces⟩
  induction listed with
  | single before after written =>
      subst written
      rw [cutAt_of_not_mem (absent before after (no_comma _ List.mem_cons_self)),
        List.map_singleton, trim_spaces_append, trimmed _ List.mem_cons_self]
  | @cons entry _ list entries before after written rest ih =>
      subst written
      have whole : spaces before ++ (entry ++ (spaces after ++ ',' :: list)) =
          spaces before ++ (entry ++ spaces after) ++ ',' :: list := by
        simp only [List.append_assoc]
      have later := ih (fun entry member => no_comma entry (List.mem_cons_of_mem _ member))
        fun entry member => trimmed entry (List.mem_cons_of_mem _ member)
      rw [whole, cutAt_append (absent before after (no_comma _ List.mem_cons_self)), List.map_cons,
        later, trim_spaces_append, trimmed _ List.mem_cons_self]

/-- Characters that are no capitals occur in no keyword. -/
theorem apart_of_not_isUpper (gap : Text) (letters : ∀ word ∈ words, word.all Char.isUpper = true)
    (none_upper : ∀ c ∈ gap, c.isUpper = false) : ∀ word ∈ words, ∀ c ∈ gap, c ∉ word := by
  intro word member c here inside
  have upper := List.all_eq_true.1 (letters word member) c inside
  rw [none_upper c here] at upper
  cases upper

/-- Keywords occur in a list only inside an entry. -/
theorem Listed.lacks (some_char : [] ∉ words)
    (letters : ∀ word ∈ words, word.all Char.isUpper = true)
    (each : ∀ entry text, Written entry text → entry ∈ entries → Lacks words text)
    (listed : Listed Written entries list) : Lacks words list := by
  have spaces_apart (n : Nat) := apart_of_not_isUpper (spaces n) letters isUpper_of_mem_spaces
  induction listed with
  | single before after written =>
      rw [lacks_gap_append_iff some_char (spaces_apart before)]
      exact (each _ _ written List.mem_cons_self).append_gap some_char (spaces_apart after)
  | @cons entry text list entries before after written rest ih =>
      have comma_apart := apart_of_not_isUpper (spaces after ++ [',']) letters
        fun c here => by
          rcases List.mem_append.1 here with here | here
          · exact isUpper_of_mem_spaces c here
          · rw [List.mem_singleton.1 here]
            decide
      have some_gap : spaces after ++ [','] ≠ [] := List.append_ne_nil_of_right_ne_nil _ (by simp)
      have later := ih fun entry text written member =>
        each entry text written (List.mem_cons_of_mem _ member)
      rw [lacks_gap_append_iff some_char (spaces_apart before), List.append_cons (spaces after),
        lacks_append_gap_iff some_char some_gap comma_apart]
      exact ⟨each _ _ written List.mem_cons_self, later⟩

end Lists

end Text
end FlatStore
