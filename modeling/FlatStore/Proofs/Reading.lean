import FlatStore.Text.Reading
import FlatStore.Proofs.Line

/-!
# Reading whole files

A file can be read to its end exactly if it is the encoding of a text, whatever the blocks in which
it is read; the text is then what is read.
-/

namespace FlatStore
namespace Reading

/-- Reading a text from the first to the last octet. -/
def ofText (text : Text) : Reading := ⟨text, none⟩

@[simp]
theorem lines_ofText (text : Text) : (ofText text).lines = Text.lines true text := rfl

/-- The blocks of a file are the file. -/
theorem flatten_cutBlocks {fuel : Nat} {octets : Octets} (enough : octets.length ≤ fuel) :
    (cutBlocks fuel octets).flatten = octets := by
  fun_induction cutBlocks fuel octets with
  | case1 octets => simp_all
  | case2 => rfl
  | case3 fuel octets some_octet ih =>
      have some_left : 0 < octets.length := by
        rcases octets with _ | ⟨octet, rest⟩
        · exact absurd rfl some_octet
        · exact Nat.succ_pos _
      have shorter : (octets.drop blockSize).length ≤ fuel := by
        rw [List.length_drop, blockSize]
        omega
      rw [List.flatten_cons, ih shorter, List.take_append_drop]

theorem prepend_eq_ofText_iff {first text : Text} {reading : Reading} :
    reading.prepend first = ofText text ↔
      ∃ last, text = first ++ last ∧ reading = ofText last := by
  constructor
  · intro h
    rw [prepend, ofText, Reading.mk.injEq] at h
    exact ⟨reading.text, h.1.symm, by rw [ofText, ← h.2]⟩
  · rintro ⟨last, rfl, rfl⟩
    rfl

/-- Reading in blocks, behind the beginning of a character, ends well exactly if all octets
together are the encoding of a text. -/
theorem ofBlocks_eq_ofText_iff {carried : Octets} {blocks : List Octets} {text : Text}
    (unfinished : Utf8.Unfinished carried) :
    ofBlocks carried blocks = ofText text ↔ carried ++ blocks.flatten = Utf8.encode text := by
  induction blocks generalizing carried text with
  | nil =>
      rw [ofBlocks, ofText, Reading.mk.injEq, List.flatten_nil, List.append_nil]
      constructor
      · rintro ⟨rfl, none_carried⟩
        simpa using none_carried
      · rintro rfl
        rw [Utf8.eq_nil_of_unfinished_encode unfinished]
        exact ⟨rfl, rfl⟩
  | cons block blocks ih =>
      rw [ofBlocks, List.flatten_cons, ← List.append_assoc]
      constructor
      · intro read
        cases decoded : Utf8.decode (carried ++ block) with
        | failed failure =>
            rw [decoded] at read
            cases read
        | chars first left =>
            rw [decoded] at read
            obtain ⟨last, rfl, rest⟩ := prepend_eq_ofText_iff.1 read
            rw [Utf8.eq_encode_of_decodeFrom decoded, List.append_assoc,
              (ih (Utf8.unfinished_of_decode decoded)).1 rest, Utf8.encode_append]
      · intro whole
        obtain ⟨first, last, left, rfl, decoded, rest⟩ :=
          Utf8.exists_split_of_append_eq_encode whole
        rw [decoded]
        exact prepend_eq_ofText_iff.2 ⟨last, rfl, (ih (Utf8.unfinished_of_decode decoded)).2 rest⟩

/-- A file is read as a text exactly if it is the encoding of the text. -/
theorem ofOctets_eq_ofText_iff {octets : Octets} {text : Text} :
    ofOctets octets = ofText text ↔ octets = Utf8.encode text := by
  rw [ofOctets, ofBlocks_eq_ofText_iff Utf8.unfinished_nil, blocks,
    flatten_cutBlocks (Nat.le_refl _), List.nil_append]

@[simp]
theorem ofOctets_encode (text : Text) : ofOctets (Utf8.encode text) = ofText text :=
  ofOctets_eq_ofText_iff.2 rfl

/-- What can be read to its end is the encoding of a text. -/
theorem exists_text_of_failure_eq_none {octets : Octets}
    (complete : (ofOctets octets).failure = none) :
    ∃ text, octets = Utf8.encode text ∧ ofOctets octets = ofText text := by
  have read : ofOctets octets = ofText (ofOctets octets).text := by
    rw [ofText, ← complete]
  exact ⟨_, ofOctets_eq_ofText_iff.1 read, read⟩

end Reading
end FlatStore
