import FlatStore.Text.Utf8

/-!
# Decoding inverts encoding

The octets of a text decode to the text, and whatever decodes to a text is its octets, up to an
unfinished sequence at the end.  So the texts of the files are exactly the encoded ones, and every
beginning of an encoded text decodes.
-/

namespace FlatStore
namespace Utf8

/-- Put a text in front of what is decoded. -/
def Decoded.prepend (text : Text) : Decoded → Decoded
  | .chars rest unfinished => .chars (text ++ rest) unfinished
  | .failed failure => .failed failure

@[simp]
theorem Decoded.prepend_nil (decoded : Decoded) : decoded.prepend [] = decoded := by
  cases decoded <;> rfl

@[simp]
theorem Decoded.cons_prepend (c : Char) (text : Text) (decoded : Decoded) :
    (decoded.prepend text).cons c = decoded.prepend (c :: text) := by
  cases decoded <;> rfl

theorem Decoded.cons_eq_chars {c : Char} {decoded : Decoded} {text : Text} {unfinished : Octets}
    (h : decoded.cons c = .chars text unfinished) :
    ∃ rest, text = c :: rest ∧ decoded = .chars rest unfinished := by
  cases decoded with
  | failed => cases h
  | chars rest left =>
      cases h
      exact ⟨rest, rfl, rfl⟩

/-! ## Lead octets -/

theorem lead?_one {a : UInt8} (h : a.toNat < 0x80) : lead? a = some ⟨a.toNat, 0, 0, 0⟩ := by
  simp [lead?, h]

theorem lead?_two {a : UInt8} (low : 0xC2 ≤ a.toNat) (high : a.toNat < 0xE0) :
    lead? a = some ⟨a.toNat - 0xC0, 1, 0x80, 0xBF⟩ := by
  simp [lead?, show ¬a.toNat < 0x80 by omega, show ¬a.toNat < 0xC2 by omega, high]

theorem lead?_three {a : UInt8} (low : 0xE0 ≤ a.toNat) (high : a.toNat < 0xF0) :
    lead? a = some ⟨a.toNat - 0xE0, 2, if a.toNat = 0xE0 then 0xA0 else 0x80,
      if a.toNat = 0xED then 0x9F else 0xBF⟩ := by
  simp [lead?, show ¬a.toNat < 0x80 by omega, show ¬a.toNat < 0xC2 by omega,
    show ¬a.toNat < 0xE0 by omega, high]

theorem lead?_four {a : UInt8} (low : 0xF0 ≤ a.toNat) (high : a.toNat < 0xF5) :
    lead? a = some ⟨a.toNat - 0xF0, 3, if a.toNat = 0xF0 then 0x90 else 0x80,
      if a.toNat = 0xF4 then 0x8F else 0xBF⟩ := by
  simp [lead?, show ¬a.toNat < 0x80 by omega, show ¬a.toNat < 0xC2 by omega,
    show ¬a.toNat < 0xE0 by omega, show ¬a.toNat < 0xF0 by omega, high]

/-- A lead octet opens a sequence of one to four octets. -/
theorem lead?_ranges {a : UInt8} {lead : Lead} (h : lead? a = some lead) :
    a.toNat < 0x80 ∨ (0xC2 ≤ a.toNat ∧ a.toNat < 0xE0) ∨ (0xE0 ≤ a.toNat ∧ a.toNat < 0xF0) ∨
      (0xF0 ≤ a.toNat ∧ a.toNat < 0xF5) := by
  simp only [lead?] at h
  grind

/-! ## Sequences that are characters -/

/-- The octets make one character of the given value: the lead octet restricts the one after it. -/
inductive Sequence : Octets → Nat → Prop
  | one {a : UInt8} {value : Nat} (fits : a.toNat < 0x80) (sum : value = a.toNat) :
      Sequence [a] value
  | two {a b : UInt8} {value : Nat} (low : 0xC2 ≤ a.toNat) (high : a.toNat < 0xE0)
      (low₂ : 0x80 ≤ b.toNat) (high₂ : b.toNat ≤ 0xBF)
      (sum : value = (a.toNat - 0xC0) * 64 + (b.toNat - 0x80)) : Sequence [a, b] value
  | three {a b c : UInt8} {value : Nat} (low : 0xE0 ≤ a.toNat) (high : a.toNat < 0xF0)
      (low₂ : 0x80 ≤ b.toNat) (high₂ : b.toNat ≤ 0xBF)
      (overlong : a.toNat = 0xE0 → 0xA0 ≤ b.toNat) (surrogate : a.toNat = 0xED → b.toNat ≤ 0x9F)
      (low₃ : 0x80 ≤ c.toNat) (high₃ : c.toNat ≤ 0xBF)
      (sum : value = ((a.toNat - 0xE0) * 64 + (b.toNat - 0x80)) * 64 + (c.toNat - 0x80)) :
      Sequence [a, b, c] value
  | four {a b c d : UInt8} {value : Nat} (low : 0xF0 ≤ a.toNat) (high : a.toNat < 0xF5)
      (low₂ : 0x80 ≤ b.toNat) (high₂ : b.toNat ≤ 0xBF)
      (overlong : a.toNat = 0xF0 → 0x90 ≤ b.toNat) (beyond : a.toNat = 0xF4 → b.toNat ≤ 0x8F)
      (low₃ : 0x80 ≤ c.toNat) (high₃ : c.toNat ≤ 0xBF)
      (low₄ : 0x80 ≤ d.toNat) (high₄ : d.toNat ≤ 0xBF)
      (sum : value = (((a.toNat - 0xF0) * 64 + (b.toNat - 0x80)) * 64 + (c.toNat - 0x80)) * 64
        + (d.toNat - 0x80)) : Sequence [a, b, c, d] value

theorem decodeFrom_lead {octet : UInt8} {bits more low high : Nat}
    (found : lead? octet = some ⟨bits, more + 1, low, high⟩) (position : Nat) (rest : Octets) :
    decodeFrom position none (octet :: rest) =
      decodeFrom (position + 1) (some ⟨[octet], ⟨bits, more + 1, low, high⟩⟩) rest := by
  rw [decodeFrom, found]
  rfl

theorem accepts_of_le {bits more low high : Nat} {octet : UInt8} (above : low ≤ octet.toNat)
    (below : octet.toNat ≤ high) : (Lead.mk bits more low high).accepts octet = true := by
  rw [Lead.accepts, Bool.and_eq_true, decide_eq_true_eq, decide_eq_true_eq]
  exact ⟨above, below⟩

theorem decodeFrom_inner {bits more low high : Nat} {octet : UInt8} (above : low ≤ octet.toNat)
    (below : octet.toNat ≤ high) (inner : more ≠ 0) (position : Nat) (octets rest : Octets) :
    decodeFrom position (some ⟨octets, ⟨bits, more + 1, low, high⟩⟩) (octet :: rest) =
      decodeFrom (position + 1)
        (some ⟨octets ++ [octet], ⟨bits * 64 + (octet.toNat - 0x80), more, 0x80, 0xBF⟩⟩) rest := by
  rw [decodeFrom, if_pos (accepts_of_le above below)]
  exact if_neg inner

theorem decodeFrom_last {bits low high : Nat} {octet : UInt8} (above : low ≤ octet.toNat)
    (below : octet.toNat ≤ high) (position : Nat) (octets rest : Octets) :
    decodeFrom position (some ⟨octets, ⟨bits, 1, low, high⟩⟩) (octet :: rest) =
      (decodeFrom (position + 1) none rest).cons
        (Char.ofNat (bits * 64 + (octet.toNat - 0x80))) := by
  rw [decodeFrom, if_pos (accepts_of_le above below)]
  rfl

/-- A sequence is decoded as a whole, whatever follows it. -/
theorem Sequence.decodeFrom {octets : Octets} {value : Nat} (sequence : Sequence octets value)
    (position : Nat) (rest : Octets) :
    decodeFrom position none (octets ++ rest) =
      (Utf8.decodeFrom (position + octets.length) none rest).cons (Char.ofNat value) := by
  cases sequence with
  | one fits sum =>
      rw [List.cons_append, Utf8.decodeFrom, lead?_one fits, sum]
      rfl
  | two low high low₂ high₂ sum =>
      simp only [List.cons_append, List.nil_append, sum]
      rw [decodeFrom_lead (lead?_two low high), decodeFrom_last low₂ high₂]
      rfl
  | @three a b _ _ low high low₂ high₂ overlong surrogate low₃ high₃ sum =>
      have above : (if a.toNat = 0xE0 then 0xA0 else 0x80) ≤ b.toNat := by split <;> omega
      have below : b.toNat ≤ (if a.toNat = 0xED then 0x9F else 0xBF) := by split <;> omega
      simp only [List.cons_append, List.nil_append, sum]
      rw [decodeFrom_lead (lead?_three low high), decodeFrom_inner above below (by decide),
        decodeFrom_last low₃ high₃]
      rfl
  | @four a b _ _ _ low high low₂ high₂ overlong beyond low₃ high₃ low₄ high₄ sum =>
      have above : (if a.toNat = 0xF0 then 0x90 else 0x80) ≤ b.toNat := by split <;> omega
      have below : b.toNat ≤ (if a.toNat = 0xF4 then 0x8F else 0xBF) := by split <;> omega
      simp only [List.cons_append, List.nil_append, sum]
      rw [decodeFrom_lead (lead?_four low high), decodeFrom_inner above below (by decide),
        decodeFrom_inner low₃ high₃ (by decide), decodeFrom_last low₄ high₄]
      rfl

theorem Sequence.valid {octets : Octets} {value : Nat} (sequence : Sequence octets value) :
    value.isValidChar := by
  rw [Nat.isValidChar]
  cases sequence <;> omega

theorem toNat_ofNat_of_isValidChar {n : Nat} (h : n.isValidChar) : (Char.ofNat n).toNat = n := by
  rw [Char.ofNat, dif_pos h]
  rfl

theorem ofNat_eq_of_eq_toNat (octet : UInt8) {n : Nat} (h : n = octet.toNat) :
    UInt8.ofNat n = octet := by
  rw [h, UInt8.ofNat_toNat]

/-- A sequence is what its character is encoded as. -/
theorem Sequence.encodeChar {octets : Octets} {value : Nat} (sequence : Sequence octets value) :
    encodeChar (Char.ofNat value) = octets := by
  simp only [Utf8.encodeChar, toNat_ofNat_of_isValidChar sequence.valid]
  cases sequence with
  | @one a _ fits sum =>
      rw [if_pos (by omega), ofNat_eq_of_eq_toNat a sum]
  | @two a b _ low high low₂ high₂ sum =>
      rw [if_neg (by omega), if_pos (by omega), ofNat_eq_of_eq_toNat a (by omega),
        ofNat_eq_of_eq_toNat b (by omega)]
  | @three a b c =>
      rw [if_neg (by omega), if_neg (by omega), if_pos (by omega),
        ofNat_eq_of_eq_toNat a (by omega), ofNat_eq_of_eq_toNat b (by omega),
        ofNat_eq_of_eq_toNat c (by omega)]
  | @four a b c d =>
      rw [if_neg (by omega), if_neg (by omega), if_neg (by omega),
        ofNat_eq_of_eq_toNat a (by omega), ofNat_eq_of_eq_toNat b (by omega),
        ofNat_eq_of_eq_toNat c (by omega), ofNat_eq_of_eq_toNat d (by omega)]

/-- The octets of a character are a sequence of its value. -/
theorem sequence_encodeChar (c : Char) : Sequence (encodeChar c) c.toNat := by
  have valid : c.toNat < 0xD800 ∨ (0xDFFF < c.toNat ∧ c.toNat < 0x110000) := c.valid
  have octet {n : Nat} (h : n < 256) : (UInt8.ofNat n).toNat = n := UInt8.toNat_ofNat_of_lt' h
  simp only [Utf8.encodeChar]
  generalize c.toNat = n at valid
  split
  · apply Sequence.one <;> simp (disch := omega) only [octet]
    omega
  split
  · apply Sequence.two <;> simp (disch := omega) only [octet] <;> omega
  split
  · apply Sequence.three <;> simp (disch := omega) only [octet] <;> omega
  · apply Sequence.four <;> simp (disch := omega) only [octet] <;> omega

/-! ## Whole texts -/

/-- The octets of a text decode to the text, whatever follows them. -/
theorem decodeFrom_encode_append (position : Nat) (text : Text) (rest : Octets) :
    decodeFrom position none (encode text ++ rest) =
      (decodeFrom (position + (encode text).length) none rest).prepend text := by
  induction text generalizing position with
  | nil => simp
  | cons c text ih =>
      rw [encode_cons, List.append_assoc, (sequence_encodeChar c).decodeFrom, ih,
        Char.ofNat_toNat, Decoded.cons_prepend, List.length_append, Nat.add_assoc]

@[simp]
theorem decode_encode (text : Text) : decode (encode text) = .chars text [] := by
  have h := decodeFrom_encode_append 0 text []
  rw [List.append_nil] at h
  rw [decode, h]
  simp [decodeFrom, Decoded.prepend]

/-- A sequence under way stays unfinished or is continued by an accepted octet. -/
theorem pending_chars {position : Nat} {octets rest unfinished : Octets} {lead : Lead}
    {text : Text} (h : decodeFrom position (some ⟨octets, lead⟩) rest = .chars text unfinished) :
    (text = [] ∧ unfinished = octets ++ rest) ∨
      ∃ octet tail, rest = octet :: tail ∧ lead.low ≤ octet.toNat ∧ octet.toNat ≤ lead.high := by
  cases rest with
  | nil =>
      rw [decodeFrom] at h
      cases h
      exact .inl ⟨rfl, (List.append_nil _).symm⟩
  | cons octet tail =>
      by_cases accepted : lead.accepts octet = true
      · rw [Lead.accepts, Bool.and_eq_true, decide_eq_true_eq, decide_eq_true_eq] at accepted
        exact .inr ⟨octet, tail, rfl, accepted⟩
      · rw [decodeFrom, if_neg accepted] at h
        split at h
        · rename_i last
          rw [Bool.and_eq_true, List.isEmpty_iff] at last
          cases h
          exact .inl ⟨rfl, by rw [last.1]⟩
        · cases h

/-- What decodes without failing is unfinished as a whole or begins with a sequence. -/
theorem begins_of_decodeFrom {position : Nat} {octets unfinished : Octets} {text : Text}
    (h : decodeFrom position none octets = .chars text unfinished) :
    (text = [] ∧ unfinished = octets) ∨
      ∃ first value rest, Sequence first value ∧ octets = first ++ rest := by
  cases octets with
  | nil =>
      rw [decodeFrom] at h
      cases h
      exact .inl ⟨rfl, rfl⟩
  | cons a rest =>
      cases found : lead? a with
      | none => simp [decodeFrom, found] at h
      | some lead =>
          rcases lead?_ranges found with fits | ⟨low, high⟩ | ⟨low, high⟩ | ⟨low, high⟩
          · exact .inr ⟨[a], _, rest, .one fits rfl, rfl⟩
          · rw [decodeFrom_lead (lead?_two low high)] at h
            obtain whole | ⟨b, rest, rfl, low₂, high₂⟩ := pending_chars h
            · exact .inl whole
            · exact .inr ⟨[a, b], _, rest, .two low high low₂ high₂ rfl, rfl⟩
          · rw [decodeFrom_lead (lead?_three low high)] at h
            obtain whole | ⟨b, rest, rfl, low₂, high₂⟩ := pending_chars h
            · exact .inl whole
            rw [decodeFrom_inner low₂ high₂ (by decide)] at h
            obtain whole | ⟨c, rest, rfl, low₃, high₃⟩ := pending_chars h
            · exact .inl whole
            dsimp only at low₂ high₂
            exact .inr ⟨[a, b, c], _, rest, .three low high (by split at low₂ <;> omega)
              (by split at high₂ <;> omega) (by grind) (by grind) low₃ high₃ rfl, rfl⟩
          · rw [decodeFrom_lead (lead?_four low high)] at h
            obtain whole | ⟨b, rest, rfl, low₂, high₂⟩ := pending_chars h
            · exact .inl whole
            rw [decodeFrom_inner low₂ high₂ (by decide)] at h
            obtain whole | ⟨c, rest, rfl, low₃, high₃⟩ := pending_chars h
            · exact .inl whole
            rw [decodeFrom_inner low₃ high₃ (by decide)] at h
            obtain whole | ⟨d, rest, rfl, low₄, high₄⟩ := pending_chars h
            · exact .inl whole
            dsimp only at low₂ high₂
            exact .inr ⟨[a, b, c, d], _, rest, .four low high (by split at low₂ <;> omega)
              (by split at high₂ <;> omega) (by grind) (by grind) low₃ high₃ low₄ high₄ rfl, rfl⟩

theorem Sequence.length_pos {octets : Octets} {value : Nat} (sequence : Sequence octets value) :
    0 < octets.length := by
  cases sequence <;> exact Nat.succ_pos _

/-- What decodes to a text is its octets and what is left unfinished. -/
theorem eq_encode_of_decodeFrom {position : Nat} {octets unfinished : Octets} {text : Text}
    (h : decodeFrom position none octets = .chars text unfinished) :
    octets = encode text ++ unfinished := by
  obtain ⟨rfl, rfl⟩ | ⟨first, value, rest, sequence, rfl⟩ := begins_of_decodeFrom h
  · rfl
  · rw [sequence.decodeFrom] at h
    obtain ⟨tail, rfl, decoded⟩ := Decoded.cons_eq_chars h
    have shorter : rest.length < (first ++ rest).length := by
      have := sequence.length_pos
      rw [List.length_append]
      omega
    rw [eq_encode_of_decodeFrom decoded, encode_cons, sequence.encodeChar, List.append_assoc]
termination_by octets.length

theorem Decoded.exists_cons_eq_chars {c : Char} {decoded : Decoded}
    (h : ∃ text unfinished, decoded = .chars text unfinished) :
    ∃ text unfinished, decoded.cons c = .chars text unfinished := by
  obtain ⟨text, unfinished, rfl⟩ := h
  exact ⟨c :: text, unfinished, rfl⟩

/-- Octets decode if they can be continued so that they do. -/
theorem exists_chars_of_append {position : Nat} {pending : Option Partial}
    {octets rest unfinished : Octets} {text : Text}
    (h : decodeFrom position pending (octets ++ rest) = .chars text unfinished) :
    ∃ text unfinished, decodeFrom position pending octets = .chars text unfinished := by
  -- The induction follows the decoder; each octet is read in the same way with the rest behind it.
  fun_induction decodeFrom position pending octets generalizing text with
  | case1 => exact ⟨_, _, rfl⟩
  | case2 => exact ⟨_, _, rfl⟩
  | case3 position octet tail found =>
      rw [List.cons_append, decodeFrom, found] at h
      cases h
  | case4 position octet tail lead found single ih =>
      rw [List.cons_append, decodeFrom, found] at h
      dsimp only at h
      rw [if_pos single] at h
      obtain ⟨text, rfl, decoded⟩ := Decoded.cons_eq_chars h
      exact Decoded.exists_cons_eq_chars (ih decoded)
  | case5 position octet tail lead found more ih =>
      rw [List.cons_append, decodeFrom, found] at h
      dsimp only at h
      rw [if_neg more] at h
      exact ih h
  | case6 position octets lead octet tail accepted next last =>
      rename_i ih
      rw [List.cons_append, decodeFrom, if_pos accepted] at h
      dsimp only at h
      rw [if_pos last] at h
      obtain ⟨text, rfl, decoded⟩ := Decoded.cons_eq_chars h
      exact Decoded.exists_cons_eq_chars (ih decoded)
  | case7 position octets lead octet tail accepted next inner =>
      rename_i ih
      rw [List.cons_append, decodeFrom, if_pos accepted] at h
      dsimp only at h
      rw [if_neg inner] at h
      exact ih h
  | case8 => exact ⟨_, _, rfl⟩
  | case9 position octets lead octet tail refused notLast =>
      have goesOn : ¬((tail ++ rest).isEmpty && opensSurrogate octets octet) = true := by
        intro last
        rw [Bool.and_eq_true, List.isEmpty_iff, List.append_eq_nil_iff] at last
        exact notLast (by simp [last.1.1, last.2])
      rw [List.cons_append, decodeFrom, if_neg refused, if_neg goesOn] at h
      cases h

/-- The octets are the beginning of a character, or nothing. -/
def Unfinished (octets : Octets) : Prop :=
  ∃ position, decodeFrom position none octets = .chars [] octets

theorem unfinished_nil : Unfinished [] := ⟨0, rfl⟩

/-- A whole text is the beginning of a character only if it is empty. -/
theorem eq_nil_of_unfinished_encode {text : Text} (h : Unfinished (encode text)) : text = [] := by
  obtain ⟨position, decoded⟩ := h
  have whole := decodeFrom_encode_append position text []
  rw [List.append_nil, decoded, decodeFrom, Decoded.prepend, Decoded.chars.injEq] at whole
  simpa using whole.1.symm

/-- What is left behind the decoded text is the beginning of a character. -/
theorem unfinished_of_decode {octets unfinished : Octets} {text : Text}
    (h : decode octets = .chars text unfinished) : Unfinished unfinished := by
  have octets_eq := eq_encode_of_decodeFrom h
  rw [decode, octets_eq, decodeFrom_encode_append] at h
  refine ⟨0 + (encode text).length, ?_⟩
  cases tail : decodeFrom (0 + (encode text).length) none unfinished with
  | failed failure =>
      rw [tail] at h
      cases h
  | chars last left =>
      rw [tail, Decoded.prepend, Decoded.chars.injEq, List.append_right_eq_self] at h
      rw [h.1, h.2]

/-- Every beginning of an encoded text is an encoded text and the beginning of a character. -/
theorem exists_split_of_append_eq_encode {octets rest : Octets} {text : Text}
    (h : octets ++ rest = encode text) :
    ∃ first last unfinished, text = first ++ last ∧ decode octets = .chars first unfinished ∧
      unfinished ++ rest = encode last := by
  have whole : decode (octets ++ rest) = .chars text [] := by rw [h, decode_encode]
  obtain ⟨first, unfinished, decoded⟩ := exists_chars_of_append whole
  have octets_eq := eq_encode_of_decodeFrom decoded
  rw [decode, octets_eq, List.append_assoc, decodeFrom_encode_append] at whole
  cases tail : decodeFrom (0 + (encode first).length) none (unfinished ++ rest) with
  | failed failure =>
      rw [tail] at whole
      cases whole
  | chars last left =>
      rw [tail, Decoded.prepend, Decoded.chars.injEq] at whole
      obtain ⟨rfl, rfl⟩ := whole
      exact ⟨first, last, unfinished, rfl, decoded, by
        rw [eq_encode_of_decodeFrom tail, List.append_nil]⟩

end Utf8
end FlatStore
