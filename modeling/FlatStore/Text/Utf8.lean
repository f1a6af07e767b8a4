import FlatStore.Text.Basic

/-!
# UTF-8

Encoding of texts and two ways of decoding octets.  `decode` stops at the first sequence that can
not be continued and says where and why; a sequence that merely ends too early is handed back, so
that more octets can follow.  So are the first two of the three octets of a surrogate if they are
the last ones: that they are no character is found only when it is known what follows.
`decodeReplacing` puts U+FFFD for every maximal sequence that
is no character.

A lead octet promises a number of continuation octets and restricts the first of them, which
excludes overlong forms, surrogates and values above U+10FFFF.
-/

namespace FlatStore
namespace Utf8

/-- What a lead octet promises. -/
structure Lead where
  /-- The value bits of the lead octet. -/
  bits : Nat
  /-- How many continuation octets follow. -/
  more : Nat
  /-- Least value of the next octet. -/
  low : Nat
  /-- Greatest value of the next octet. -/
  high : Nat
deriving DecidableEq, Repr

/-- The promise of an octet in the place of a lead octet. -/
def lead? (octet : UInt8) : Option Lead :=
  let n := octet.toNat
  if n < 0x80 then some ⟨n, 0, 0, 0⟩
  else if n < 0xC2 then none
  else if n < 0xE0 then some ⟨n - 0xC0, 1, 0x80, 0xBF⟩
  else if n < 0xF0 then
    some ⟨n - 0xE0, 2, if n = 0xE0 then 0xA0 else 0x80, if n = 0xED then 0x9F else 0xBF⟩
  else if n < 0xF5 then
    some ⟨n - 0xF0, 3, if n = 0xF0 then 0x90 else 0x80, if n = 0xF4 then 0x8F else 0xBF⟩
  else none

/-- A sequence under way: its octets so far and what is still promised. -/
structure Partial where
  /-- The octets read, lead octet first. -/
  octets : Octets
  /-- Value collected and promise outstanding. -/
  lead : Lead
deriving DecidableEq, Repr

/-- Why a sequence is no character. -/
inductive Flaw
  /-- The octet can not begin a sequence. -/
  | start
  /-- The sequence is broken off by an octet that can not continue it. -/
  | continuation
  /-- The octets end inside the sequence. -/
  | truncated
deriving DecidableEq, Repr

/-- Wording of a flaw. -/
def Flaw.text : Flaw → Text
  | .start => "invalid start byte".toList
  | .continuation => "invalid continuation byte".toList
  | .truncated => "unexpected end of data".toList

/-- A sequence that is no character: its octets, its position and its flaw. -/
structure Failure where
  /-- Position of the first octet of the sequence. -/
  position : Nat
  /-- The octets of the sequence that fit together. -/
  octets : Octets
  /-- What is wrong with it. -/
  flaw : Flaw
deriving DecidableEq, Repr

/-- Whether the octets of a sequence and the next one are the first two octets of a surrogate. -/
def opensSurrogate (octets : Octets) (next : UInt8) : Bool :=
  octets == [0xED] && 0xA0 ≤ next && next ≤ 0xBF

/-- What is wrong with octets that were left unfinished if nothing follows them. -/
def Failure.ofUnfinished (octets : Octets) : Failure :=
  match octets with
  | [lead, next] =>
      if opensSurrogate [lead] next then ⟨0, [lead], .continuation⟩ else ⟨0, octets, .truncated⟩
  | octets => ⟨0, octets, .truncated⟩

/-- Whether an octet may follow. -/
def Lead.accepts (lead : Lead) (octet : UInt8) : Bool :=
  lead.low ≤ octet.toNat && octet.toNat ≤ lead.high

/-- The promise left after an accepted octet. -/
def Lead.advance (lead : Lead) (octet : UInt8) : Lead :=
  ⟨lead.bits * 64 + (octet.toNat - 0x80), lead.more - 1, 0x80, 0xBF⟩

/-- Outcome of decoding octets from a given point on. -/
inductive Decoded
  /-- All octets are characters, up to an unfinished sequence at the end. -/
  | chars (text : Text) (unfinished : Octets)
  /-- A sequence is no character. -/
  | failed (failure : Failure)
deriving DecidableEq, Repr

/-- Put a character in front. -/
def Decoded.cons (c : Char) : Decoded → Decoded
  | .chars text unfinished => .chars (c :: text) unfinished
  | .failed failure => .failed failure

/-- Decode from position `position`, where `pending` is the sequence under way. -/
def decodeFrom (position : Nat) : (pending : Option Partial) → Octets → Decoded
  | none, [] => .chars [] []
  | some pending, [] => .chars [] pending.octets
  | none, octet :: rest =>
      match lead? octet with
      | none => .failed ⟨position, [octet], .start⟩
      | some lead =>
          if lead.more = 0 then (decodeFrom (position + 1) none rest).cons (Char.ofNat lead.bits)
          else decodeFrom (position + 1) (some ⟨[octet], lead⟩) rest
  | some ⟨octets, lead⟩, octet :: rest =>
      if lead.accepts octet then
        let next := lead.advance octet
        if next.more = 0 then (decodeFrom (position + 1) none rest).cons (Char.ofNat next.bits)
        else decodeFrom (position + 1) (some ⟨octets ++ [octet], next⟩) rest
      else if rest.isEmpty && opensSurrogate octets octet then .chars [] (octets ++ [octet])
      else .failed ⟨position - octets.length, octets, .continuation⟩

/-- Decode octets from the beginning of a sequence. -/
def decode (octets : Octets) : Decoded := decodeFrom 0 none octets

/-- The character that stands for what can not be decoded. -/
def replacement : Char := '\uFFFD'

/-- Decode with replacement, where `pending` is the promise of a sequence under way. -/
def decodeReplacingFrom : (pending : Option Lead) → Octets → Text
  | none, [] => []
  | some _, [] => [replacement]
  | none, octet :: rest =>
      match lead? octet with
      | none => replacement :: decodeReplacingFrom none rest
      | some lead =>
          if lead.more = 0 then Char.ofNat lead.bits :: decodeReplacingFrom none rest
          else decodeReplacingFrom (some lead) rest
  | some lead, octet :: rest =>
      if lead.accepts octet then
        let next := lead.advance octet
        if next.more = 0 then Char.ofNat next.bits :: decodeReplacingFrom none rest
        else decodeReplacingFrom (some next) rest
      else
        replacement ::
          match lead? octet with
          | none => replacement :: decodeReplacingFrom none rest
          | some lead =>
              if lead.more = 0 then Char.ofNat lead.bits :: decodeReplacingFrom none rest
              else decodeReplacingFrom (some lead) rest

/-- Decode octets, putting U+FFFD for every maximal sequence that is no character. -/
def decodeReplacing (octets : Octets) : Text := decodeReplacingFrom none octets

/-- The octets of a character. -/
def encodeChar (c : Char) : Octets :=
  let n := c.toNat
  if n < 0x80 then [UInt8.ofNat n]
  else if n < 0x800 then [UInt8.ofNat (0xC0 + n / 64), UInt8.ofNat (0x80 + n % 64)]
  else if n < 0x10000 then
    [UInt8.ofNat (0xE0 + n / 4096), UInt8.ofNat (0x80 + n / 64 % 64), UInt8.ofNat (0x80 + n % 64)]
  else
    [UInt8.ofNat (0xF0 + n / 262144), UInt8.ofNat (0x80 + n / 4096 % 64),
      UInt8.ofNat (0x80 + n / 64 % 64), UInt8.ofNat (0x80 + n % 64)]

/-- The octets of a text. -/
def encode (text : Text) : Octets := text.flatMap encodeChar

@[simp]
theorem encode_nil : encode [] = [] := rfl

@[simp]
theorem encode_cons (c : Char) (text : Text) : encode (c :: text) = encodeChar c ++ encode text :=
  rfl

@[simp]
theorem encode_append (left right : Text) : encode (left ++ right) = encode left ++ encode right :=
  List.flatMap_append

/-- Number of octets of a text. -/
def size (text : Text) : Nat := (encode text).length

/-- The text that the octets are, if they are one from the first to the last. -/
def text? (octets : Octets) : Option Text :=
  match decode octets with
  | .chars text [] => some text
  | _ => none

end Utf8
end FlatStore
