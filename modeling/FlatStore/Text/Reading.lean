import FlatStore.Number.Numeral
import FlatStore.Text.Line
import FlatStore.Text.Quoted
import FlatStore.Text.Utf8

/-!
# Reading a text file

A text file is read and decoded in blocks of 8192 octets.  A sequence that a block leaves unfinished
is carried into the next block, and positions count from the first carried octet.  Reading ends
at the first block that can not be decoded; the lines settled before it can still be used.
-/

namespace FlatStore

/-- Wording of a decoding failure: a lone octet is shown, several by their positions. -/
def Utf8.Failure.message (failure : Utf8.Failure) : Text :=
  let subject := match failure.octets with
    | [octet] =>
        "byte 0x".toList ++ Text.hexDigits 2 octet.toNat ++ " in position ".toList
          ++ Numeral.natural failure.position
    | octets =>
        "bytes in position ".toList ++ Numeral.natural failure.position ++ '-' ::
          Numeral.natural (failure.position + octets.length - 1)
  "'utf-8' codec can't decode ".toList ++ subject ++ ": ".toList ++ failure.flaw.text

/-- What reading a text file gives. -/
structure Reading where
  /-- The text of the blocks before the first that can not be decoded. -/
  text : Text
  /-- Why that block can not be decoded. -/
  failure : Option Utf8.Failure
deriving DecidableEq, Repr

namespace Reading

/-- Number of octets of a block. -/
def blockSize : Nat := 8192

/-- Cut octets into blocks; `fuel` bounds their number. -/
def cutBlocks : (fuel : Nat) → Octets → List Octets
  | 0, _ => []
  | _, [] => []
  | fuel + 1, octets => octets.take blockSize :: cutBlocks fuel (octets.drop blockSize)

/-- The blocks of a file, all of them full but the last. -/
def blocks (octets : Octets) : List Octets := cutBlocks octets.length octets

/-- Put text in front. -/
def prepend (text : Text) (reading : Reading) : Reading :=
  { reading with text := text ++ reading.text }

/-- Read blocks, the first continuing a carried sequence. -/
def ofBlocks (carried : Octets) : List Octets → Reading
  | [] => ⟨[], if carried.isEmpty then none else some (.ofUnfinished carried)⟩
  | block :: rest =>
      match Utf8.decode (carried ++ block) with
      | .failed failure => ⟨[], some failure⟩
      | .chars text unfinished => (ofBlocks unfinished rest).prepend text

/-- Read a file. -/
def ofOctets (octets : Octets) : Reading := ofBlocks [] (blocks octets)

/-- The lines that can be used: all of them if the whole file can be decoded. -/
def lines (reading : Reading) : List Text := Text.lines reading.failure.isNone reading.text

end Reading
end FlatStore
