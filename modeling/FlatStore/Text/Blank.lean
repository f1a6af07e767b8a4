import FlatStore.Text.Basic

/-!
# Blank characters

The characters that carry no ink: the 25 of the Unicode property `White_Space` and the four
information separators U+001C to U+001F.  Zero-width characters and the byte order mark are not
blank.  Everything that trims or splits on space uses this one class.
-/

namespace FlatStore
namespace Text

/-- The 29 blank characters. -/
def isBlank (c : Char) : Bool :=
  let n := c.toNat
  (9 ≤ n && n ≤ 13) || (28 ≤ n && n ≤ 32) || n == 0x85 || n == 0xA0 || n == 0x1680
    || (0x2000 ≤ n && n ≤ 0x200A) || n == 0x2028 || n == 0x2029 || n == 0x202F || n == 0x205F
    || n == 0x3000

/-- Remove the blanks at both ends. -/
def trim (text : Text) : Text := trimBoth isBlank text

/-- The text has no character besides blanks. -/
def isBlankText (text : Text) : Bool := text.all isBlank

/-- The text is a single word: not empty, and without any blank. -/
def isWord (text : Text) : Bool := !text.isEmpty && text.all fun c => !isBlank c

/-- The first word of a text that begins with one. -/
def firstWord (text : Text) : Text := text.takeWhile fun c => !isBlank c

/-- What follows the first word and the blanks after it. -/
def afterFirstWord (text : Text) : Text :=
  (text.dropWhile fun c => !isBlank c).dropWhile isBlank

@[simp]
theorem isBlank_lineFeed : isBlank '\n' = true := by decide

@[simp]
theorem isBlank_carriageReturn : isBlank '\r' = true := by decide

@[simp]
theorem isBlank_tab : isBlank '\t' = true := by decide

@[simp]
theorem trim_nil : trim [] = [] := rfl

theorem mem_of_mem_trim {text : Text} {c : Char} (h : c ∈ trim text) : c ∈ text :=
  mem_of_mem_trimBoth h

end Text
end FlatStore
