import FlatStore.Json.Basic

/-!
# Reading JSON

A reader for one JSON value.  Besides the standard it knows the number names `NaN`, `Infinity` and
`-Infinity`; of several members of one name the last counts.  The length of the text serves as fuel,
and arrays and objects may be nested up to a limit.
-/

namespace FlatStore

/-- Why a text can not be read. -/
inductive JsonFault
  | malformed
  | tooDeep
deriving DecidableEq, Repr

namespace Json

/-- How deeply arrays and objects may be nested. -/
def depthLimit : Nat := 980

/-- Whether a character may stand between tokens. -/
def isSpace (c : Char) : Bool := c = ' ' || c = '\t' || c = '\n' || c = '\r'

/-- Drop the space before a token. -/
def skipSpace (text : Text) : Text := text.dropWhile isSpace

/-- What follows a word at the start of a text. -/
def after? (word text : Text) : Option Text :=
  if word.isPrefixOf text then some (text.drop word.length) else none

/-- The value of a hexadecimal digit. -/
def hexValue? (c : Char) : Option Nat :=
  if '0' ≤ c && c ≤ '9' then some (c.toNat - 48)
  else if 'a' ≤ c && c ≤ 'f' then some (c.toNat - 87)
  else if 'A' ≤ c && c ≤ 'F' then some (c.toNat - 55)
  else none

/-- Four hexadecimal digits and what follows them. -/
def readUnit? : Text → Option (Nat × Text)
  | a :: b :: c :: d :: rest => do
      let high := (← hexValue? a) * 16 + (← hexValue? b)
      let low := (← hexValue? c) * 16 + (← hexValue? d)
      return (high * 256 + low, rest)
  | _ => none

/-- The code point that a UTF-16 unit begins: a surrogate takes its partner with it, if that
follows. -/
def readPoint (unit : Nat) (rest : Text) : CodePoint × Text :=
  let alone : CodePoint × Text :=
    (if 0xD800 ≤ unit && unit < 0xE000 then .surrogate unit else .char (Char.ofNat unit), rest)
  if 0xD800 ≤ unit && unit < 0xDC00 then
    match rest with
    | '\\' :: 'u' :: after =>
        match readUnit? after with
        | some (second, after) =>
            if 0xDC00 ≤ second && second < 0xE000 then
              (.char (Char.ofNat (0x10000 + (unit - 0xD800) * 0x400 + (second - 0xDC00))), after)
            else alone
        | none => alone
    | _ => alone
  else alone

/-- The character of a one-letter escape. -/
def escape? : Char → Option Char
  | '"' => some '"'
  | '\\' => some '\\'
  | '/' => some '/'
  | 'b' => some '\x08'
  | 'f' => some '\x0c'
  | 'n' => some '\n'
  | 'r' => some '\r'
  | 't' => some '\t'
  | _ => none

/-- The rest of a string after its opening mark, and what follows it. -/
def readString? : (fuel : Nat) → Text → Option (List CodePoint × Text)
  | 0, _ => none
  | _, [] => none
  | _ + 1, '"' :: rest => some ([], rest)
  | fuel + 1, '\\' :: 'u' :: rest => do
      let (unit, rest) ← readUnit? rest
      let (point, rest) := readPoint unit rest
      let (points, rest) ← readString? fuel rest
      return (point :: points, rest)
  | fuel + 1, '\\' :: c :: rest => do
      let c ← escape? c
      let (points, rest) ← readString? fuel rest
      return (.char c :: points, rest)
  | fuel + 1, c :: rest => do
      guard (32 ≤ c.toNat)
      let (points, rest) ← readString? fuel rest
      return (.char c :: points, rest)

/-- A number and what follows it. -/
def readNumber? (text : Text) : Option (Json × Text) := do
  let (sign, unsigned) := match text with
    | '-' :: rest => (['-'], rest)
    | rest => ([], rest)
  let whole := match unsigned with
    | '0' :: _ => ['0']
    | rest => rest.takeWhile Char.isDigit
  guard (!whole.isEmpty)
  let rest := unsigned.drop whole.length
  let fraction := match rest with
    | '.' :: after =>
        let digits := after.takeWhile Char.isDigit
        if digits.isEmpty then [] else '.' :: digits
    | _ => []
  let rest := rest.drop fraction.length
  let exponent := match rest with
    | e :: after =>
        if e = 'e' || e = 'E' then
          let sign := match after with
            | '+' :: _ => ['+']
            | '-' :: _ => ['-']
            | _ => []
          let digits := (after.drop sign.length).takeWhile Char.isDigit
          if digits.isEmpty then [] else e :: sign ++ digits
        else []
    | [] => []
  let rest := rest.drop exponent.length
  if fraction.isEmpty && exponent.isEmpty then
    return (.int (← Numeral.read? (sign ++ whole)), rest)
  else return (.real (← Binary64.read? (sign ++ whole ++ fraction ++ exponent)), rest)

/-- A value that is neither an array nor an object, and what follows it. -/
def readScalar? (text : Text) : Option (Json × Text) :=
  match text with
  | '"' :: rest =>
      (readString? (rest.length + 1) rest).map fun (points, rest) => (ofPoints points, rest)
  | text =>
      ((after? "null".toList text).map fun rest => (Json.null, rest))
        <|> ((after? "true".toList text).map fun rest => (.bool true, rest))
        <|> ((after? "false".toList text).map fun rest => (.bool false, rest))
        <|> ((after? "NaN".toList text).map fun rest => (.real .nan, rest))
        <|> ((after? "Infinity".toList text).map fun rest => (.real (.infinite false), rest))
        <|> ((after? "-Infinity".toList text).map fun rest => (.real (.infinite true), rest))
        <|> readNumber? text

/-- Refuse to go deeper than `depth` levels. -/
def guardDepth (depth : Nat) : Except JsonFault Unit :=
  if depth = 0 then .error .tooDeep else .ok ()

/-- What was read, where nothing read means that the text is malformed. -/
def orMalformed {α : Type} : Option α → Except JsonFault α
  | none => .error .malformed
  | some value => .ok value

mutual

/-- A value at the start of a text, nested up to `depth`, and what follows it. -/
def readValue (depth : Nat) : (fuel : Nat) → Text → Except JsonFault (Json × Text)
  | 0, _ => .error .malformed
  | fuel + 1, text =>
      match text with
      | '[' :: rest => do
          guardDepth depth
          match skipSpace rest with
          | ']' :: rest => return (.list [], rest)
          | rest =>
              let (items, rest) ← readItems (depth - 1) fuel rest
              return (.list items, rest)
      | '{' :: rest => do
          guardDepth depth
          match skipSpace rest with
          | '}' :: rest => return (.object [], rest)
          | rest =>
              let (members, rest) ← readMembers (depth - 1) fuel rest
              return (.object (Members.merge [] members), rest)
      | text => orMalformed (readScalar? text)

/-- The items of an array up to its closing bracket. -/
def readItems (depth : Nat) : (fuel : Nat) → Text → Except JsonFault (List Json × Text)
  | 0, _ => .error .malformed
  | fuel + 1, text => do
      let (item, rest) ← readValue depth fuel text
      match skipSpace rest with
      | ']' :: rest => return ([item], rest)
      | ',' :: rest =>
          let (items, rest) ← readItems depth fuel (skipSpace rest)
          return (item :: items, rest)
      | _ => .error .malformed

/-- The members of an object up to its closing brace. -/
def readMembers (depth : Nat) : (fuel : Nat) → Text → Except JsonFault (Members × Text)
  | 0, _ => .error .malformed
  | fuel + 1, text =>
      match text with
      | '"' :: rest => do
          let (points, rest) ← orMalformed (readString? (rest.length + 1) rest)
          let name := CodePoint.text points
          let ':' :: rest := skipSpace rest | .error .malformed
          let (value, rest) ← readValue depth fuel (skipSpace rest)
          match skipSpace rest with
          | '}' :: rest => return ([(name, value)], rest)
          | ',' :: rest =>
              let (members, rest) ← readMembers depth fuel (skipSpace rest)
              return ((name, value) :: members, rest)
          | _ => .error .malformed
      | _ => .error .malformed

end

/-- Read a text that holds one value and nothing else. -/
def read (text : Text) : Except JsonFault Json := do
  let (value, rest) ← readValue depthLimit (2 * text.length + 2) (skipSpace text)
  if (skipSpace rest).isEmpty then return value else .error .malformed

end Json
end FlatStore
