import NodeRpc.Json.Literal
import NodeRpc.Text.Hex

/-!
# Reading JSON

The reader is exact about the grammar: blanks are space, tab, carriage return and line feed; strings
hold no raw control characters and no lone surrogates; nothing follows a value but blanks. Nesting
is limited, and the limit is what the recursion descends on. Objects keep the last of several
members of one name.

The input is a list of characters, and each function takes what it reads off the front and gives
back the rest. So where something ends is never a number, and that a value does not depend on what
follows it can be said of the list as it is.

Lists of items and of members are read with fuel, as many steps as there are characters left. It
never runs out before the text does, since an item has at least one character, and what the
functions answer without any is never seen.

The errors come in the order in which the text is read. Which of two mistakes is reported is
therefore fixed, down to the column.
-/

namespace NodeRpc.Json

/-- A blank between tokens. -/
def isSpace (c : Char) : Bool := c == ' ' || c == '\n' || c == '\t' || c == '\r'

/-- The input after its leading blanks. -/
def skipSpace : List Char → List Char
  | [] => []
  | c :: rest => if isSpace c then skipSpace rest else c :: rest

/-- Reads the given characters, the rest of a name whose first letter was read. -/
def readIdent : List Char → List Char → Except Fault (List Char)
  | [], s => .ok s
  | _ :: _, [] => refuse .endInValue []
  | expected :: more, c :: rest =>
    if c = expected then readIdent more rest else refuseAt .expectedIdent (c :: rest)

/-- The value of four hexadecimal digits. The escape is judged by the four bytes
that follow, whatever characters they belong to. -/
def readHexEscape (s : List Char) : Except Fault (Nat × List Char) :=
  if (String.ofList (s.take 4)).utf8ByteSize < 4 then refuse .endInString []
  else
    match s with
    | a :: b :: c :: d :: rest =>
      match Text.hexValue? a, Text.hexValue? b, Text.hexValue? c, Text.hexValue? d with
      | some a, some b, some c, some d => .ok (a * 4096 + b * 256 + c * 16 + d, rest)
      | _, _, _, _ => .error ⟨.invalidEscape, s, 4⟩
    | _ => .error ⟨.invalidEscape, s, 4⟩

/-- The character of an escape of one letter. -/
def shortEscape? (c : Char) : Option Char :=
  if c = '"' ∨ c = '\\' ∨ c = '/' then some c
  else if c = 'b' then some (Char.ofNat 8)
  else if c = 'f' then some (Char.ofNat 12)
  else if c = 'n' then some '\n'
  else if c = 'r' then some '\r'
  else if c = 't' then some '\t'
  else none

/-- Reads the character of a `\u` escape after the `u`: a code point outside the
surrogates, or a leading surrogate followed by the escape of a trailing one. -/
def readUnicodeEscape (s : List Char) : Except Fault (Char × List Char) := do
  let (high, rest) ← readHexEscape s
  if 0xDC00 ≤ high ∧ high ≤ 0xDFFF then refuse .loneSurrogate rest
  else if high < 0xD800 ∨ 0xDBFF < high then return (Char.ofNat high, rest)
  else
    -- a leading surrogate: the escape of a trailing one has to follow at once
    match rest with
    | [] => refuse .endInString []
    | '\\' :: 'u' :: rest =>
      let (low, rest) ← readHexEscape rest
      if low < 0xDC00 ∨ 0xDFFF < low then refuse .loneSurrogate rest
      else return (Char.ofNat (0x10000 + (high - 0xD800) * 1024 + (low - 0xDC00)), rest)
    | ['\\'] => refuse .endInString []
    | '\\' :: rest => refuseAt .endOfHexEscape rest
    | rest => refuseAt .endOfHexEscape rest

/-- Reads the character of an escape after the backslash. -/
def readEscape (s : List Char) : Except Fault (Char × List Char) :=
  match s with
  | [] => refuse .endInString []
  | 'u' :: rest => readUnicodeEscape rest
  | c :: rest =>
    match shortEscape? c with
    | some c => .ok (c, rest)
    | none => refuseAt .invalidEscape (c :: rest)

/-- Reads a string after its opening quote, at most `fuel` characters of it. -/
def readString : Nat → List Char → Except Fault (List Char × List Char)
  | 0, s => refuse .endInString s
  | _ + 1, [] => refuse .endInString []
  | fuel + 1, c :: rest =>
    if c = '"' then .ok ([], rest)
    else if c = '\\' then do
      let (c, rest) ← readEscape rest
      let (cs, rest) ← readString fuel rest
      return (c :: cs, rest)
    else if c.toNat < 32 then refuse .controlCharacter rest
    else do
      let (cs, rest) ← readString fuel rest
      return (c :: cs, rest)

/-- Reads the items of an array up to its closing bracket; `first` tells that none
has been read yet. -/
def readItems {α : Type} (item : Reader α) : Nat → Bool → Reader (List α)
  | 0, _, s => refuse .endInList s
  | fuel + 1, first, s =>
    match skipSpace s with
    | [] => refuse .endInList []
    | ']' :: rest => .ok ([], rest)
    | c :: rest => do
      let s ←
        if first then pure (c :: rest)
        else if c = ',' then
          match skipSpace rest with
          | [] => refuse .endInValue []
          | ']' :: rest => refuseAt .trailingComma (']' :: rest)
          | rest => pure rest
        else refuseAt .expectedListCommaOrEnd (c :: rest)
      -- every item takes a character, so the fuel does not run out before the text does
      let (value, rest) ← item s
      let (values, rest) ← readItems item fuel false rest
      return (value :: values, rest)

/-- Reads the colon between a member's name and its value. -/
def readColon (s : List Char) : Except Fault (List Char) :=
  match skipSpace s with
  | [] => refuse .endInObject []
  | ':' :: rest => .ok rest
  | rest => refuseAt .expectedColon rest

/-- Reads the name of the next member, or the closing brace; `first` tells that no
member has been read yet. -/
def readNextName (first : Bool) (s : List Char) :
    Except Fault (Option (List Char) × List Char) :=
  match skipSpace s with
  | [] => refuse .endInObject []
  | '\x7d' :: rest => .ok (none, rest)
  | c :: rest => do
    let s ←
      if first then
        if c = '"' then pure rest else refuseAt .keyMustBeString (c :: rest)
      else if c = ',' then
        match skipSpace rest with
        | [] => refuse .endInValue []
        | '"' :: rest => pure rest
        | '\x7d' :: rest => refuseAt .trailingComma ('\x7d' :: rest)
        | rest => refuseAt .keyMustBeString rest
      else refuseAt .expectedObjectCommaOrEnd (c :: rest)
    -- a name is no longer than the text that is left
    let (name, rest) ← readString (s.length + 1) s
    return (some name, rest)

/-- Reads the members of an object up to its closing brace, in the order in which
they are written. -/
def readMembers {α : Type} (value : Reader α) : Nat → Bool → Reader (List (String × α))
  | 0, _, s => refuse .endInObject s
  | fuel + 1, first, s => do
    match ← readNextName first s with
    | (none, rest) => return ([], rest)
    | (some name, rest) =>
      let rest ← readColon rest
      let (v, rest) ← value rest
      let (members, rest) ← readMembers value fuel false rest
      return ((String.ofList name, v) :: members, rest)

/-- How deep arrays and objects may nest. -/
def nestingLimit : Nat := 127

/-- Reads a value with at most `depth` levels of arrays and objects. -/
def readValue (depth : Nat) (s : List Char) : Except Fault (Json × List Char) :=
  match skipSpace s with
  | [] => refuse .endInValue []
  | '"' :: rest => do
    let (cs, rest) ← readString (rest.length + 1) rest
    return (.string (String.ofList cs), rest)
  | '[' :: rest =>
    match depth with
    | 0 => refuseAt .recursionLimit ('[' :: rest)
    | depth + 1 => do
      let (items, rest) ← readItems (readValue depth) (rest.length + 1) true rest
      return (.array items, rest)
  | '\x7b' :: rest =>
    match depth with
    | 0 => refuseAt .recursionLimit ('\x7b' :: rest)
    | depth + 1 => do
      let (members, rest) ← readMembers (readValue depth) (rest.length + 1) true rest
      return (ofMembers members, rest)
  | 'n' :: rest => do
    let rest ← readIdent ['u', 'l', 'l'] rest
    return (.null, rest)
  | 't' :: rest => do
    let rest ← readIdent ['r', 'u', 'e'] rest
    return (.bool true, rest)
  | 'f' :: rest => do
    let rest ← readIdent ['a', 'l', 's', 'e'] rest
    return (.bool false, rest)
  | c :: rest =>
    if c = '-' ∨ (digit? c).isSome then do
      let (n, rest) ← readNumber (c :: rest)
      return (.number n, rest)
    else refuseAt .expectedValue (c :: rest)

/-- Accepts blanks up to the end of the text and nothing else. -/
def readEnd (s : List Char) : Except Fault Unit :=
  match skipSpace s with
  | [] => .ok ()
  | rest => refuseAt .trailingCharacters rest

/-- The value that a whole text holds. -/
def parse (text : List Char) : Except Fault Json := do
  let (value, rest) ← readValue nestingLimit text
  readEnd rest
  return value

/-- The value that a text holds, if it is JSON. -/
def parse? (text : String) : Option Json := (parse text.toList).toOption

end NodeRpc.Json
