/-!
# White space

The characters of the Unicode property `White_Space`, and the texts made with it: a trimmed text,
and the lines and words of a text. U+200B and U+FEFF look blank but do not have the property.

The blanks of JSON are others, four of them, and are in `NodeRpc.Json.Parser`. Which is meant
depends on who wrote the text: a person or a program.
-/

namespace NodeRpc.Text

/-- Has the property `White_Space`. -/
def isBlank (c : Char) : Bool :=
  let n := c.toNat
  (0x9 ≤ n && n ≤ 0xD) || n == 0x20 || n == 0x85 || n == 0xA0 || n == 0x1680 ||
    (0x2000 ≤ n && n ≤ 0x200A) || n == 0x2028 || n == 0x2029 || n == 0x202F ||
    n == 0x205F || n == 0x3000

/-- White space taken off both ends. -/
def trim (text : List Char) : List Char :=
  ((text.dropWhile isBlank).reverse.dropWhile isBlank).reverse

/-- What stands before the first line feed. A carriage return before it is white
space, so a trimmed line does not depend on which of the two ends it. -/
def firstLine (text : List Char) : List Char := text.takeWhile (· != '\n')

/-- The words of a text: what stands between its white space. -/
def words (text : List Char) : List (List Char) :=
  (text.splitBy fun a b => isBlank a == isBlank b).filter fun part => !part.any isBlank

/-- Whether a character is in ASCII. -/
def isAscii (c : Char) : Bool := c.toNat < 0x80

/-- Upper-case ASCII letters made lower-case, all else unchanged. -/
def asciiLower (c : Char) : Char :=
  if 'A' ≤ c ∧ c ≤ 'Z' then Char.ofNat (c.toNat + 32) else c

/-- The text before and after the first occurrence of a character. -/
def splitOnce (mark : Char) : List Char → Option (List Char × List Char)
  | [] => none
  | c :: rest =>
    if c = mark then some ([], rest)
    else (splitOnce mark rest).map fun (before, after) => (c :: before, after)

/-- The parts of a text between the occurrences of a character. -/
def splitAll (mark : Char) : List Char → List (List Char)
  | [] => [[]]
  | c :: rest =>
    if c = mark then [] :: splitAll mark rest
    else
      match splitAll mark rest with
      | [] => [[c]]
      | first :: more => (c :: first) :: more

/-- Whether `pattern` occurs in `text` as a contiguous run. -/
def occursIn (pattern : List Char) : List Char → Bool
  | [] => pattern.isEmpty
  | c :: rest => pattern.isPrefixOf (c :: rest) || occursIn pattern rest

end NodeRpc.Text
