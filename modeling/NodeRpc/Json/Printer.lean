import NodeRpc.Json.Basic
import NodeRpc.Text.Hex

/-!
# Writing JSON

The compact text has no blanks and the pretty text indents by two. Both write members in the order
in which the object holds them. Strings escape only what they must: quotes, backslashes and the
characters below U+0020.

A binary64 number is written as the shortest decimal that reads back, and always with a fraction or
an exponent, so that it is told from an integer by its text. Empty arrays and objects stay on one
line in the pretty text too.

Compact texts are what requests and keys are made of, and pretty ones what is shown to a user.
Nothing is proved of the layout of the second.
-/

namespace NodeRpc

/-- One character inside a JSON string. -/
def Json.escape (c : Char) : List Char :=
  if c = '"' then ['\\', '"']
  else if c = '\\' then ['\\', '\\']
  else if c.toNat = 8 then ['\\', 'b']
  else if c.toNat = 9 then ['\\', 't']
  else if c.toNat = 10 then ['\\', 'n']
  else if c.toNat = 12 then ['\\', 'f']
  else if c.toNat = 13 then ['\\', 'r']
  else if c.toNat < 32 then
    ['\\', 'u', '0', '0', Text.hexDigit (c.toNat / 16), Text.hexDigit (c.toNat % 16)]
  else [c]

/-- A JSON string, quotes included. -/
def Json.stringChars (s : String) : List Char := '"' :: s.toList.flatMap escape ++ ['"']

/-- A number: decimal digits for an integer, the JSON layout for binary64. -/
def Number.chars : Number → List Char
  | .natural n _ => digitChars n
  | .negative n _ => '-' :: digitChars n
  | .real x => x.json

/-- The text of a number. -/
def Number.compact (n : Number) : String := String.ofList n.chars

namespace Json

mutual

/-- The compact text of a value. -/
def chars : Json → List Char
  | .null => ['n', 'u', 'l', 'l']
  | .bool true => ['t', 'r', 'u', 'e']
  | .bool false => ['f', 'a', 'l', 's', 'e']
  | .number n => n.chars
  | .string s => stringChars s
  | .array items => '[' :: itemChars items
  | .object members => '\x7b' :: memberChars members

/-- The items of an array with its closing bracket. -/
def itemChars : List Json → List Char
  | [] => [']']
  | [last] => chars last ++ [']']
  | item :: rest => chars item ++ ',' :: itemChars rest

/-- The members of an object with its closing brace. -/
def memberChars : List (String × Json) → List Char
  | [] => ['\x7d']
  | [(name, last)] => stringChars name ++ ':' :: chars last ++ ['\x7d']
  | (name, value) :: rest => stringChars name ++ ':' :: chars value ++ ',' :: memberChars rest

end

/-- The compact text of a value. -/
def compact (value : Json) : String := String.ofList value.chars

/-- A line break and the indentation of a nesting level. -/
def newline (level : Nat) : List Char := '\n' :: List.replicate (2 * level) ' '

mutual

/-- The text of a value laid out over lines, inside `level` enclosing values. -/
def prettyChars (level : Nat) : Json → List Char
  | .array [] => ['[', ']']
  | .array items => '[' :: prettyItems (level + 1) items
  | .object [] => ['\x7b', '\x7d']
  | .object members => '\x7b' :: prettyMembers (level + 1) members
  | scalar => chars scalar

/-- The items of an array, each on lines of its own, with the closing bracket. -/
def prettyItems (level : Nat) : List Json → List Char
  | [] => newline (level - 1) ++ [']']
  | [last] => newline level ++ prettyChars level last ++ newline (level - 1) ++ [']']
  | item :: rest => newline level ++ prettyChars level item ++ ',' :: prettyItems level rest

/-- The members of an object, each on lines of its own, with the closing brace. -/
def prettyMembers (level : Nat) : List (String × Json) → List Char
  | [] => newline (level - 1) ++ ['\x7d']
  | [(name, last)] =>
    newline level ++ stringChars name ++ ':' :: ' ' :: prettyChars level last ++
      newline (level - 1) ++ ['\x7d']
  | (name, value) :: rest =>
    newline level ++ stringChars name ++ ':' :: ' ' :: prettyChars level value ++
      ',' :: prettyMembers level rest

end

/-- The text of a value as it is shown, over lines. -/
def pretty (value : Json) : String := String.ofList (value.prettyChars 0)

end Json
end NodeRpc
