/-!
# Where and why a JSON text is refused

A fault names its reason and the input that was left when it was noticed, together with how many
bytes of that had been looked at. Line and column follow from these and the whole text: the line
counts line feeds, the column counts bytes.

The place is part of the error that a caller sees, so it has to be right. It is not kept as a number
while reading, which would have to be carried through every function and would be one more thing for
every proof to step over. What is left of the input says the same, and the number is computed from
it in the end.
-/

namespace NodeRpc.Json

/-- Why a JSON text is refused. -/
inductive Reason where
  | endInValue
  | endInString
  | endInList
  | endInObject
  | expectedValue
  | expectedIdent
  | expectedColon
  | expectedListCommaOrEnd
  | expectedObjectCommaOrEnd
  | keyMustBeString
  | invalidNumber
  | numberOutOfRange
  | invalidEscape
  | loneSurrogate
  | endOfHexEscape
  | controlCharacter
  | trailingComma
  | trailingCharacters
  | recursionLimit
  /-- The text is JSON and holds something else than what is asked for. -/
  | unfit (message : String)
  deriving DecidableEq

namespace Reason

def message : Reason → String
  | endInValue => "EOF while parsing a value"
  | endInString => "EOF while parsing a string"
  | endInList => "EOF while parsing a list"
  | endInObject => "EOF while parsing an object"
  | expectedValue => "expected value"
  | expectedIdent => "expected ident"
  | expectedColon => "expected `:`"
  | expectedListCommaOrEnd => "expected `,` or `]`"
  | expectedObjectCommaOrEnd => "expected `,` or `\x7d`"
  | keyMustBeString => "key must be a string"
  | invalidNumber => "invalid number"
  | numberOutOfRange => "number out of range"
  | invalidEscape => "invalid escape"
  | loneSurrogate => "lone leading surrogate in hex escape"
  | endOfHexEscape => "unexpected end of hex escape"
  | controlCharacter =>
    "control character (\\u0000-\\u001F) found while parsing a string"
  | trailingComma => "trailing comma"
  | trailingCharacters => "trailing characters"
  | recursionLimit => "recursion limit exceeded"
  | unfit message => message

end Reason

/-- A refusal: the reason, the input left, and how many of its bytes were looked at. -/
structure Fault where
  reason : Reason
  rest : List Char
  ahead : Nat

/-- A reader takes a value off the front of the input or refuses it. -/
abbrev Reader (α : Type) := List Char → Except Fault (α × List Char)

/-- Refuses before the first byte of `rest`. -/
def refuse {α : Type} (reason : Reason) (rest : List Char) : Except Fault α :=
  .error ⟨reason, rest, 0⟩

/-- Refuses because of the first byte of `rest`. -/
def refuseAt {α : Type} (reason : Reason) (rest : List Char) : Except Fault α :=
  .error ⟨reason, rest, 1⟩

/-- Line and column after these bytes, from the given line and column on. -/
def advance (line column : Nat) : List UInt8 → Nat × Nat
  | [] => (line, column)
  | b :: rest => if b = 10 then advance (line + 1) 0 rest else advance line (column + 1) rest

namespace Fault

/-- Line and column of a fault in `text`. -/
def position (fault : Fault) (text : List Char) : Nat × Nat :=
  let bytes := (String.ofList text).toUTF8.toList
  let left := (String.ofList fault.rest).utf8ByteSize
  advance 1 0 (bytes.take (bytes.length - left + fault.ahead))

/-- The reason and the place of a fault in `text`. -/
def describe (fault : Fault) (text : List Char) : String :=
  let (line, column) := fault.position text
  fault.reason.message ++ " at line " ++ toString line ++ " column " ++ toString column

end Fault
end NodeRpc.Json
