import NodeRpc.Call.Ending
import NodeRpc.Json.Printer
import NodeRpc.Json.Skip

/-!
# Answers of a node

An answer has three members, each of which may be missing or null: the identifier of the request,
the result and the error. It is an object, or an array of the three that may be shorter. Unlike the
objects inside it, it may not repeat a member; members with other names are passed over.

It is decoded while it is read. No value is made of the whole text first, so what stands in a member
with another name is never looked at, beyond finding where it ends, and a member that is repeated is
noticed, which it is not where an object has become a value.

None of the three members is asked for. An object with other members only, and the empty one, is an
answer without a result, and a missing result is null: `outcome` makes a success of it. An answer
that has an error fails with the error, whatever else is in it.

The errors of reading come with a line and a column, so the functions carry along what is left of
the text at the point where it went wrong. `refuseRepeated` looks a little further than it needs to
for that reason only: the position that is reported is one behind a closing brace, if there is one.
-/

namespace NodeRpc

/-- An answer as it was read; null counts as missing. -/
structure Envelope where
  id : Option Json := none
  result : Option Json := none
  error : Option Json := none

namespace Envelope

/-- What an answer is called where something else stands in its place. -/
def name : String := "struct JsonRpcResponse"

/-- Null counts as missing. -/
def unlessNull : Json → Option Json
  | .null => none
  | value => some value

/-- Reads the value of a member; it stands one level deep already. -/
def readMember (s : List Char) : Except Json.Fault (Option Json × List Char) := do
  let (value, rest) ← Json.readValue (Json.nestingLimit - 1) s
  return (unlessNull value, rest)

/-- Refuses a name that was read before. What follows has been looked at by then as
far as a closing brace. -/
def refuseRepeated {α : Type} (name : String) (rest : List Char) : Except Json.Fault α :=
  let rest :=
    match Json.skipSpace rest with
    | '\x7d' :: rest => rest
    | rest => rest
  Json.refuse (.unfit ("duplicate field `" ++ name ++ "`")) rest

/-- Reads members up to the closing brace. `seen` holds the names read so far of those
that count. -/
def readMembers : Nat → Bool → List String → Envelope → List Char →
    Except Json.Fault (Envelope × List Char)
  | 0, _, _, _, s => Json.refuse .endInObject s
  | fuel + 1, first, seen, envelope, s => do
    match ← Json.readNextName first s with
    | (none, rest) => return (envelope, rest)
    | (some nameChars, rest) =>
      let name := String.ofList nameChars
      if seen.contains name then refuseRepeated name rest
      else
        let rest ← Json.readColon rest
        match name with
        | "id" =>
          let (id, rest) ← readMember rest
          readMembers fuel false (name :: seen) { envelope with id } rest
        | "result" =>
          let (result, rest) ← readMember rest
          readMembers fuel false (name :: seen) { envelope with result } rest
        | "error" =>
          let (error, rest) ← readMember rest
          readMembers fuel false (name :: seen) { envelope with error } rest
        | _ =>
          -- one that does not count may be repeated, and may nest as deep as it likes
          let rest ← Json.skipValue (2 * rest.length + 2) rest
          readMembers fuel false seen envelope rest

/-- Reads the next item of an array, if there is one; `first` tells that none has been
read yet. The closing bracket is left where it is. -/
def readItem (first : Bool) (s : List Char) : Except Json.Fault (Option Json × List Char) :=
  match Json.skipSpace s with
  | [] => Json.refuse .endInList []
  | ']' :: rest => .ok (none, ']' :: rest)
  | c :: rest =>
    if first then readMember (c :: rest)
    else if c = ',' then
      match Json.skipSpace rest with
      | [] => Json.refuse .endInValue []
      | ']' :: rest => Json.refuseAt .trailingComma (']' :: rest)
      | rest => readMember rest
    else Json.refuseAt .expectedListCommaOrEnd (c :: rest)

/-- Reads the closing bracket after the last item. -/
def readClosing (s : List Char) : Except Json.Fault (List Char) :=
  match Json.skipSpace s with
  | [] => Json.refuse .endInList []
  | ']' :: rest => .ok rest
  | ',' :: rest =>
    match Json.skipSpace rest with
    | ']' :: rest => Json.refuseAt .trailingComma (']' :: rest)
    | rest => Json.refuseAt .trailingCharacters rest
  | rest => Json.refuseAt .trailingCharacters rest

/-- Reads an array after its opening bracket. -/
def readItems (s : List Char) : Except Json.Fault (Envelope × List Char) := do
  let (id, rest) ← readItem true s
  let (result, rest) ← readItem false rest
  let (error, rest) ← readItem false rest
  let rest ← readClosing rest
  return (⟨id, result, error⟩, rest)

/-- Reads an answer. Of anything but an object or an array as much is read as is
needed to name it. -/
def readAnswer (s : List Char) : Except Json.Fault (Envelope × List Char) :=
  match Json.skipSpace s with
  | '[' :: rest => readItems rest
  | '\x7b' :: rest => readMembers (rest.length + 1) true [] {} rest
  | s => do
    -- neither an array nor an object, so no depth is needed
    let (value, rest) ← Json.readValue 0 s
    Json.refuse (.unfit (DecodeError.invalidType value.found name).message) rest

/-- The answer that a whole text holds. -/
def parse (text : List Char) : Except Json.Fault Envelope := do
  let (envelope, rest) ← readAnswer text
  Json.readEnd rest
  return envelope

/-- The code and the message of an error, as a node reports it. -/
def errorShape : Shape (Int64 × String) :=
  .record "JsonRpcError" (.need "code" .i64 <| .need "message" .string .nil)
    (fun (code, message, ()) => (code, message)) (fun (code, message) => (code, message, ()))

/-- What an error member says. -/
def readError (error : Json) : TripError :=
  match errorShape.decode error with
  | .ok (code, message) => .serverError code message
  | .error _ => .invalidResponse ("non-standard JSON-RPC error: " ++ error.compact)

/-- Whether an identifier is that of the request: the same text, or a number that is
written like it. -/
def idMatches (expected : String) : Json → Bool
  | .string s => s == expected
  | .number n => n.compact == expected
  | _ => false

/-- What an answer comes to. An error wins over a result and over a wrong identifier,
and a missing result is null. -/
def outcome (envelope : Envelope) (expected : String) : Outcome :=
  match envelope.error, envelope.id with
  | some error, _ => .error (readError error)
  | none, some id =>
    if idMatches expected id then .ok (envelope.result.getD .null)
    else
      .error (.invalidResponse
        ("response id " ++ id.compact ++ " does not match request id `" ++ expected ++ "`"))
  | none, none => .ok (envelope.result.getD .null)

end Envelope
end NodeRpc
