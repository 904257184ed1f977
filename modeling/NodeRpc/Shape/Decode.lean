import NodeRpc.Error.Decoding
import NodeRpc.Shape.Basic

/-!
# Decoding a JSON value

A record is read from an object or from an array of its fields. In an object the members are decoded
in the order in which they stand and the first that does not fit decides; only then are missing
fields looked for, in the order of the fields. Members that no field is named for are not looked at.

All of this can be seen from outside by the errors. Of two members that do not fit the one that
stands first is reported, whichever field it belongs to, and that a field is missing is reported
only of an object in which all members fit. So objects are gone through twice here, once for each
question.

Reading a record from an array is not something that a node is known to rely on. It is what the
decoder does with any record, and what it means for an answer is not harmless everywhere: see
`NodeRpc.Endpoint.Envelope`.

A number fits a field of binary64 whatever its kind; an integer fits a field of integers only if it
is kept as one and is in the range. `1.0` is no integer.
-/

namespace NodeRpc

namespace Json

/-- What a value is, for a message about it. -/
def found : Json → Found
  | .null => .null
  | .bool b => .bool b
  | .number (.natural n _) => .integer n
  | .number (.negative n _) => .integer (-n)
  | .number (.real x) => .real x
  | .string s => .string s
  | .array _ => .sequence
  | .object _ => .map

def member? (name : String) (members : List (String × Json)) : Option Json :=
  members.lookup name

end Json

namespace Decode

/-- A refusal of a value that is not of the kind wanted. -/
def unfit {α : Type} (value : Json) (wanted : String) : Except DecodeError α :=
  .error (.invalidType value.found wanted)

/-- An integer of a kind. -/
def integer {α : Type} (kind : IntegerKind α) (value : Json) : Except DecodeError α :=
  match value with
  | .number n =>
    match n.int? with
    | some n =>
      if kind.least ≤ n ∧ n ≤ kind.greatest then .ok (kind.ofInt n)
      else .error (.invalidValue n kind.name)
    | none => unfit value kind.name
  | _ => unfit value kind.name

/-- The binary64 number nearest to a number. -/
def realOfNumber : Number → Binary64
  | .natural n _ => (Binary64.ofNat? n).getD (.zero false)
  | .negative n _ => ((Binary64.ofNat? n).getD (.zero false)).neg
  | .real x => x

def real (value : Json) : Except DecodeError Binary64 :=
  match value with
  | .number n => .ok (realOfNumber n)
  | _ => unfit value "f64"

/-- A hash: 64 bytes of text, all of them digits. -/
def hash (value : Json) : Except DecodeError Hash :=
  match value with
  | .string s =>
    if s.utf8ByteSize ≠ 64 then .error .hexLength
    else
      match Hash.ofHex? s.toList with
      | some hash => .ok hash
      | none => .error .hexDigit
  | _ => unfit value "an ASCII hex string"

/-- An amount from a number of coins. -/
def coins (value : Json) : Except DecodeError Amount := do
  let x ← real value
  (Amount.ofCoins x).mapError .amount

/-- A signed amount from a number of coins. -/
def signedCoins (value : Json) : Except DecodeError SignedAmount := do
  let x ← real value
  (SignedAmount.ofCoins x).mapError .amount

/-- What an array of a record's fields is wanted to be. -/
def elements (name : String) (count : Nat) : String :=
  "struct " ++ name ++ " with " ++ toString count ++
    if count = 1 then " element" else " elements"

end Decode

mutual

/-- The value of a shape that a JSON value holds. -/
def Shape.decode {α : Type} : Shape α → Json → Except DecodeError α
  | .json, value => .ok value
  | .unit, value =>
    match value with
    | .null => .ok ()
    | _ => Decode.unfit value "unit"
  | .bool, value =>
    match value with
    | .bool b => .ok b
    | _ => Decode.unfit value "a boolean"
  | .integer kind, value => Decode.integer kind value
  | .real, value => Decode.real value
  | .string, value =>
    match value with
    | .string s => .ok s
    | _ => Decode.unfit value "a string"
  | .hash, value => Decode.hash value
  | .coins, value => Decode.coins value
  | .signedCoins, value => Decode.signedCoins value
  | .satoshi, value => (Decode.integer .u64 value).map Amount.mk
  | .option inner, value =>
    match value with
    | .null => .ok none
    | _ => (inner.decode value).map some
  | .list item, value =>
    match value with
    | .array items => items.mapM item.decode
    | _ => Decode.unfit value "a sequence"
  | .record name fields build _, value =>
    match value with
    | .object members => do
      -- what does not fit is found in the order of the members, and only then what is missing, in
      -- the order of the fields
      fields.checkMembers members
      return build (← fields.ofMembers members)
    | .array items =>
      (fields.ofItems (Decode.elements name fields.count) 0 items.length items).map build
    | _ => Decode.unfit value ("struct " ++ name)
  | .openRecord name fields build _, value =>
    match value with
    | .object members => do
      fields.checkMembers members
      let parts ← fields.ofMembers members
      return build parts (members.filter fun (name, _) => !fields.wireNames.contains name)
    | _ => Decode.unfit value ("struct " ++ name)

/-- What is wrong with a member, if a field is named for it. -/
def Fields.checkMember {β : Type} : Fields β → String → Json → Except DecodeError Unit
  | .nil, _, _ => .ok ()
  | .cons _ wire _ shape rest, name, value =>
    if name = wire then (shape.decode value).map fun _ => ()
    else rest.checkMember name value

/-- What is wrong with the first of the members that does not fit. -/
def Fields.checkMembers {β : Type} (fields : Fields β) (members : List (String × Json)) :
    Except DecodeError Unit :=
  members.forM fun (name, value) => fields.checkMember name value

/-- The fields from the members of an object. -/
def Fields.ofMembers {β : Type} : Fields β → List (String × Json) → Except DecodeError β
  | .nil, _ => .ok ()
  | .cons _ wire absent shape rest, members => do
    let first ←
      match Json.member? wire members with
      | some value => shape.decode value
      | none =>
        match absent with
        | some value => pure value
        | none => .error (.missingField wire)
    let more ← rest.ofMembers members
    return (first, more)

/-- The fields from the items of an array of `length` items, of which `index` have
been read. -/
def Fields.ofItems {β : Type} : Fields β → String → Nat → Nat → List Json → Except DecodeError β
  | .nil, _, _, length, items =>
    if items.isEmpty then .ok ()
    else .error (.invalidLength length "fewer elements in array")
  | .cons _ _ absent shape rest, wanted, index, length, items => do
    let first ←
      match items with
      | value :: _ => shape.decode value
      -- an array that ends early leaves out the fields at the end
      | [] =>
        match absent with
        | some value => pure value
        | none => .error (.invalidLength index wanted)
    let more ← rest.ofItems wanted (index + 1) length items.tail
    return (first, more)

end

end NodeRpc
