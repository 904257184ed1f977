import NodeRpc.Shape.Basic

/-!
# Encoding a typed value

The JSON value that a shape gives a value: records as objects under their wire names, in the order
of their fields, with every field present; an absent optional value is null. What is encoded decodes
again to the same value.

That holds for values that were decoded (`NodeRpc.Proofs.Shape.Reencoding`), and these are what is
encoded. A value that was made otherwise may hold an amount that is too large for the binary64
number it is written as.
-/

namespace NodeRpc

mutual

/-- The JSON value of a value of a shape. -/
def Shape.encode {α : Type} : Shape α → α → Json
  | .json, value => value
  | .unit, _ => .null
  | .bool, b => .bool b
  | .integer kind, n =>
    match Number.ofInt? (kind.toInt n) with
    | some n => .number n
    | none => .null
  | .real, x => .number (.real x)
  | .string, s => .string s
  | .hash, hash => .string hash.text
  | .coins, amount => .number (.real amount.toCoins)
  | .signedCoins, amount => .number (.real amount.toCoins)
  | .satoshi, amount => .word amount.sat
  | .option inner, value =>
    match value with
    | none => .null
    | some value => inner.encode value
  | .list item, values => .array (values.map item.encode)
  | .record _ fields _ parts, value => .object (fields.encode (parts value))
  | .openRecord _ fields _ parts, value =>
    .object (fields.encode (parts value).1 ++ (parts value).2)

/-- The members of a record. -/
def Fields.encode {β : Type} : Fields β → β → List (String × Json)
  | .nil, _ => []
  | .cons _ wire _ shape rest, (first, more) =>
    (wire, shape.encode first) :: rest.encode more

end

end NodeRpc
