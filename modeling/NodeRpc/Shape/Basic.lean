import NodeRpc.Chain.Hash
import NodeRpc.Chain.Amount
import NodeRpc.Json.Basic

/-!
# Descriptions of typed results

A `Shape α` says how values of type `α` look in JSON. A record is described by its fields: the name
under which this library lists the field, the name on the wire, what the field is when it is
missing, and its shape. Decoding, encoding and what is proved about them are functions of the
description, written once for all results.

There are a few dozen records, and one decoder for them. What one wants to know of decoding, such as
what becomes of members that nobody has asked for, is a theorem about shapes, and a new record needs
no proof. What a record has of its own is the list of its fields and the two functions that put them
together and take them apart.

A field that may be missing has a value to stand for it. A field that may be null has an option for
its shape. The two are not the same: a text that may be missing is not null if it is there.
-/

namespace NodeRpc

/-- A range of integers that one type holds. -/
structure IntegerKind (α : Type) where
  name : String
  least : Int
  greatest : Int
  ofInt : Int → α
  toInt : α → Int

namespace IntegerKind

def u8 : IntegerKind UInt8 := ⟨"u8", 0, 255, UInt8.ofInt, fun n => n.toNat⟩
def u32 : IntegerKind UInt32 := ⟨"u32", 0, 4294967295, UInt32.ofInt, fun n => n.toNat⟩
def u64 : IntegerKind UInt64 := ⟨"u64", 0, 18446744073709551615, UInt64.ofInt, fun n => n.toNat⟩
def i32 : IntegerKind Int32 := ⟨"i32", -2147483648, 2147483647, Int32.ofInt, Int32.toInt⟩
def i64 : IntegerKind Int64 := ⟨"i64", -9223372036854775808, 9223372036854775807, Int64.ofInt,
  Int64.toInt⟩

end IntegerKind

mutual

/-- How values of a type look in JSON. -/
inductive Shape : Type → Type 1 where
  /-- Any value, kept as it is. -/
  | json : Shape Json
  | unit : Shape Unit
  | bool : Shape Bool
  | integer {α : Type} (kind : IntegerKind α) : Shape α
  /-- Any number, as binary64. -/
  | real : Shape Binary64
  | string : Shape String
  /-- A hash, as 64 hexadecimal digits. -/
  | hash : Shape Hash
  /-- An amount, as a number of coins. -/
  | coins : Shape Amount
  /-- An amount that may be negative, as a number of coins. -/
  | signedCoins : Shape SignedAmount
  /-- An amount, as an integer number of satoshi. -/
  | satoshi : Shape Amount
  /-- The inner shape, or null. -/
  | option {α : Type} (inner : Shape α) : Shape (Option α)
  | list {α : Type} (item : Shape α) : Shape (List α)
  /-- A record, built from its fields and taken apart into them. -/
  | record {α β : Type} (name : String) (fields : Fields β) (build : β → α) (parts : α → β) :
      Shape α
  /-- A record that keeps the members it has no field for. -/
  | openRecord {α β : Type} (name : String) (fields : Fields β)
      (build : β → List (String × Json) → α) (parts : α → β × List (String × Json)) : Shape α

/-- The fields of a record in their order. -/
inductive Fields : Type → Type 1 where
  | nil : Fields Unit
  | cons {α β : Type} (name wire : String) (absent : Option α) (shape : Shape α)
      (rest : Fields β) : Fields (α × β)

end

namespace Shape

abbrev u8 : Shape UInt8 := .integer .u8
abbrev u32 : Shape UInt32 := .integer .u32
abbrev u64 : Shape UInt64 := .integer .u64
abbrev i32 : Shape Int32 := .integer .i32
abbrev i64 : Shape Int64 := .integer .i64

end Shape

namespace Fields

/-- How many fields there are. -/
def count {β : Type} : Fields β → Nat
  | .nil => 0
  | .cons _ _ _ _ rest => rest.count + 1

/-- The names of the fields on the wire, in their order. -/
def wireNames {β : Type} : Fields β → List String
  | .nil => []
  | .cons _ wire _ _ rest => wire :: rest.wireNames

/-- A field that must be there, named alike here and on the wire. -/
def need {α β : Type} (name : String) (shape : Shape α) (rest : Fields β) : Fields (α × β) :=
  .cons name name none shape rest

/-- A field that must be there, with its name on the wire. -/
def needAs {α β : Type} (name wire : String) (shape : Shape α) (rest : Fields β) :
    Fields (α × β) :=
  .cons name wire none shape rest

/-- A field that may be missing, with the value it then has. -/
def may {α β : Type} (name : String) (absent : α) (shape : Shape α) (rest : Fields β) :
    Fields (α × β) :=
  .cons name name (some absent) shape rest

/-- A field that may be missing, with its name on the wire. -/
def mayAs {α β : Type} (name wire : String) (absent : α) (shape : Shape α) (rest : Fields β) :
    Fields (α × β) :=
  .cons name wire (some absent) shape rest

end Fields
end NodeRpc
