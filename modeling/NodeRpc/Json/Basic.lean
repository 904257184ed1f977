import NodeRpc.Number.Shortest

/-!
# JSON values

Numbers are kept by kind: a natural number of 64 bits, a negative integer of 64 bits, or a binary64
number. Objects are lists of members in the order in which they are written; `Json.insert` keeps the
members of an object that is read sorted by name, each name once.

What is read and what is made are values of one type, and only the first keep their members in
order. A record is encoded in the order of its fields and printed like that. So nothing about
objects is in the type, and the lemmas that need the order, or that no name is repeated, say so.

A number has one form only. There is no integer kept as a binary64 number that could be kept as an
integer, not because of the type but because of how numbers are read; `1.0` is a binary64 number and
stays one, and it is not the same number as `1`.
-/

namespace NodeRpc

/-- A JSON number: an integer if it fits 64 bits, else binary64. -/
inductive Number where
  /-- An integer from 0 to `2 ^ 64 - 1`. -/
  | natural (n : Nat) (fits : n < UInt64.size)
  /-- An integer from `-2 ^ 63` to -1, given by its magnitude. -/
  | negative (magnitude : Nat) (fits : 0 < magnitude ∧ 2 * magnitude ≤ UInt64.size)
  | real (x : Binary64)
  deriving DecidableEq

inductive Json where
  | null
  | bool (b : Bool)
  | number (n : Number)
  | string (s : String)
  | array (items : List Json)
  | object (members : List (String × Json))

namespace Number

/-- The number that is an integer in a native word. -/
def ofUInt64 (n : UInt64) : Number := .natural n.toNat n.toNat_lt_size

/-- The number that is a signed integer in a native word. -/
def ofInt64 (n : Int64) : Number :=
  have lower := n.le_toInt
  have upper := n.toInt_lt
  if h : 0 ≤ n.toInt then .natural n.toInt.toNat (by simp only [UInt64.size]; omega)
  else .negative n.toInt.natAbs (by simp only [UInt64.size]; omega)

/-- The number that is this integer, if 64 bits hold it. -/
def ofInt? (n : Int) : Option Number :=
  if h : 0 ≤ n ∧ n.toNat < UInt64.size then some (.natural n.toNat h.2)
  else if h : 0 < n.natAbs ∧ 2 * n.natAbs ≤ UInt64.size then some (.negative n.natAbs h)
  else none

/-- The integer a number holds, if it is kept as one. -/
def int? : Number → Option Int
  | .natural n _ => some n
  | .negative n _ => some (-n)
  | .real _ => none

end Number

namespace Json

instance : Inhabited Json := ⟨.null⟩

/-- The value of a text. -/
def text (s : String) : Json := .string s

/-- The value of a natural number in a native word. -/
def word (n : UInt64) : Json := .number (.ofUInt64 n)

/-- The value of a signed integer in a native word. -/
def int (n : Int64) : Json := .number (.ofInt64 n)

/-- Adds a member at its place among members sorted by name; a member of the same
name is replaced. -/
def insert (name : String) (value : Json) : List (String × Json) → List (String × Json)
  | [] => [(name, value)]
  | (other, kept) :: rest =>
    if name = other then (name, value) :: rest
    else if name < other then (name, value) :: (other, kept) :: rest
    else (other, kept) :: insert name value rest

/-- The members sorted by name, the last of each name kept. -/
def sortMembers (members : List (String × Json)) : List (String × Json) :=
  members.foldl (fun sorted (name, value) => insert name value sorted) []

/-- The object of these members, as an object that is read is kept. -/
def ofMembers (members : List (String × Json)) : Json := .object (sortMembers members)

end Json
end NodeRpc
