import NodeRpc.Chain.Hash

/-!
# The wire form of transactions and blocks

Integers are little-endian, counts are written in the shortest of four forms, and a longer form than
needed is refused. A reader takes a value off the front of the bytes; `none` says that the bytes are
malformed or too few.

A value has one form only, because a count does. If a longer form were read, two different texts
would be one transaction, and whoever compares texts would be wrong.

A count may announce more than there is. It is not trusted with anything: the values are read one
after the other until the bytes are at an end, and then the whole is refused.
-/

namespace NodeRpc.Wire

/-- A reader of some value. -/
abbrev Reader (α : Type) := List UInt8 → Option (α × List UInt8)

def littleEndian : List UInt8 → Nat
  | [] => 0
  | b :: rest => b.toNat + 256 * littleEndian rest

/-- The first `n` bytes. -/
def takeBytes (n : Nat) : Reader (List UInt8) := fun bytes =>
  if n ≤ bytes.length then some (bytes.take n, bytes.drop n) else none

def readNat (n : Nat) : Reader Nat := fun bytes => do
  let (taken, rest) ← takeBytes n bytes
  return (littleEndian taken, rest)

def natBytes : Nat → Nat → List UInt8
  | 0, _ => []
  | n + 1, value => UInt8.ofNat (value % 256) :: natBytes n (value / 256)

/-- A count of `n` bytes after its marker, at least `least`. -/
def readMarked (n least : Nat) : Reader Nat := fun bytes => do
  let (count, rest) ← readNat n bytes
  if least ≤ count then return (count, rest) else none

/-- A count in its shortest form. -/
def readCount : Reader Nat
  | [] => none
  | b :: rest =>
    if b = 0xFD then readMarked 2 0xFD rest
    else if b = 0xFE then readMarked 4 0x10000 rest
    else if b = 0xFF then readMarked 8 0x100000000 rest
    else some (b.toNat, rest)

/-- The shortest form of a count. -/
def countBytes (n : Nat) : List UInt8 :=
  if n < 0xFD then [UInt8.ofNat n]
  else if n < 0x10000 then 0xFD :: natBytes 2 n
  else if n < 0x100000000 then 0xFE :: natBytes 4 n
  else 0xFF :: natBytes 8 n

/-- As many values as counted. -/
def readMany {α : Type} (item : Reader α) : Nat → Reader (List α)
  | 0, bytes => some ([], bytes)
  | n + 1, bytes => do
    let (value, rest) ← item bytes
    let (values, rest) ← readMany item n rest
    return (value :: values, rest)

/-- A count and as many values. -/
def readList {α : Type} (item : Reader α) : Reader (List α) := fun bytes => do
  let (count, rest) ← readCount bytes
  readMany item count rest

/-- A count and as many values. -/
def listBytes {α : Type} (item : α → List UInt8) (values : List α) : List UInt8 :=
  countBytes values.length ++ values.flatMap item

/-- A count and as many bytes. -/
def readBytes : Reader (List UInt8) := fun bytes => do
  let (count, rest) ← readCount bytes
  takeBytes count rest

/-- A count and as many bytes. -/
def bytesBytes (bytes : List UInt8) : List UInt8 := countBytes bytes.length ++ bytes

def readHash : Reader Hash := fun bytes =>
  if h : 32 ≤ bytes.length then some (⟨bytes.take 32, by simp [h]⟩, bytes.drop 32) else none

end NodeRpc.Wire
