import NodeRpc.Chain.Sha256
import NodeRpc.Text.Hex

/-!
# Hashes

The 32 bytes that identify a transaction or a block. Their text is the hexadecimal form of the bytes
in reverse order.

The bytes are kept in the order in which the digest gives them and in which they stand in a
transaction, and the reversal belongs to the text alone. Digits of either case are read, and small
ones are written. So one hash may come in several texts, and where hashes are compared it is their
bytes that are.
-/

namespace NodeRpc

/-- The identifier of a transaction or a block. -/
structure Hash where
  bytes : List UInt8
  length_bytes : bytes.length = 32
  deriving DecidableEq

namespace Hash

/-- The double digest of some bytes. -/
def ofContent (content : List UInt8) : Hash := ⟨Sha256.double content, Sha256.length_digest _⟩

def hex (hash : Hash) : List Char := Text.hexOfBytes hash.bytes.reverse

def text (hash : Hash) : String := String.ofList hash.hex

/-- The hash of 64 hexadecimal digits of either case. -/
def ofHex? (text : List Char) : Option Hash :=
  match Text.bytesOfHex? text with
  | some bytes =>
    if h : bytes.length = 32 then some ⟨bytes.reverse, by simp [h]⟩ else none
  | none => none

end Hash
end NodeRpc
