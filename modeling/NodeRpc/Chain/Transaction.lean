import NodeRpc.Chain.Amount
import NodeRpc.Chain.Wire

/-!
# Transactions and blocks

Their contents and their wire form. A transaction without inputs cannot be told from one that
announces witnesses, so it is always written in the form that announces them; a transaction that
announces witnesses and has inputs must carry at least one.

A transaction is read from a hexadecimal text. The whole text has to be it, so a transaction with
something behind it is refused, and so is what takes more than four million bytes
(`Wire.sizeLimit`): a reader of this size gives up at the limit, and what it has by then does not
count, even if it would be complete. The node itself may hold larger ones, and these cannot be
fetched. A text of odd length is the one thing that has an error of its own; everything else is not
told apart, since a caller can do nothing about it.

The identifier of a transaction is made from its form without witnesses, and that of a block from
its header, so neither depends on how it was written.
-/

namespace NodeRpc

/-- What an input spends, and how it is unlocked. -/
structure TxInput where
  txid : Hash
  vout : UInt32
  script : List UInt8
  sequence : UInt32
  witness : List (List UInt8)
  deriving DecidableEq

/-- An amount and the script that locks it. -/
structure TxOutput where
  value : Amount
  script : List UInt8
  deriving DecidableEq

structure Transaction where
  version : Int32
  inputs : List TxInput
  outputs : List TxOutput
  lockTime : UInt32
  deriving DecidableEq

structure Block where
  version : Int32
  previous : Hash
  merkleRoot : Hash
  time : UInt32
  bits : UInt32
  nonce : UInt32
  transactions : List Transaction
  deriving DecidableEq

/-- Why a hexadecimal text is no transaction or block. -/
inductive HexFault where
  | oddLength
  | malformed
  deriving DecidableEq

def HexFault.message : HexFault → String
  | oddLength => "odd length, failed to create bytes from hex"
  | malformed => "decoding error"

namespace Wire

def readUInt32 : Reader UInt32 := fun bytes => do
  let (n, rest) ← readNat 4 bytes
  return (UInt32.ofNat n, rest)

def uint32Bytes (n : UInt32) : List UInt8 := natBytes 4 n.toNat

def readInt32 : Reader Int32 := fun bytes => do
  let (n, rest) ← readUInt32 bytes
  return (n.toInt32, rest)

def int32Bytes (n : Int32) : List UInt8 := uint32Bytes n.toUInt32

/-- An input; its witness comes later if at all. -/
def readInput : Reader TxInput := fun bytes => do
  let (txid, rest) ← readHash bytes
  let (vout, rest) ← readUInt32 rest
  let (script, rest) ← readBytes rest
  let (sequence, rest) ← readUInt32 rest
  return (⟨txid, vout, script, sequence, []⟩, rest)

/-- An input without its witness. -/
def inputBytes (input : TxInput) : List UInt8 :=
  input.txid.bytes ++ uint32Bytes input.vout ++ bytesBytes input.script ++
    uint32Bytes input.sequence

def readOutput : Reader TxOutput := fun bytes => do
  let (value, rest) ← readNat 8 bytes
  let (script, rest) ← readBytes rest
  return (⟨⟨UInt64.ofNat value⟩, script⟩, rest)

def outputBytes (output : TxOutput) : List UInt8 :=
  natBytes 8 output.value.sat.toNat ++ bytesBytes output.script

/-- The witnesses of the inputs, in their order. -/
def readWitnesses : List TxInput → Reader (List TxInput)
  | [], bytes => some ([], bytes)
  | input :: more, bytes => do
    let (witness, rest) ← readList readBytes bytes
    let (inputs, rest) ← readWitnesses more rest
    return ({ input with witness } :: inputs, rest)

def readTransaction : Reader Transaction := fun bytes => do
  let (version, rest) ← readInt32 bytes
  let (inputs, rest) ← readList readInput rest
  if inputs.isEmpty then
    -- no inputs means that witnesses are announced, and the inputs are still to come
    let (flag, rest) ← readNat 1 rest
    if flag ≠ 1 then none
    else
      let (inputs, rest) ← readList readInput rest
      let (outputs, rest) ← readList readOutput rest
      let (inputs, rest) ← readWitnesses inputs rest
      -- witnesses that are all empty need not have been announced
      if !inputs.isEmpty && inputs.all (·.witness.isEmpty) then none
      else
        let (lockTime, rest) ← readUInt32 rest
        return (⟨version, inputs, outputs, lockTime⟩, rest)
  else
    let (outputs, rest) ← readList readOutput rest
    let (lockTime, rest) ← readUInt32 rest
    return (⟨version, inputs, outputs, lockTime⟩, rest)

end Wire

namespace Transaction

/-- The form without witnesses, which the identifier is made from. -/
def baseBytes (tx : Transaction) : List UInt8 :=
  Wire.int32Bytes tx.version ++ Wire.listBytes Wire.inputBytes tx.inputs ++
    Wire.listBytes Wire.outputBytes tx.outputs ++ Wire.uint32Bytes tx.lockTime

/-- Whether the wire form announces witnesses. -/
def announcesWitnesses (tx : Transaction) : Bool :=
  tx.inputs.isEmpty || tx.inputs.any (!·.witness.isEmpty)

def bytes (tx : Transaction) : List UInt8 :=
  if tx.announcesWitnesses then
    Wire.int32Bytes tx.version ++ [0, 1] ++ Wire.listBytes Wire.inputBytes tx.inputs ++
      Wire.listBytes Wire.outputBytes tx.outputs ++
      tx.inputs.flatMap (Wire.listBytes Wire.bytesBytes ·.witness) ++
      Wire.uint32Bytes tx.lockTime
  else tx.baseBytes

def txid (tx : Transaction) : Hash := .ofContent tx.baseBytes

def hex (tx : Transaction) : String := String.ofList (Text.hexOfBytes tx.bytes)

end Transaction

namespace Block

/-- The first eighty bytes, which the identifier is made from. -/
def headerBytes (block : Block) : List UInt8 :=
  Wire.int32Bytes block.version ++ block.previous.bytes ++ block.merkleRoot.bytes ++
    Wire.uint32Bytes block.time ++ Wire.uint32Bytes block.bits ++ Wire.uint32Bytes block.nonce

def bytes (block : Block) : List UInt8 :=
  block.headerBytes ++ Wire.listBytes Transaction.bytes block.transactions

def hash (block : Block) : Hash := .ofContent block.headerBytes

def hex (block : Block) : String := String.ofList (Text.hexOfBytes block.bytes)

end Block

namespace Wire

def readBlock : Reader Block := fun bytes => do
  let (version, rest) ← readInt32 bytes
  let (previous, rest) ← readHash rest
  let (merkleRoot, rest) ← readHash rest
  let (time, rest) ← readUInt32 rest
  let (bits, rest) ← readUInt32 rest
  let (nonce, rest) ← readUInt32 rest
  let (transactions, rest) ← readList readTransaction rest
  return (⟨version, previous, merkleRoot, time, bits, nonce, transactions⟩, rest)

/-- How many bytes a transaction or a block may have where it is read. -/
def sizeLimit : Nat := 4000000

/-- The value of whole bytes. Nothing beyond the limit is read, so what is longer is refused
whatever it says, also if the value in front of the limit would be complete. -/
def ofBytes? {α : Type} (reader : Reader α) (bytes : List UInt8) : Option α :=
  if sizeLimit < bytes.length then none
  else
    match reader bytes with
    | some (value, []) => some value
    | _ => none

/-- The value of a whole hexadecimal text. The length counts bytes of the text and is
judged first. -/
def ofHex {α : Type} (reader : Reader α) (text : String) : Except HexFault α :=
  if text.utf8ByteSize % 2 = 1 then .error .oddLength
  else
    match (Text.bytesOfHex? text.toList).bind (ofBytes? reader) with
    | some value => .ok value
    | none => .error .malformed

end Wire

def Transaction.ofHex (text : String) : Except HexFault Transaction :=
  Wire.ofHex Wire.readTransaction text

def Block.ofHex (text : String) : Except HexFault Block := Wire.ofHex Wire.readBlock text

end NodeRpc
