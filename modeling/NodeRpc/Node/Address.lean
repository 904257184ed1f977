import NodeRpc.Call.Operation
import NodeRpc.Node.Params
import NodeRpc.Result.Wallet

/-!
# Addresses and signed messages

What can be asked of the node without a wallet: the methods `createmultisig`, `validateaddress`,
`signmessagewithprivkey` and `verifymessage`.

Keys, addresses and signatures are texts here. The node knows what they have to look like on its
chain, and what it does not take it refuses by itself.
-/

namespace NodeRpc.Node

/-- The address that so many of the keys together can spend from. -/
def createMultisig (required : UInt32) (keys : List String) : Operation MultiSig :=
  .ask "createmultisig" [.word32 required, .array (keys.map .text)] MultiSig.shape

/-- What an address is, if it is one. -/
def validateAddress (address : String) : Operation ValidateAddress :=
  .ask "validateaddress" [.text address] ValidateAddress.shape

/-- Signs a message with a private key. -/
def signMessageWithKey (key message : String) : Operation String :=
  .ask "signmessagewithprivkey" [.text key, .text message] .string

/-- Whether a message was signed with the key of an address. -/
def verifyMessage (address signature message : String) : Operation Bool :=
  .ask "verifymessage" [.text address, .text signature, .text message] .bool

end NodeRpc.Node
