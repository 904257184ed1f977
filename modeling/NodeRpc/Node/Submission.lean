import NodeRpc.Call.Batch
import NodeRpc.Chain.Transaction
import NodeRpc.Node.Params
import NodeRpc.Node.Wallet
import NodeRpc.Result.Submission
import NodeRpc.Text.Blank

/-!
# Transactions

Fetching, building and handing in transactions: `getrawtransaction`, `createrawtransaction`,
`sendrawtransaction` and `sendrawtransactions`. That the node does not know a transaction is an
error of its own, and it is told by the node's error code together with the wording of its message.

The code is that for an unknown key or address, and the node uses it for other things as well, so
the message has to be looked at. Two wordings are known.

A transaction that is built is not signed yet. Its outputs are given as a list and sent as an object
with an amount for each address, as the node wants them. An object has one member for a name: of
several outputs for one address the last is sent, and the others are not.

In a batch that is handed in each transaction has its own options, all of which are sent. An answer
of null stands for a result without anything to tell.
-/

namespace NodeRpc

/-- A transaction of a batch. -/
structure RawSubmission where
  hex : String
  allowHighFees : Bool
  dontCheckFee : Bool
  listUnconfirmedAncestors : Bool
  deriving DecidableEq

namespace RawSubmission

/-- A transaction with the fee checks the node makes by itself. -/
def ofTransaction (tx : Transaction) : RawSubmission := ⟨tx.hex, false, false, false⟩

/-- The transaction with its options, as it is sent. -/
def json (s : RawSubmission) : Json :=
  .ofMembers
    [("hex", .text s.hex),
     ("allowhighfees", .bool s.allowHighFees),
     ("dontcheckfee", .bool s.dontCheckFee),
     ("listunconfirmedancestors", .bool s.listUnconfirmedAncestors)]

end RawSubmission

/-- An output to spend, as it is sent. -/
def TxInputRef.json (ref : TxInputRef) : Json :=
  .ofMembers [("txid", .hash ref.txid), ("vout", .word32 ref.vout)]

namespace Node

/-- The transaction of a text the node sent. -/
def readTransaction (hex : String) : Except CallError Transaction :=
  (Transaction.ofHex hex).mapError fun fault =>
    .invalidData ("invalid transaction hex: " ++ fault.message)

/-- The error code for an address or key that does not exist; transactions have it too. -/
def unknownKeyCode : Int64 := -5

/-- Whether the node says that it does not know a transaction. -/
def saysNotFound (code : Int64) (message : String) : Bool :=
  code == unknownKeyCode &&
    (let lower := message.toList.map Text.asciiLower
     Text.occursIn "not found".toList lower ||
       Text.occursIn "no such mempool or blockchain transaction".toList lower)

/-- An unknown transaction is an error of its own; others stay as they are. -/
def asNotFound (txid : Hash) : CallError → CallError
  | .trip (.serverError code message) =>
    if saysNotFound code message then .txNotFound txid else .trip (.serverError code message)
  | error => error

/-- Fetches a transaction by its identifier. -/
def rawTransaction (txid : Hash) : Operation Transaction :=
  ((Operation.ask "getrawtransaction" [.hash txid, .bool false] .string).mapError
    (asNotFound txid)).andThen readTransaction

/-- Fetches transactions at the same time, in the order of their identifiers. One
that is asked for twice is fetched once. -/
def rawTransactions (txids : List Hash) : Batch Transaction := txids.map rawTransaction

/-- Hands in a signed transaction. -/
def sendRawTransaction (tx : Transaction) (allowHighFees dontCheckFee : Option Bool) :
    Operation Hash :=
  .ask "sendrawtransaction"
    (.text tx.hex :: trailing [allowHighFees.map .bool, dontCheckFee.map .bool]) .hash

/-- Hands in a batch. What is rejected is told for each transaction and is no failure
of the call. -/
def sendRawTransactions (txs : List RawSubmission) : Operation SendRawTransactionsResult :=
  (Operation.ask "sendrawtransactions" [.array (txs.map (·.json))]
    (.option SendRawTransactionsResult.shape)).map (·.getD .empty)

/-- The outputs of a transaction to build, as they are sent: by address, and of
several for one address the last. -/
def outputsJson (outputs : List (String × Amount)) : Json :=
  .ofMembers (outputs.map fun (address, amount) => (address, amount.json))

/-- Builds a transaction that is not signed yet. -/
def createRawTransaction (inputs : List TxInputRef) (outputs : List (String × Amount)) :
    Operation Transaction :=
  (Operation.ask "createrawtransaction" [.array (inputs.map (·.json)), outputsJson outputs]
    .string).andThen readTransaction

end Node
end NodeRpc
