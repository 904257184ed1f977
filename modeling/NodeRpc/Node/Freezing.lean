import NodeRpc.Call.Operation
import NodeRpc.Chain.Transaction
import NodeRpc.Node.Params
import NodeRpc.Result.Freezing

/-!
# Freezing and confiscating funds

Funds are frozen between heights; transactions that confiscate them are listed with the height from
which they are enforced. The methods are `addToConsensusBlacklist` and
`addToConfiscationTxidWhitelist`.

Both take one object, in which the list stands under a name, and the records in it are nested a few
levels deep. How they are spelled differs from place to place: `txId` here where other records have
`txid`. The names are those of the node.

What the node does not take is told in its answer, item by item, and is no failure of the call.
-/

namespace NodeRpc

/-- Heights between which a freeze is enforced; without an end if there is no `stop`. -/
structure EnforceRange where
  start : UInt64
  stop : Option UInt64
  deriving DecidableEq

/-- The heights as they are sent; a range without an end has no member for it. -/
def EnforceRange.json (range : EnforceRange) : Json :=
  .ofMembers (("start", .word range.start) :: present [("stop", range.stop.map .word)])

/-- An output as it is sent. -/
def FrozenOutpoint.json (outpoint : FrozenOutpoint) : Json :=
  .ofMembers [("txId", .hash outpoint.txid), ("vout", .word32 outpoint.vout)]

/-- A fund to freeze. -/
structure FrozenFund where
  txOut : FrozenOutpoint
  enforceAtHeight : List EnforceRange
  policyExpiresWithConsensus : Bool

/-- A fund as it is sent. -/
def FrozenFund.json (fund : FrozenFund) : Json :=
  .ofMembers
    [("txOut", fund.txOut.json),
     ("enforceAtHeight", .array (fund.enforceAtHeight.map (·.json))),
     ("policyExpiresWithConsensus", .bool fund.policyExpiresWithConsensus)]

/-- A transaction that confiscates frozen funds. -/
structure ConfiscationTx where
  enforceAtHeight : UInt64
  hex : String
  deriving DecidableEq

/-- A transaction to list, as its wire form. -/
def ConfiscationTx.ofTransaction (tx : Transaction) (enforceAtHeight : UInt64) : ConfiscationTx :=
  ⟨enforceAtHeight, tx.hex⟩

/-- A transaction as it is sent. -/
def ConfiscationTx.json (tx : ConfiscationTx) : Json :=
  .ofMembers [("enforceAtHeight", .word tx.enforceAtHeight), ("hex", .text tx.hex)]

namespace Node

/-- Lists funds that nobody may spend. -/
def addToConsensusBlacklist (funds : List FrozenFund) : Operation BlacklistResult :=
  .ask "addToConsensusBlacklist" [.ofMembers [("funds", .array (funds.map (·.json)))]]
    BlacklistResult.shape

/-- Lists transactions that confiscate frozen funds. -/
def addToConfiscationWhitelist (txs : List ConfiscationTx) : Operation WhitelistResult :=
  .ask "addToConfiscationTxidWhitelist"
    [.ofMembers
      [("confiscationTxs",
        .array (txs.map fun tx => .ofMembers [("confiscationTx", tx.json)]))]]
    WhitelistResult.shape

end Node
end NodeRpc
