import NodeRpc.Call.Operation
import NodeRpc.Chain.Transaction
import NodeRpc.Json.Printer
import NodeRpc.Node.Params
import NodeRpc.Result.Mining

/-!
# Mining

Asking for work and handing in what was found: `getminingcandidate`, `submitminingsolution` and
`submitblock`, with `getmininginfo`, `getnetworkhashps` and `prioritisetransaction`.

The node answers a solution in several ways. Null and true both mean that it was accepted, a text
says why it was not, and any other value is taken for a reason as well and shown as it is. A
rejected block is a result, so a miner that asks has to look at it.

An option of a solution that is left out has no member. To send null instead would ask the node for
something else.
-/

namespace NodeRpc

/-- The solution of a block template. -/
structure MiningSolution where
  id : String
  nonce : UInt32
  coinbase : Option String
  time : Option UInt32
  version : Option UInt32
  deriving DecidableEq

/-- The solution as it is sent; an option that is left out has no member. -/
def MiningSolution.json (solution : MiningSolution) : Json :=
  .ofMembers
    ([("id", .text solution.id), ("nonce", .word32 solution.nonce)] ++
      present
        [("coinbase", solution.coinbase.map .text),
         ("time", solution.time.map .word32),
         ("version", solution.version.map .word32)])

namespace Node

def miningInfo : Operation MiningInfo := .ask "getmininginfo" [] MiningInfo.shape

/-- The hashes per second over some blocks, as of some height. -/
def networkHashPs (blocks height : Option Int64) : Operation Binary64 :=
  .ask "getnetworkhashps" (trailing [blocks.map .int, height.map .int]) .real

/-- Changes the priority of a transaction by a number of satoshi. The node ignores the
second parameter. -/
def prioritiseTransaction (txid : Hash) (feeDelta : Int64) : Operation Bool :=
  .ask "prioritisetransaction" [.hash txid, .word 0, .int feeDelta] .bool

/-- Work for the next block, with its coinbase transaction if that is asked for. -/
def miningCandidate (includeCoinbase : Option Bool) : Operation MiningCandidate :=
  .ask "getminingcandidate" (trailing [includeCoinbase.map .bool]) MiningCandidate.shape

/-- Why a solution was rejected: null and true are acceptance, a text is the reason. -/
def rejection? : Json → Option String
  | .null | .bool true => none
  | .string reason => some reason
  | other => some other.compact

/-- Hands in a solution; nothing when it is accepted, else the node's reason. -/
def submitMiningSolution (solution : MiningSolution) : Operation (Option String) :=
  (Operation.ask "submitminingsolution" [solution.json] .json).map rejection?

/-- Hands in a block; nothing when it is accepted, else the node's reason. -/
def submitBlock (block : Block) : Operation (Option String) :=
  .ask "submitblock" [.text block.hex] (.option .string)

end Node
end NodeRpc
