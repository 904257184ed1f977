import NodeRpc.Call.Operation
import NodeRpc.Chain.Transaction
import NodeRpc.Node.Params
import NodeRpc.Result.Ledger

/-!
# Asking for the chain and the mempool

Blocks come as hexadecimal text, which can be taken as it is or read. A block is asked for as its
bytes only, with `getblock` or `getblockbyheight`, and what it holds is read here and not by the
node.

The names of the methods are those of the node and stand in the definitions. Some of them take a
flag that says in which form the answer should be; `blockHeader` and `blockHeaderHex` both ask
`getblockheader`. The flag is always sent, although the node has a default for it, so that the
answer has the form that is expected.

An output is asked for with `gettxout`, which answers null for one that is spent. That is a result
and not an error.
-/

namespace NodeRpc.Node

/-- The block of a text the node sent. -/
def readBlock (hex : String) : Except CallError Block :=
  (Block.ofHex hex).mapError fun fault => .invalidData ("invalid block hex: " ++ fault.message)

def bestBlockHash : Operation Hash := .ask "getbestblockhash" [] .hash

/-- How much to tell of a block: nothing but its bytes. -/
def bytesOnly : Json := .word 0

def blockHex (hash : Hash) : Operation String :=
  .ask "getblock" [.hash hash, bytesOnly] .string

def blockHexByHeight (height : UInt64) : Operation String :=
  .ask "getblockbyheight" [.word height, bytesOnly] .string

/-- A block by its hash, read from its bytes. -/
def block (hash : Hash) : Operation Block := (blockHex hash).andThen readBlock

/-- A block by its height, read from its bytes. -/
def blockByHeight (height : UInt64) : Operation Block :=
  (blockHexByHeight height).andThen readBlock

def chainInfo : Operation ChainInfo := .ask "getblockchaininfo" [] ChainInfo.shape

def blockCount : Operation UInt64 := .ask "getblockcount" [] .u64

def blockHash (height : UInt64) : Operation Hash := .ask "getblockhash" [.word height] .hash

def blockHeader (hash : Hash) : Operation BlockHeader :=
  .ask "getblockheader" [.hash hash, .bool true] BlockHeader.shape

def blockHeaderHex (hash : Hash) : Operation String :=
  .ask "getblockheader" [.hash hash, .bool false] .string

def chainTips : Operation (List ChainTip) := .ask "getchaintips" [] (.list ChainTip.shape)

def difficulty : Operation Binary64 := .ask "getdifficulty" [] .real

def mempoolEntry (txid : Hash) : Operation MempoolEntry :=
  .ask "getmempoolentry" [.hash txid] MempoolEntry.shape

def mempoolIds : Operation (List Hash) := .ask "getrawmempool" [.bool false] (.list .hash)

def nonFinalMempoolIds : Operation (List Hash) := .ask "getrawnonfinalmempool" [] (.list .hash)

def mempoolAncestorIds (txid : Hash) : Operation (List Hash) :=
  .ask "getmempoolancestors" [.hash txid, .bool false] (.list .hash)

def mempoolDescendantIds (txid : Hash) : Operation (List Hash) :=
  .ask "getmempooldescendants" [.hash txid, .bool false] (.list .hash)

/-- Drops the transactions the node has marked invalid; how many bytes that freed. -/
def clearInvalidTransactions : Operation UInt64 := .ask "clearinvalidtransactions" [] .u64

/-- An output, if it is unspent. Unless told otherwise, the node counts what the
mempool spends as spent. -/
def txOut (txid : Hash) (vout : UInt32) (includeMempool : Option Bool) :
    Operation (Option TxOutInfo) :=
  .ask "gettxout" ([.hash txid, .word32 vout] ++ trailing [includeMempool.map .bool])
    (.option TxOutInfo.shape)

def outputSetInfo : Operation OutputSetInfo := .ask "gettxoutsetinfo" [] OutputSetInfo.shape

/-- Asks the node to take a block for invalid. -/
def invalidateBlock (hash : Hash) : Operation Unit := .tell "invalidateblock" [.hash hash]

/-- Asks the node to prefer a block over others of equal work. -/
def preferBlock (hash : Hash) : Operation Unit := .tell "preciousblock" [.hash hash]

/-- Prunes the chain up to a height; the height of the last block pruned. -/
def pruneChain (height : UInt64) : Operation UInt64 := .ask "pruneblockchain" [.word height] .u64

def verifyChain : Operation Bool := .ask "verifychain" [] .bool

/-- Mines blocks to the wallet, on a test chain. -/
def generate (blocks : UInt32) (maxTries : Option UInt64) : Operation (List Hash) :=
  .ask "generate" (.word32 blocks :: trailing [maxTries.map .word]) (.list .hash)

/-- Mines blocks to an address, on a test chain. -/
def generateToAddress (blocks : UInt32) (address : String) (maxTries : Option UInt64) :
    Operation (List Hash) :=
  .ask "generatetoaddress"
    ([.word32 blocks, .text address] ++ trailing [maxTries.map .word]) (.list .hash)

end NodeRpc.Node
