import NodeRpc.Shape.Basic

/-!
# Results about mining

Mining state and block templates: what the node answers to `getmininginfo` and `getminingcandidate`.

The value of a template's coinbase is sent in satoshi, as an integer. All other amounts are numbers
of coins. It has a shape of its own, so the two cannot be taken for each other once they are read.

How a member is spelled follows no rule: `nBits`, `prevhash` and `num_tx` stand in one record. The
names are the node's.
-/

namespace NodeRpc

/-- The state of mining; what describes the current block is missing when there is none. -/
structure MiningInfo where
  blocks : UInt64
  currentBlockSize : UInt64
  currentBlockTx : UInt64
  difficulty : Binary64
  errors : String
  networkHashPs : Binary64
  pooledTx : UInt64
  chain : String

def MiningInfo.shape : Shape MiningInfo :=
  .record "MiningInfo"
    (.need "blocks" .u64 <|
     .mayAs "current_block_size" "currentblocksize" 0 .u64 <|
     .mayAs "current_block_tx" "currentblocktx" 0 .u64 <|
     .need "difficulty" .real <|
     .may "errors" "" .string <|
     .needAs "network_hash_ps" "networkhashps" .real <|
     .needAs "pooled_tx" "pooledtx" .u64 <|
     .need "chain" .string .nil)
    (fun (blocks, currentBlockSize, currentBlockTx, difficulty, errors, networkHashPs,
          pooledTx, chain, ()) =>
      { blocks, currentBlockSize, currentBlockTx, difficulty, errors, networkHashPs, pooledTx,
        chain })
    (fun r => (r.blocks, r.currentBlockSize, r.currentBlockTx, r.difficulty, r.errors,
               r.networkHashPs, r.pooledTx, r.chain, ()))

/-- A block template without its transactions. -/
structure MiningCandidate where
  id : String
  prevHash : Hash
  /-- The coinbase transaction, only when it was asked for. -/
  coinbase : Option String
  coinbaseValue : Amount
  version : Int32
  bits : String
  time : UInt64
  height : UInt64
  numTx : UInt64
  sizeWithoutCoinbase : UInt64
  /-- The Merkle branch of the coinbase, leaf first. -/
  merkleProof : List String

def MiningCandidate.shape : Shape MiningCandidate :=
  .record "MiningCandidate"
    (.need "id" .string <|
     .needAs "prev_hash" "prevhash" .hash <|
     .may "coinbase" none (.option .string) <|
     .needAs "coinbase_value" "coinbaseValue" .satoshi <|
     .need "version" .i32 <|
     .needAs "bits" "nBits" .string <|
     .need "time" .u64 <|
     .need "height" .u64 <|
     .need "num_tx" .u64 <|
     .needAs "size_without_coinbase" "sizeWithoutCoinbase" .u64 <|
     .mayAs "merkle_proof" "merkleProof" [] (.list .string) .nil)
    (fun (id, prevHash, coinbase, coinbaseValue, version, bits, time, height, numTx,
          sizeWithoutCoinbase, merkleProof, ()) =>
      { id, prevHash, coinbase, coinbaseValue, version, bits, time, height, numTx,
        sizeWithoutCoinbase, merkleProof })
    (fun r => (r.id, r.prevHash, r.coinbase, r.coinbaseValue, r.version, r.bits, r.time,
               r.height, r.numTx, r.sizeWithoutCoinbase, r.merkleProof, ()))

end NodeRpc
