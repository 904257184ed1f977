import NodeRpc.Shape.Basic

/-!
# Results about the chain and the mempool

Chain state, headers, tips, mempool entries and unspent outputs: what the node answers to
`getblockchaininfo`, `getblockheader`, `getchaintips`, `getmempoolentry`, `gettxout` and
`gettxoutsetinfo`.

Amounts are amounts here and hashes are hashes. What is left as text is what nobody reckons with:
the work of a chain, the bits of a target and the root of a block's tree.

A fee that was changed by hand may be below zero, and it is the one amount in these records that
may. A block that is not on the active chain has minus one confirmations, so confirmations of a
block have a sign, and those of an output have none.
-/

namespace NodeRpc

/-- The state of the active chain. -/
structure ChainInfo where
  chain : String
  blocks : UInt64
  headers : UInt64
  bestBlockHash : Hash
  difficulty : Binary64
  medianTime : UInt64
  verificationProgress : Binary64
  chainWork : String
  pruned : Bool

def ChainInfo.shape : Shape ChainInfo :=
  .record "ChainInfo"
    (.need "chain" .string <|
     .need "blocks" .u64 <|
     .need "headers" .u64 <|
     .needAs "best_block_hash" "bestblockhash" .hash <|
     .need "difficulty" .real <|
     .needAs "median_time" "mediantime" .u64 <|
     .needAs "verification_progress" "verificationprogress" .real <|
     .needAs "chain_work" "chainwork" .string <|
     .need "pruned" .bool .nil)
    (fun (chain, blocks, headers, bestBlockHash, difficulty, medianTime, verificationProgress,
          chainWork, pruned, ()) =>
      { chain, blocks, headers, bestBlockHash, difficulty, medianTime, verificationProgress,
        chainWork, pruned })
    (fun r => (r.chain, r.blocks, r.headers, r.bestBlockHash, r.difficulty, r.medianTime,
               r.verificationProgress, r.chainWork, r.pruned, ()))

/-- A header, with what the node knows of its block. -/
structure BlockHeader where
  hash : Hash
  /-- -1 when the block is not on the active chain. -/
  confirmations : Int64
  height : UInt64
  version : Int32
  merkleRoot : String
  numTx : Option UInt64
  time : UInt64
  medianTime : UInt64
  nonce : UInt32
  bits : String
  difficulty : Binary64
  chainWork : String
  previousBlockHash : Option Hash
  nextBlockHash : Option Hash

def BlockHeader.shape : Shape BlockHeader :=
  .record "BlockHeader"
    (.need "hash" .hash <|
     .need "confirmations" .i64 <|
     .need "height" .u64 <|
     .need "version" .i32 <|
     .needAs "merkle_root" "merkleroot" .string <|
     .may "num_tx" none (.option .u64) <|
     .need "time" .u64 <|
     .needAs "median_time" "mediantime" .u64 <|
     .need "nonce" .u32 <|
     .need "bits" .string <|
     .need "difficulty" .real <|
     .needAs "chain_work" "chainwork" .string <|
     .mayAs "previous_block_hash" "previousblockhash" none (.option .hash) <|
     .mayAs "next_block_hash" "nextblockhash" none (.option .hash) .nil)
    (fun (hash, confirmations, height, version, merkleRoot, numTx, time, medianTime, nonce,
          bits, difficulty, chainWork, previousBlockHash, nextBlockHash, ()) =>
      { hash, confirmations, height, version, merkleRoot, numTx, time, medianTime, nonce, bits,
        difficulty, chainWork, previousBlockHash, nextBlockHash })
    (fun r => (r.hash, r.confirmations, r.height, r.version, r.merkleRoot, r.numTx, r.time,
               r.medianTime, r.nonce, r.bits, r.difficulty, r.chainWork, r.previousBlockHash,
               r.nextBlockHash, ()))

/-- The tip of one branch. -/
structure ChainTip where
  height : UInt64
  hash : Hash
  branchLen : UInt64
  status : String

def ChainTip.shape : Shape ChainTip :=
  .record "ChainTip"
    (.need "height" .u64 <|
     .need "hash" .hash <|
     .needAs "branch_len" "branchlen" .u64 <|
     .need "status" .string .nil)
    (fun (height, hash, branchLen, status, ()) =>
      { height, hash, branchLen, status })
    (fun r => (r.height, r.hash, r.branchLen, r.status, ()))

/-- A transaction in the mempool. -/
structure MempoolEntry where
  size : UInt64
  fee : Amount
  /-- The fee after priority changes, which can push it below zero. -/
  modifiedFee : SignedAmount
  time : UInt64
  height : UInt64
  depends : List Hash

def MempoolEntry.shape : Shape MempoolEntry :=
  .record "MempoolEntry"
    (.need "size" .u64 <|
     .need "fee" .coins <|
     .needAs "modified_fee" "modifiedfee" .signedCoins <|
     .need "time" .u64 <|
     .need "height" .u64 <|
     .may "depends" [] (.list .hash) .nil)
    (fun (size, fee, modifiedFee, time, height, depends, ()) =>
      { size, fee, modifiedFee, time, height, depends })
    (fun r => (r.size, r.fee, r.modifiedFee, r.time, r.height, r.depends, ()))

/-- A locking script as the node describes it. -/
structure ScriptPubKey where
  asm : String
  hex : String
  scriptType : Option String
  addresses : List String

def ScriptPubKey.shape : Shape ScriptPubKey :=
  .record "ScriptPubKey"
    (.may "asm" "" .string <|
     .need "hex" .string <|
     .mayAs "script_type" "type" none (.option .string) <|
     .may "addresses" [] (.list .string) .nil)
    (fun (asm, hex, scriptType, addresses, ()) =>
      { asm, hex, scriptType, addresses })
    (fun r => (r.asm, r.hex, r.scriptType, r.addresses, ()))

/-- An output that is not spent. -/
structure TxOutInfo where
  bestBlock : Hash
  confirmations : UInt64
  value : Amount
  scriptPubKey : ScriptPubKey
  coinbase : Bool

def TxOutInfo.shape : Shape TxOutInfo :=
  .record "TxOutInfo"
    (.needAs "best_block" "bestblock" .hash <|
     .need "confirmations" .u64 <|
     .need "value" .coins <|
     .needAs "script_pub_key" "scriptPubKey" ScriptPubKey.shape <|
     .may "coinbase" false .bool .nil)
    (fun (bestBlock, confirmations, value, scriptPubKey, coinbase, ()) =>
      { bestBlock, confirmations, value, scriptPubKey, coinbase })
    (fun r => (r.bestBlock, r.confirmations, r.value, r.scriptPubKey, r.coinbase, ()))

/-- All outputs that are not spent, taken together. -/
structure OutputSetInfo where
  height : UInt64
  bestBlock : Hash
  transactions : UInt64
  outputCount : UInt64
  bogoSize : UInt64
  hashSerialized : String
  diskSize : UInt64
  totalAmount : Amount

def OutputSetInfo.shape : Shape OutputSetInfo :=
  .record "OutputSetInfo"
    (.need "height" .u64 <|
     .needAs "best_block" "bestblock" .hash <|
     .need "transactions" .u64 <|
     .needAs "output_count" "txouts" .u64 <|
     .needAs "bogo_size" "bogosize" .u64 <|
     .need "hash_serialized" .string <|
     .may "disk_size" 0 .u64 <|
     .need "total_amount" .coins .nil)
    (fun (height, bestBlock, transactions, outputCount, bogoSize, hashSerialized, diskSize,
          totalAmount, ()) =>
      { height, bestBlock, transactions, outputCount, bogoSize, hashSerialized, diskSize,
        totalAmount })
    (fun r => (r.height, r.bestBlock, r.transactions, r.outputCount, r.bogoSize,
               r.hashSerialized, r.diskSize, r.totalAmount, ()))

end NodeRpc
