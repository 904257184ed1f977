import NodeRpc.Shape.Basic

/-!
# Results about the node itself

General state, memory and settings: what the node answers to `getinfo`, `getmemoryinfo` and
`getsettings`.

Each record stands next to its shape, which has the names of the members as the node spells them. A
member that some versions of the node leave out has the value that it then counts as, and one that
all of them send has none, so an answer without it is refused.

Settings are the one record that keeps what it has no field for. A setting that is new to the
library is then not lost to a caller who knows it.
-/

namespace NodeRpc

/-- General state of the node. -/
structure Info where
  version : UInt64
  protocolVersion : UInt64
  blocks : UInt64
  timeOffset : Int64
  connections : UInt64
  proxy : String
  difficulty : Binary64
  testnet : Bool
  stn : Bool
  relayFee : Amount
  errors : String
  maxBlockSize : Option UInt64
  maxMinedBlockSize : Option UInt64

/-- What the node tells of itself; the two limits are null where there is none. -/
def Info.shape : Shape Info :=
  .record "Info"
    (.need "version" .u64 <|
     .needAs "protocol_version" "protocolversion" .u64 <|
     .need "blocks" .u64 <|
     .mayAs "time_offset" "timeoffset" 0 .i64 <|
     .need "connections" .u64 <|
     .may "proxy" "" .string <|
     .need "difficulty" .real <|
     .may "testnet" false .bool <|
     .may "stn" false .bool <|
     .needAs "relay_fee" "relayfee" .coins <|
     .may "errors" "" .string <|
     .mayAs "max_block_size" "maxblocksize" none (.option .u64) <|
     .mayAs "max_mined_block_size" "maxminedblocksize" none (.option .u64) .nil)
    (fun (version, protocolVersion, blocks, timeOffset, connections, proxy, difficulty,
          testnet, stn, relayFee, errors, maxBlockSize, maxMinedBlockSize, ()) =>
      { version, protocolVersion, blocks, timeOffset, connections, proxy, difficulty, testnet,
        stn, relayFee, errors, maxBlockSize, maxMinedBlockSize })
    (fun r => (r.version, r.protocolVersion, r.blocks, r.timeOffset, r.connections, r.proxy,
               r.difficulty, r.testnet, r.stn, r.relayFee, r.errors, r.maxBlockSize,
               r.maxMinedBlockSize, ()))

/-- Counters of the allocator for locked memory. -/
structure LockedMemory where
  used : UInt64
  free : UInt64
  total : UInt64
  locked : UInt64
  chunksUsed : UInt64
  chunksFree : UInt64

def LockedMemory.shape : Shape LockedMemory :=
  .record "LockedMemory"
    (.need "used" .u64 <|
     .need "free" .u64 <|
     .need "total" .u64 <|
     .need "locked" .u64 <|
     .need "chunks_used" .u64 <|
     .need "chunks_free" .u64 .nil)
    (fun (used, free, total, locked, chunksUsed, chunksFree, ()) =>
      { used, free, total, locked, chunksUsed, chunksFree })
    (fun r => (r.used, r.free, r.total, r.locked, r.chunksUsed, r.chunksFree, ()))

/-- Memory in use. -/
structure MemoryInfo where
  locked : LockedMemory
  preloading : Option Bool

def MemoryInfo.shape : Shape MemoryInfo :=
  .record "MemoryInfo"
    (.need "locked" LockedMemory.shape <|
     .may "preloading" none (.option .bool) .nil)
    (fun (locked, preloading, ()) =>
      { locked, preloading })
    (fun r => (r.locked, r.preloading, ()))

/-- Limits the node runs with. Nodes add settings over time, so every member beyond
the four that have a field is kept as it is. -/
structure Settings where
  excessiveBlockSize : UInt64
  blockMaxSize : UInt64
  maxTxSizePolicy : UInt64
  minMiningTxFee : Amount
  other : List (String × Json)

def Settings.shape : Shape Settings :=
  .openRecord "Settings"
    (.needAs "excessive_block_size" "excessiveblocksize" .u64 <|
     .needAs "block_max_size" "blockmaxsize" .u64 <|
     .needAs "max_tx_size_policy" "maxtxsizepolicy" .u64 <|
     .needAs "min_mining_tx_fee" "minminingtxfee" .coins .nil)
    (fun (excessiveBlockSize, blockMaxSize, maxTxSizePolicy, minMiningTxFee, ()) other =>
      { excessiveBlockSize, blockMaxSize, maxTxSizePolicy, minMiningTxFee, other })
    (fun r =>
      ((r.excessiveBlockSize, r.blockMaxSize, r.maxTxSizePolicy, r.minMiningTxFee, ()), r.other))

end NodeRpc
