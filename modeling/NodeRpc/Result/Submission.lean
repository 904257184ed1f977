import NodeRpc.Shape.Basic

/-!
# Results of submitting transactions in a batch

What became of each transaction of a batch that was handed in with `sendrawtransactions`. Every list
is empty when all were accepted, and an answer that leaves them out says just that.

The records are nested three lists deep. A rejected transaction names those it collided with, and
one with unconfirmed ancestors names these with their inputs.
-/

namespace NodeRpc

/-- An output, by the transaction that made it and its place there. -/
structure TxInputRef where
  txid : Hash
  vout : UInt32

def TxInputRef.shape : Shape TxInputRef :=
  .record "TxInputRef"
    (.need "txid" .hash <|
     .need "vout" .u32 .nil)
    (fun (txid, vout, ()) =>
      { txid, vout })
    (fun r => (r.txid, r.vout, ()))

/-- A mempool transaction that spends what a rejected one would have spent. -/
structure CollidedTx where
  txid : Hash
  size : UInt64
  hex : String

def CollidedTx.shape : Shape CollidedTx :=
  .record "CollidedTx"
    (.need "txid" .hash <|
     .need "size" .u64 <|
     .need "hex" .string .nil)
    (fun (txid, size, hex, ()) =>
      { txid, size, hex })
    (fun r => (r.txid, r.size, r.hex, ()))

/-- A transaction that was rejected. -/
structure RejectedTx where
  txid : Hash
  rejectCode : Int64
  rejectReason : String
  collidedWith : List CollidedTx

def RejectedTx.shape : Shape RejectedTx :=
  .record "RejectedTx"
    (.need "txid" .hash <|
     .need "reject_code" .i64 <|
     .need "reject_reason" .string <|
     .mayAs "collided_with" "collidedWith" [] (.list CollidedTx.shape) .nil)
    (fun (txid, rejectCode, rejectReason, collidedWith, ()) =>
      { txid, rejectCode, rejectReason, collidedWith })
    (fun r => (r.txid, r.rejectCode, r.rejectReason, r.collidedWith, ()))

/-- An unconfirmed ancestor of a transaction. -/
structure UnconfirmedAncestor where
  txid : Hash
  vin : List TxInputRef

def UnconfirmedAncestor.shape : Shape UnconfirmedAncestor :=
  .record "UnconfirmedAncestor"
    (.need "txid" .hash <|
     .may "vin" [] (.list TxInputRef.shape) .nil)
    (fun (txid, vin, ()) =>
      { txid, vin })
    (fun r => (r.txid, r.vin, ()))

/-- A transaction with unconfirmed ancestors. -/
structure UnconfirmedTx where
  txid : Hash
  ancestors : List UnconfirmedAncestor

def UnconfirmedTx.shape : Shape UnconfirmedTx :=
  .record "UnconfirmedTx"
    (.need "txid" .hash <|
     .may "ancestors" [] (.list UnconfirmedAncestor.shape) .nil)
    (fun (txid, ancestors, ()) =>
      { txid, ancestors })
    (fun r => (r.txid, r.ancestors, ()))

/-- What became of a batch. -/
structure SendRawTransactionsResult where
  /-- Already in the mempool or the chain. -/
  known : List Hash
  /-- Accepted, then evicted from the mempool. -/
  evicted : List Hash
  invalid : List RejectedTx
  /-- Listed only on request. -/
  unconfirmed : List UnconfirmedTx

def SendRawTransactionsResult.shape : Shape SendRawTransactionsResult :=
  .record "SendRawTransactionsResult"
    (.may "known" [] (.list .hash) <|
     .may "evicted" [] (.list .hash) <|
     .may "invalid" [] (.list RejectedTx.shape) <|
     .may "unconfirmed" [] (.list UnconfirmedTx.shape) .nil)
    (fun (known, evicted, invalid, unconfirmed, ()) =>
      { known, evicted, invalid, unconfirmed })
    (fun r => (r.known, r.evicted, r.invalid, r.unconfirmed, ()))

/-- The result of a batch of which nothing is reported. -/
def SendRawTransactionsResult.empty : SendRawTransactionsResult := ⟨[], [], [], []⟩

end NodeRpc
