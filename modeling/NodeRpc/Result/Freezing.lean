import NodeRpc.Shape.Basic

/-!
# Results of freezing and confiscating funds

What could not be processed, and why: the answers to `addToConsensusBlacklist` and
`addToConfiscationTxidWhitelist`. An answer without a list stands for one in which all was
processed.

An output has `txId` here and `txid` elsewhere, so it is a record of its own.
-/

namespace NodeRpc

/-- An output as the freezing calls spell it. -/
structure FrozenOutpoint where
  txid : Hash
  vout : UInt32

def FrozenOutpoint.shape : Shape FrozenOutpoint :=
  .record "FrozenOutpoint"
    (.needAs "txid" "txId" .hash <|
     .need "vout" .u32 .nil)
    (fun (txid, vout, ()) =>
      { txid, vout })
    (fun r => (r.txid, r.vout, ()))

/-- A fund that could not be frozen, and why. -/
structure UnprocessedFund where
  txOut : FrozenOutpoint
  reason : String

def UnprocessedFund.shape : Shape UnprocessedFund :=
  .record "UnprocessedFund"
    (.needAs "tx_out" "txOut" FrozenOutpoint.shape <|
     .need "reason" .string .nil)
    (fun (txOut, reason, ()) =>
      { txOut, reason })
    (fun r => (r.txOut, r.reason, ()))

/-- What became of funds to freeze. -/
structure BlacklistResult where
  notProcessed : List UnprocessedFund

def BlacklistResult.shape : Shape BlacklistResult :=
  .record "BlacklistResult"
    (.mayAs "not_processed" "notProcessed" [] (.list UnprocessedFund.shape) .nil)
    (fun (notProcessed, ()) =>
      { notProcessed })
    (fun r => (r.notProcessed, ()))

/-- A confiscation transaction, by its identifier. -/
structure ConfiscationTxRef where
  txid : Hash

def ConfiscationTxRef.shape : Shape ConfiscationTxRef :=
  .record "ConfiscationTxRef"
    (.needAs "txid" "txId" .hash .nil)
    (fun (txid, ()) =>
      { txid })
    (fun r => (r.txid, ()))

/-- A confiscation transaction that could not be listed. -/
structure UnprocessedConfiscation where
  confiscationTx : ConfiscationTxRef
  reason : String

def UnprocessedConfiscation.shape : Shape UnprocessedConfiscation :=
  .record "UnprocessedConfiscation"
    (.needAs "confiscation_tx" "confiscationTx" ConfiscationTxRef.shape <|
     .need "reason" .string .nil)
    (fun (confiscationTx, reason, ()) =>
      { confiscationTx, reason })
    (fun r => (r.confiscationTx, r.reason, ()))

/-- What became of confiscation transactions. -/
structure WhitelistResult where
  notProcessed : List UnprocessedConfiscation

def WhitelistResult.shape : Shape WhitelistResult :=
  .record "WhitelistResult"
    (.mayAs "not_processed" "notProcessed" [] (.list UnprocessedConfiscation.shape) .nil)
    (fun (notProcessed, ()) =>
      { notProcessed })
    (fun r => (r.notProcessed, ()))

end NodeRpc
