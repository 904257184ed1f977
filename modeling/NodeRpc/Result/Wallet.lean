import NodeRpc.Shape.Basic

/-!
# Results about addresses and the wallet

Addresses, wallet state and spendable outputs: what the node answers to `validateaddress`,
`createmultisig`, `getwalletinfo` and `listunspent`.

Of an address that is not valid the node tells only that. So all other members may be missing, and
which of them are there depends on whose address it is.
-/

namespace NodeRpc

/-- What the node knows of an address. -/
structure ValidateAddress where
  isValid : Bool
  address : Option String
  scriptPubKey : Option String
  isMine : Option Bool
  isWatchOnly : Option Bool
  isScript : Option Bool

def ValidateAddress.shape : Shape ValidateAddress :=
  .record "ValidateAddress"
    (.needAs "is_valid" "isvalid" .bool <|
     .may "address" none (.option .string) <|
     .mayAs "script_pub_key" "scriptPubKey" none (.option .string) <|
     .mayAs "is_mine" "ismine" none (.option .bool) <|
     .mayAs "is_watch_only" "iswatchonly" none (.option .bool) <|
     .mayAs "is_script" "isscript" none (.option .bool) .nil)
    (fun (isValid, address, scriptPubKey, isMine, isWatchOnly, isScript, ()) =>
      { isValid, address, scriptPubKey, isMine, isWatchOnly, isScript })
    (fun r => (r.isValid, r.address, r.scriptPubKey, r.isMine, r.isWatchOnly, r.isScript, ()))

/-- A multisignature address and its redeem script. -/
structure MultiSig where
  address : String
  redeemScript : String

def MultiSig.shape : Shape MultiSig :=
  .record "MultiSig"
    (.need "address" .string <|
     .needAs "redeem_script" "redeemScript" .string .nil)
    (fun (address, redeemScript, ()) =>
      { address, redeemScript })
    (fun r => (r.address, r.redeemScript, ()))

/-- The state of the wallet. Until when it is unlocked is told only of a wallet that can be
locked. -/
structure WalletInfo where
  walletName : String
  walletVersion : UInt64
  balance : Amount
  unconfirmedBalance : Amount
  immatureBalance : Amount
  txCount : UInt64
  keypoolSize : UInt64
  payTxFee : Amount
  unlockedUntil : Option UInt64

def WalletInfo.shape : Shape WalletInfo :=
  .record "WalletInfo"
    (.needAs "wallet_name" "walletname" .string <|
     .needAs "wallet_version" "walletversion" .u64 <|
     .need "balance" .coins <|
     .need "unconfirmed_balance" .coins <|
     .need "immature_balance" .coins <|
     .needAs "tx_count" "txcount" .u64 <|
     .needAs "keypool_size" "keypoolsize" .u64 <|
     .needAs "pay_tx_fee" "paytxfee" .coins <|
     .may "unlocked_until" none (.option .u64) .nil)
    (fun (walletName, walletVersion, balance, unconfirmedBalance, immatureBalance, txCount,
          keypoolSize, payTxFee, unlockedUntil, ()) =>
      { walletName, walletVersion, balance, unconfirmedBalance, immatureBalance, txCount,
        keypoolSize, payTxFee, unlockedUntil })
    (fun r => (r.walletName, r.walletVersion, r.balance, r.unconfirmedBalance,
               r.immatureBalance, r.txCount, r.keypoolSize, r.payTxFee, r.unlockedUntil, ()))

/-- An output that the wallet could spend. -/
structure Unspent where
  txid : Hash
  vout : UInt32
  address : Option String
  account : Option String
  scriptPubKey : String
  amount : Amount
  confirmations : UInt64
  spendable : Bool
  safe : Option Bool

def Unspent.shape : Shape Unspent :=
  .record "Unspent"
    (.need "txid" .hash <|
     .need "vout" .u32 <|
     .may "address" none (.option .string) <|
     .may "account" none (.option .string) <|
     .needAs "script_pub_key" "scriptPubKey" .string <|
     .need "amount" .coins <|
     .need "confirmations" .u64 <|
     .need "spendable" .bool <|
     .may "safe" none (.option .bool) .nil)
    (fun (txid, vout, address, account, scriptPubKey, amount, confirmations, spendable, safe, ()) =>
      { txid, vout, address, account, scriptPubKey, amount, confirmations, spendable, safe })
    (fun r => (r.txid, r.vout, r.address, r.account, r.scriptPubKey, r.amount, r.confirmations,
               r.spendable, r.safe, ()))

end NodeRpc
