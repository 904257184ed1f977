import NodeRpc.Call.Operation
import NodeRpc.Node.Params
import NodeRpc.Result.Wallet

/-!
# The wallet

Balances come as numbers of coins and are turned into amounts, so that no caller ever reckons with
binary fractions; amounts are sent as numbers of coins. The names of the methods stand in the
definitions; most of them are those of the operations in small letters.

A balance is asked for with up to three parameters, `getbalance account minconf watchonly`. The
account has no default that could be sent where only the others are given, but the node has a name
for all accounts, and `balanceAccount` puts that in its place so that the rest can follow it. It
cannot do so where the number of confirmations is left out and the last is given. Then the account
is sent, and nothing follows it.

Operations with a passphrase are like all others to the rest of the program. What is reported about
calls has no parameters in it, which is the only precaution there is.
-/

namespace NodeRpc

/-- An amount as it is sent: the nearest number of coins. -/
def Amount.json (amount : Amount) : Json := .number (.real amount.toCoins)

namespace Node

/-- What is said of a number of coins that is no amount. -/
def invalidCoins (coins : Binary64) (fault : AmountFault) : CallError :=
  .invalidData
    ("invalid BTC amount " ++ String.ofList coins.plain ++ ": " ++ fault.summary)

/-- The amount in a number of coins that the node sent. -/
def readAmount (coins : Binary64) : Except CallError Amount :=
  (Amount.ofCoins coins).mapError (invalidCoins coins)

/-- The amount in a number of coins that the node sent, which may be below zero. -/
def readSignedAmount (coins : Binary64) : Except CallError SignedAmount :=
  (SignedAmount.ofCoins coins).mapError (invalidCoins coins)

def abandonTransaction (txid : Hash) : Operation Unit := .tell "abandontransaction" [.hash txid]

def backupWallet (destination : String) : Operation Unit :=
  .tell "backupwallet" [.text destination]

/-- The account named in a balance query: none if nothing at all is given, else the
one given or the node's name for all accounts, so that the rest can follow it. -/
def balanceAccount (account : Option String) (minConfirmations : Option UInt32)
    (includeWatchOnly : Option Bool) : Option String :=
  if account.isNone && minConfirmations.isNone && includeWatchOnly.isNone then none
  else some (account.getD "*")

/-- The balance of the wallet or of one account; that of an account can be below zero. -/
def balance (account : Option String) (minConfirmations : Option UInt32)
    (includeWatchOnly : Option Bool) : Operation SignedAmount :=
  (Operation.ask "getbalance"
    (trailing
      [(balanceAccount account minConfirmations includeWatchOnly).map .text,
       minConfirmations.map .word32,
       includeWatchOnly.map .bool])
    .real).andThen readSignedAmount

/-- What is still to be confirmed. An amount below zero is refused. -/
def unconfirmedBalance : Operation Amount :=
  (Operation.ask "getunconfirmedbalance" [] .real).andThen readAmount

def newAddress (account : Option String) : Operation String :=
  .ask "getnewaddress" (trailing [account.map .text]) .string

def rawChangeAddress : Operation String := .ask "getrawchangeaddress" [] .string

def walletInfo : Operation WalletInfo := .ask "getwalletinfo" [] WalletInfo.shape

def listUnspent (minConfirmations maxConfirmations : Option UInt32) : Operation (List Unspent) :=
  .ask "listunspent" (trailing [minConfirmations.map .word32, maxConfirmations.map .word32])
    (.list Unspent.shape)

def listWallets : Operation (List String) := .ask "listwallets" [] (.list .string)

/-- Pays an address. The comments are kept in the wallet and not sent to anybody else. -/
def sendToAddress (address : String) (amount : Amount) (comment commentTo : Option String) :
    Operation Hash :=
  .ask "sendtoaddress"
    ([.text address, amount.json] ++ trailing [comment.map .text, commentTo.map .text]) .hash

/-- Sets the fee for each thousand bytes. -/
def setTxFee (feePerKb : Amount) : Operation Bool := .ask "settxfee" [feePerKb.json] .bool

/-- Signs a message with the key of an address of the wallet. -/
def signMessage (address message : String) : Operation String :=
  .ask "signmessage" [.text address, .text message] .string

/-- Encrypts the wallet for the first time. -/
def encryptWallet (passphrase : String) : Operation Unit :=
  .tell "encryptwallet" [.text passphrase]

/-- Unlocks the wallet for some seconds. -/
def walletPassphrase (passphrase : String) (seconds : UInt64) : Operation Unit :=
  .tell "walletpassphrase" [.text passphrase, .word seconds]

def walletPassphraseChange (old new : String) : Operation Unit :=
  .tell "walletpassphrasechange" [.text old, .text new]

def walletLock : Operation Unit := .tell "walletlock" []

end Node
end NodeRpc
