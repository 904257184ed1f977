import NodeRpc.Call.Operation
import NodeRpc.Node.Params
import NodeRpc.Result.Network

/-!
# Asking for the network

Its state, the peers, and who is connected or banned: `getnetworkinfo`, `getnettotals`,
`getpeerinfo`, `getconnectioncount`, `ping`, `addnode`, `disconnectnode`, `setban`, `listbanned`,
`clearbanned` and `setnetworkactive`.

What to do with a peer or a subnet is one of a few words, and each is a type of its own, so that no
other word can be sent. A peer is named by its address or by its number. Parameters go by position,
so a number has an empty address in front of it, which the node takes for none.
-/

namespace NodeRpc

/-- What to do with an address on the list of peers. -/
inductive PeerAction where
  | add
  | remove
  | tryOnce
  deriving DecidableEq

/-- The word for it. -/
def PeerAction.word : PeerAction → String
  | add => "add"
  | remove => "remove"
  | tryOnce => "onetry"

/-- What to do with a subnet on the list of bans. -/
inductive BanAction where
  | add
  | remove
  deriving DecidableEq

/-- The word for it. -/
def BanAction.word : BanAction → String
  | add => "add"
  | remove => "remove"

/-- A peer by its address or by the number the node has given it. -/
inductive PeerName where
  | address (address : String)
  | number (id : UInt64)
  deriving DecidableEq

/-- A peer as it is sent: its address, or an empty address and its number. -/
def PeerName.params : PeerName → List Json
  | address a => [.text a]
  | number id => [.text "", .word id]

namespace Node

/-- Asks the node to ping its peers; what comes of it is seen in what it tells of them. -/
def ping : Operation Unit := .tell "ping" []

def addNode (node : String) (action : PeerAction) : Operation Unit :=
  .tell "addnode" [.text node, .text action.word]

def clearBanned : Operation Unit := .tell "clearbanned" []

def disconnectNode (peer : PeerName) : Operation Unit := .tell "disconnectnode" peer.params

def connectionCount : Operation UInt64 := .ask "getconnectioncount" [] .u64

def networkTotals : Operation NetworkTotals := .ask "getnettotals" [] NetworkTotals.shape

def networkInfo : Operation NetworkInfo := .ask "getnetworkinfo" [] NetworkInfo.shape

def peerInfo : Operation (List PeerInfo) := .ask "getpeerinfo" [] (.list PeerInfo.shape)

def listBanned : Operation (List BannedSubnet) := .ask "listbanned" [] (.list BannedSubnet.shape)

/-- Bans a subnet or lifts its ban. The time is in seconds, or the point in time when
it is `absolute`. -/
def setBan (subnet : String) (action : BanAction) (banTime : Option UInt64)
    (absolute : Option Bool) : Operation Unit :=
  .tell "setban"
    ([.text subnet, .text action.word] ++ trailing [banTime.map .word, absolute.map .bool])

def setNetworkActive (enabled : Bool) : Operation Unit :=
  .tell "setnetworkactive" [.bool enabled]

end Node
end NodeRpc
