import NodeRpc.Shape.Basic

/-!
# Results about the network

Network state, traffic, peers and bans: what the node answers to `getnetworkinfo`, `getnettotals`,
`getpeerinfo` and `listbanned`.

Most of what a node tells of a peer may be missing. Its number, its address and who connected to
whom may not.
-/

namespace NodeRpc

/-- The state of the node in the network. -/
structure NetworkInfo where
  version : UInt64
  subversion : String
  protocolVersion : UInt64
  localServices : String
  localRelay : Bool
  timeOffset : Int64
  connections : UInt64
  networkActive : Bool
  relayFee : Amount
  warnings : String

def NetworkInfo.shape : Shape NetworkInfo :=
  .record "NetworkInfo"
    (.need "version" .u64 <|
     .need "subversion" .string <|
     .needAs "protocol_version" "protocolversion" .u64 <|
     .needAs "local_services" "localservices" .string <|
     .needAs "local_relay" "localrelay" .bool <|
     .needAs "time_offset" "timeoffset" .i64 <|
     .need "connections" .u64 <|
     .needAs "network_active" "networkactive" .bool <|
     .needAs "relay_fee" "relayfee" .coins <|
     .may "warnings" "" .string .nil)
    (fun (version, subversion, protocolVersion, localServices, localRelay, timeOffset,
          connections, networkActive, relayFee, warnings, ()) =>
      { version, subversion, protocolVersion, localServices, localRelay, timeOffset,
        connections, networkActive, relayFee, warnings })
    (fun r => (r.version, r.subversion, r.protocolVersion, r.localServices, r.localRelay,
               r.timeOffset, r.connections, r.networkActive, r.relayFee, r.warnings, ()))

/-- Traffic counters. -/
structure NetworkTotals where
  totalBytesRecv : UInt64
  totalBytesSent : UInt64
  timeMillis : UInt64

def NetworkTotals.shape : Shape NetworkTotals :=
  .record "NetworkTotals"
    (.needAs "total_bytes_recv" "totalbytesrecv" .u64 <|
     .needAs "total_bytes_sent" "totalbytessent" .u64 <|
     .needAs "time_millis" "timemillis" .u64 .nil)
    (fun (totalBytesRecv, totalBytesSent, timeMillis, ()) =>
      { totalBytesRecv, totalBytesSent, timeMillis })
    (fun r => (r.totalBytesRecv, r.totalBytesSent, r.timeMillis, ()))

/-- A peer. The time that a ping took may not be known yet. -/
structure PeerInfo where
  id : UInt64
  addr : String
  services : String
  connTime : UInt64
  pingTime : Option Binary64
  version : UInt64
  subVersion : String
  inbound : Bool
  startingHeight : Int64
  banScore : UInt64

def PeerInfo.shape : Shape PeerInfo :=
  .record "PeerInfo"
    (.need "id" .u64 <|
     .need "addr" .string <|
     .may "services" "" .string <|
     .mayAs "conn_time" "conntime" 0 .u64 <|
     .mayAs "ping_time" "pingtime" none (.option .real) <|
     .may "version" 0 .u64 <|
     .mayAs "sub_version" "subver" "" .string <|
     .need "inbound" .bool <|
     .mayAs "starting_height" "startingheight" 0 .i64 <|
     .mayAs "ban_score" "banscore" 0 .u64 .nil)
    (fun (id, addr, services, connTime, pingTime, version, subVersion, inbound, startingHeight,
          banScore, ()) =>
      { id, addr, services, connTime, pingTime, version, subVersion, inbound, startingHeight,
        banScore })
    (fun r => (r.id, r.addr, r.services, r.connTime, r.pingTime, r.version, r.subVersion,
               r.inbound, r.startingHeight, r.banScore, ()))

/-- A subnet that is banned, and until when. -/
structure BannedSubnet where
  address : String
  bannedUntil : UInt64
  banCreated : UInt64
  banReason : String

def BannedSubnet.shape : Shape BannedSubnet :=
  .record "BannedSubnet"
    (.need "address" .string <|
     .need "banned_until" .u64 <|
     .need "ban_created" .u64 <|
     .may "ban_reason" "" .string .nil)
    (fun (address, bannedUntil, banCreated, banReason, ()) =>
      { address, bannedUntil, banCreated, banReason })
    (fun r => (r.address, r.bannedUntil, r.banCreated, r.banReason, ()))

end NodeRpc
