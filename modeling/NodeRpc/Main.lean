import NodeRpc.CommandLine.Exit
import NodeRpc.Endpoint.Message
import Std.Async.DNS
import Std.Async.TCP
import Std.Async.Timer

/-!
# The program

Reads the arguments, the environment and the cookie file, makes the one exchange a job needs, and
prints what the job makes of it. Connections are not encrypted: an exchange with an `https` endpoint
is lost.

This is the only module that does anything. It decides nothing: what is sent, what an answer comes
to and what is printed are functions of other modules, and the exchange is made by bytes that one of
them has written and read. What it does decide is when to stop waiting, and that is the shorter of
the request timeout and the deadline of the job.
-/

namespace NodeRpc.Main

open Std.Async Std.Net

instance : Inhabited Exchange := ⟨.lost⟩

/-- Why reading a file failed. -/
def fileFault : IO.Error → FileFault
  | .noFileOrDirectory _ _ _ => .missing
  | .inappropriateType _ 21 _ => .directory
  | .permissionDenied _ code detail | .inappropriateType _ code detail =>
    .other (detail ++ " (os error " ++ toString code ++ ")")
  | fault => .other (toString fault)

/-- The bytes of a file, or why there are none. -/
def readFile (path : String) : IO (Except FileFault (List UInt8)) := do
  try
    return .ok (← IO.FS.readBinFile path).toList
  catch fault =>
    return .error (fileFault fault)

/-- The values of the environment variables that stand in for options. -/
def readEnvironment : IO (String → Option String) := do
  let names := CommandLine.Setting.all.filterMap (·.environmentName?)
  let values ← names.mapM fun name => return (name, ← IO.getEnv name)
  return fun name => (values.lookup name).join

/-- The addresses of a host. -/
def addresses (host : Url.Host) : Async (List IPAddr) := do
  let text := String.ofList host.text
  match host with
  | .domain _ => return (← DNS.getAddrInfo text "").toList
  | .ipv4 _ => return (IPv4Addr.ofString text).toList.map .v4
  | .ipv6 _ =>
    let bare := String.ofList (host.text.drop 1).dropLast
    return (IPv6Addr.ofString bare).toList.map .v6

def socketAddress (port : UInt16) : IPAddr → SocketAddress
  | .v4 address => .v4 ⟨address, port⟩
  | .v6 address => .v6 ⟨address, port⟩

/-- Receives until the bytes make an exchange. -/
partial def receive (socket : TCP.Socket.Client) (received : ByteArray) : Async Exchange := do
  match ← socket.recv? 65536 with
  | some more =>
    let received := received ++ more
    match Message.exchange? false (received.size + 1) received.toList with
    | some exchange => return exchange
    | none => receive socket received
  | none =>
    return (Message.exchange? true (received.size + 1) received.toList).getD .lost

/-- Sends a request to an address and receives the answer, over a connection of its own. -/
def converse (config : Config) (request : HttpRequest) (address : SocketAddress) :
    Async Exchange := do
  let socket ← TCP.Socket.Client.mk
  socket.connect address
  socket.send ⟨(request.bytes (String.ofList config.url.hostText)).toArray⟩
  receive socket .empty

/-- The exchange of a request. Whatever goes wrong on the way, the exchange is lost. -/
def perform (config : Config) (request : HttpRequest) : Async Exchange := do
  if config.url.secure then return .lost
  try
    match ← addresses config.url.host with
    | address :: _ =>
      converse config request (socketAddress (UInt16.ofNat (config.url.port.getD 80)) address)
    | [] => return .lost
  catch _ => return .lost

/-- Silence for some milliseconds. -/
def silence (milliseconds : Nat) : Async Exchange := do
  Std.Async.sleep (.ofNat milliseconds)
  return .silent

/-- The exchange of a job, given up when nobody waits for it any more. -/
def exchangeOf (job : CommandLine.Job) : IO Arrival := do
  if !job.config.isSendable then return ⟨0, .unsent⟩
  let start ← IO.monoMsNow
  let limit := (job.limit.map fun seconds => seconds.toNat * 1000 + 1).getD
    job.config.requestTimeout.ticks
  let wait := min limit job.config.requestTimeout.ticks
  let exchange ← (Async.race (perform job.config job.request) (silence wait)).block
  return ⟨(← IO.monoMsNow) - start, exchange⟩

/-- Prints the end of a command. -/
def finish (exit : CommandLine.Exit) : IO UInt32 := do
  for event in exit.log do
    IO.eprintln (" INFO " ++ event.message ++ " " ++ CommandLine.fieldsText event)
  IO.eprint exit.error
  IO.print exit.output
  return exit.code

end NodeRpc.Main

open NodeRpc NodeRpc.Main in
def main (args : List String) : IO UInt32 := do
  match CommandLine.parse (← readEnvironment) args with
  | .error stop => finish stop.exit
  | .ok options =>
    let cookie ←
      match options.cookie with
      | some path => readFile path
      | none => pure (.error .missing)
    match CommandLine.Job.prepare options cookie with
    | .error failure => finish failure.exit
    | .ok job => finish (job.run (← exchangeOf job)).exit
