import NodeRpc.Call.Batch
import NodeRpc.CommandLine.Arguments
import NodeRpc.CommandLine.Report
import NodeRpc.Endpoint.Http
import NodeRpc.Json.Printer
import NodeRpc.Node.Control
import NodeRpc.Node.Ledger
import NodeRpc.Node.Mining
import NodeRpc.Shape.Encode

/-!
# Jobs

A job is what a command comes to: one operation, asked once or many times at once. However often it
is asked, the calls share one request. So a job is done by one exchange with the node, and what is
printed is a function of that exchange.

The commands are `info`, `chain-info`, `block-count` and `mining-info`, which ask for one thing and
print what they have decoded of it, and `call`, which asks for anything and prints the answer as it
is. Only the last can be asked many times. A number of zero is taken for one, so there is always a
result to print; the number of calls is reported only if it was above one.

A parameter on the command line is JSON if it can be read as JSON and a text otherwise. `true` is
therefore a boolean, and a text that looks like JSON has to be given in quotes of its own.
-/

namespace NodeRpc.CommandLine

/-- An operation of an endpoint, and how it is asked. -/
structure Job where
  config : Config
  operation : Operation Json
  /-- The deadline, in whole seconds. -/
  limit : Option UInt64
  /-- How many times a bare call is asked; a command that is no bare call has none. -/
  burst : Option Nat

/-- What is printed: log events, and a text or why there is none. -/
structure Report where
  log : List LogEvent
  result : Except Failure String

/-- A parameter is JSON if it can be read as that, and else a text. -/
def readParam (text : String) : Json := (Json.parse? text).getD (.string text)

/-- The operation of a command, with its result as it is printed. -/
def Command.operation : Command → Operation Json
  | info => Node.info.map Info.shape.encode
  | chainInfo => Node.chainInfo.map ChainInfo.shape.encode
  | blockCount => Node.blockCount.map Shape.u64.encode
  | miningInfo => Node.miningInfo.map MiningInfo.shape.encode
  | call method params _ => .ask method (params.map readParam) .json

/-- How many times a bare call is asked. -/
def Command.burst? : Command → Option Nat
  | call _ _ burst => some burst
  | _ => none

/-- The settings of the options; `cookie` is the content of the cookie file. -/
def Options.config (options : Options) (cookie : Except FileFault (List UInt8)) :
    Except Failure Config := do
  let file := options.cookie.map fun path => (⟨path, cookie⟩ : CookieFile)
  match Config.make options.url options.user options.password file with
  | .error error => throw ⟨"invalid RPC configuration", some error.message⟩
  | .ok config =>
    let config :=
      { config with clientId := options.clientId, requestsPerSecond := options.rate }
    match config.check with
    | .error error => throw ⟨"build RPC client", some error.message⟩
    | .ok () => return config

namespace Job

/-- The job of the options. -/
def prepare (options : Options) (cookie : Except FileFault (List UInt8)) : Except Failure Job := do
  let config ← options.config cookie
  return {
    config
    operation := options.command.operation
    limit := options.timeout
    burst := options.command.burst? }

/-- The request that is sent for a job, which is the same for each of its calls. -/
def request (job : Job) : HttpRequest :=
  job.config.request job.operation.method job.operation.params

/-- How long the callers of a job wait. Real time lies between two milliseconds, so a
span is found to be over one later than it takes. -/
def patience (job : Job) : Patience :=
  match job.limit with
  | some seconds =>
    let limit := Duration.ofSeconds seconds.toNat
    .within limit (limit.ticks + 1)
  | none => .unlimited

/-- The results of all the callers of a job when its exchange goes as given. -/
def results (job : Job) (arrival : Arrival) : List (Except CallError (List Json)) :=
  let transport := job.config.transport fun () _ => (arrival, ())
  let callers := max (job.burst.getD 1) 1
  ((Timeline.start transport ()).runAll "node" job.patience
    (List.replicate callers [job.operation])).1

/-- Why a job failed. A bare call tells of its deadline like of any failure. -/
def failure (job : Job) (error : CallError) : Failure :=
  match job.burst, error with
  | none, .timedOut _ limit =>
    ⟨"call timed out after " ++ toString (limit.nanos / 1000000000) ++ "s", none⟩
  | _, error => .ofCall job.config.connection error

/-- What is logged about a burst. -/
def log (job : Job) (results : List (Except CallError (List Json))) : List LogEvent :=
  match job.burst with
  | some burst =>
    if 1 < burst then
      [burstFinished job.operation.method results.length (results.countP (·.isOk))]
    else []
  | none => []

/-- What is printed when the exchange of a job goes as given: the result of the first
caller. -/
def run (job : Job) (arrival : Arrival) : Report :=
  let results := job.results arrival
  { log := job.log results
    result :=
      match results with
      | .ok (value :: _) :: _ => .ok (value.pretty ++ "\n")
      | .error error :: _ => .error (job.failure error)
      | _ => .error (job.failure (.invalidData "no calls issued")) }

end Job
end NodeRpc.CommandLine
