import NodeRpc.Call.Log
import NodeRpc.Error.Basic
import NodeRpc.Text.Blank
import NodeRpc.Text.Quoted

/-!
# Reports

What is printed about a failure: what could not be done, and below it the cause, which for a failed
call has a line that says what to look at.

That line is a hint. It is chosen by words in the text of the error, and the text has parts that
come from the node or from whatever answered in its place. A message or a page that happens to have
such a word is therefore given the hint for it, though the failure is another;
`NodeRpc.Proofs.CommandLine.Hints` has the exact condition.
-/

namespace NodeRpc.CommandLine

/-- Something that could not be done, and why. -/
structure Failure where
  message : String
  cause : Option String := none
  deriving DecidableEq

/-- A line after a line break, set in by four unless it is empty. -/
def indented (line : List Char) : List Char :=
  '\n' :: if line.isEmpty then [] else [' ', ' ', ' ', ' '] ++ line

/-- The lines of a text. There is always one. -/
def lines : List Char → List (List Char)
  | [] => [[]]
  | c :: rest =>
    if c = '\n' then [] :: lines rest
    else
      match lines rest with
      | [] => [[c]]
      | first :: more => (c :: first) :: more

/-- What is printed about a failure, over lines. -/
def Failure.text (failure : Failure) : String :=
  "Error: " ++ failure.message ++
    match failure.cause with
    | some cause => "\n\nCaused by:" ++ String.ofList ((lines cause.toList).flatMap indented)
    | none => ""

/-- What to look at when a call failed. -/
inductive Hint where
  | hostname
  | encryption
  | authentication
  | path
  | unsent
  deriving DecidableEq

/-- The line that is added for a hint. -/
def Hint.message : Hint → String
  | hostname =>
    "hint: hostname resolution failed; verify the endpoint hostname and your DNS/network"
  | encryption =>
    "hint: TLS handshake failed; verify certificate trust and that the endpoint uses HTTPS"
  | authentication =>
    "hint: authentication failed; verify --rpc-user/--rpc-pass or --rpc-cookie"
  | path => "hint: endpoint path is invalid; verify the full RPC URL"
  | unsent =>
    "hint: request could not be sent; verify the node is running and rpcallowip permits this host"

/-- The hint for an error. It is chosen by words in the text of the error, the first
that is found; an error of the round trip that has none of them was not sent. -/
def hint? (error : CallError) : Option Hint :=
  let text := error.message.toList
  let mentions (words : String) : Bool := Text.occursIn words.toList text
  if mentions "dns error" || mentions "Could not resolve host" then some .hostname
  else if mentions "certificate" || mentions "tls" then some .encryption
  else if mentions "HTTP 401" || mentions "HTTP 403" then some .authentication
  else if mentions "HTTP 404" then some .path
  else
    match error with
    | .trip trip => if trip.isTransport then some .unsent else none
    | _ => none

/-- The lines about a failed call. -/
def describe (url : String) (error : CallError) : String :=
  "RPC endpoint `" ++ url ++ "`\nRPC error: " ++ error.message ++
    match hint? error with
    | some hint => "\n" ++ hint.message
    | none => ""

/-- A call failed. -/
def Failure.ofCall (url : String) (error : CallError) : Failure :=
  ⟨"RPC call failed", some (describe url error)⟩

/-- A burst is over: how many calls were issued, and how many succeeded. -/
def burstFinished (method : String) (issued completed : Nat) : LogEvent :=
  ⟨.info, "burst finished",
    [("rpc.method", String.ofList (Text.quoted method.toList)), ("issued", toString issued),
     ("completed", toString completed)]⟩

/-- The fields of a log event in a line. -/
def fieldsText (event : LogEvent) : String :=
  " ".intercalate (event.fields.map fun (name, text) => name ++ "=" ++ text)

end NodeRpc.CommandLine
