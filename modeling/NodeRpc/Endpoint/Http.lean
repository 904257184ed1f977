import NodeRpc.Call.Log
import NodeRpc.Call.Transport
import NodeRpc.Endpoint.Config
import NodeRpc.Endpoint.Envelope
import NodeRpc.Endpoint.Status
import NodeRpc.Text.Base64

/-!
# Calls over HTTP

One call is one request with a JSON body. What the exchange comes to depends on how it goes and, if
an answer arrives, on its status and its text. Nodes report the failure of a call with a status of
400 or 500 and a proper answer, so the text is tried first, and the status alone decides only when
the text is no answer.

An exchange goes in one of five ways, and a network is what chooses among them, with a delay.
Nothing else is known of it. An answer that takes longer than the request timeout is no answer, so
from outside a slow node and a silent one are alike; that each call takes at most the timeout
follows from the network's delay being cut there.

The body is taken for text whatever it is, with replacement characters where it is none, so that an
error can show it. An answer of a status that has no body has the empty text, which is no answer.

Credentials are sent with every request. Those in the URL are taken out of it and sent as a header
of their own, and if the settings have some too, both headers are sent.
-/

namespace NodeRpc

/-- A request as it goes to the node. -/
structure HttpRequest where
  /-- Path and query. -/
  target : String
  authorization : List String
  contentType : String := "application/json"
  body : String

/-- How an exchange goes. -/
inductive Exchange where
  | response (status : Nat) (body : List UInt8)
  /-- The body of the answer breaks off. -/
  | brokenOff
  /-- There is no connection, or it ends before an answer. -/
  | lost
  /-- No answer ever comes. -/
  | silent
  /-- Nothing is sent, as no request can name the URL. -/
  | unsent

/-- An exchange, and how many milliseconds it takes. This is all that a network decides. -/
structure Arrival where
  delay : Nat
  exchange : Exchange

namespace LogEvent

/-- A request goes out; its parameters are counted and not shown. -/
def calling (id method : String) (params : Nat) : LogEvent :=
  ⟨.debug, "rpc call", [("rpc.id", id), ("rpc.method", method), ("rpc.params", toString params)]⟩

/-- An answer has come, of this many bytes of text. -/
def answered (method : String) (status length : Nat) : LogEvent :=
  ⟨.debug, "rpc response",
    [("rpc.method", method), ("status", Status.text status), ("body_len", toString length)]⟩

/-- The text of an answer, for those who want everything. -/
def answerBody (method body : String) : LogEvent :=
  ⟨.trace, "rpc response body", [("rpc.method", method), ("body", body)]⟩

end LogEvent

/-- How many characters of a text an error shows. -/
def previewLimit : Nat := 512

/-- The start of a text. -/
def preview (text : List Char) : String :=
  if previewLimit < text.length then String.ofList (text.take previewLimit) ++ "..."
  else String.ofList text

/-- What an answer comes to for a client. -/
def classify (clientId : String) (status : Nat) (body : List Char) : Outcome :=
  match Envelope.parse body with
  | .ok envelope => envelope.outcome clientId
  | .error fault =>
    if Status.isSuccess status then
      .error (.invalidResponse
        ("decode JSON-RPC response: " ++ fault.describe body ++ "; body=" ++ preview body))
    else .error (.httpStatus status (preview body))

namespace Credentials

/-- The header value of a user and a password. -/
def authorization (c : Credentials) : String :=
  "Basic " ++ String.ofList (Text.base64 (Text.utf8Bytes (c.user ++ ":" ++ c.password).toList))

end Credentials

namespace Config

/-- User and password in the URL. -/
def urlCredentials (config : Config) : Option Credentials :=
  config.url.credentials?.map fun (user, password) => ⟨user, password⟩

/-- The URL that requests go to. User and password are taken out of it when they are
sent as a header. -/
def requestUrl (config : Config) : WebUrl :=
  if config.urlCredentials.isSome then config.url.anonymous else config.url

/-- How many bytes a URL that a request names can have. -/
def urlLimit : Nat := 65534

/-- The characters that a domain can hold but the URL of a request cannot. -/
def unsendable : List Char := ['"', '`', '\x7b', '\x7d']

/-- Whether a request can name the URL. -/
def isSendable (config : Config) : Bool :=
  !config.requestUrl.host.text.any unsendable.contains &&
    config.requestUrl.text.utf8ByteSize ≤ urlLimit

/-- The text of a request: the four members of a call, with the parameters as they are and not
sorted. -/
def requestBody (config : Config) (method : String) (params : List Json) : String :=
  (Json.object
    [("jsonrpc", .string config.protocolVersion), ("id", .string config.clientId),
     ("method", .string method), ("params", .array params)]).compact

/-- The request of a call. Credentials of the URL and of the settings are both sent. -/
def request (config : Config) (method : String) (params : List Json) : HttpRequest where
  target := String.ofList config.requestUrl.target
  authorization :=
    (config.urlCredentials.toList ++ config.credentials.toList).map Credentials.authorization
  body := config.requestBody method params

/-- The text of an answer. Bytes that are no text are replaced. -/
def answerText (status : Nat) (body : List UInt8) : List Char :=
  if Status.isBodiless status then [] else Text.textOfUtf8 body

/-- How an exchange goes if it would go as given once the request is sent. -/
def attempt (config : Config) (exchange : Exchange) : Exchange :=
  if config.isSendable then exchange else .unsent

/-- What an exchange comes to. -/
def outcome (config : Config) : Exchange → Outcome
  | .response status body => classify config.clientId status (answerText status body)
  | .brokenOff => .error (.transport "error decoding response body")
  | .lost | .silent =>
    .error (.transport ("error sending request for url (" ++ config.requestUrl.text ++ ")"))
  | .unsent => .error (.transport ("builder error for url (" ++ config.requestUrl.text ++ ")"))

/-- What is logged about a call and its exchange. -/
def log (config : Config) (method : String) (params : List Json) (exchange : Exchange) :
    List LogEvent :=
  .calling config.clientId method params.length ::
    match exchange with
    | .response status body =>
      let text := String.ofList (answerText status body)
      [.answered method status text.utf8ByteSize, .answerBody method text]
    | _ => []

/-- The reply to a call. One that never comes is given up at the request timeout. -/
def reply (config : Config) (arrival : Arrival) : Reply :=
  match arrival.exchange with
  | .silent => ⟨config.requestTimeout.ticks, .answers (config.outcome .silent)⟩
  | exchange =>
    if config.requestTimeout.ticks < arrival.delay then
      ⟨config.requestTimeout.ticks, .answers (config.outcome .silent)⟩
    else ⟨arrival.delay, .answers (config.outcome exchange)⟩

/-- The transport of an endpoint over a network that makes exchanges of requests. -/
def transport {σ : Type} (config : Config) (network : σ → HttpRequest → Arrival × σ) :
    Transport σ where
  send memory method params :=
    if config.isSendable then
      let (arrival, memory) := network memory (config.request method params)
      (config.reply arrival, memory)
    else (config.reply ⟨0, .unsent⟩, memory)

end Config
end NodeRpc
