import NodeRpc.Endpoint.Credentials
import NodeRpc.Url.Basic

/-!
# The settings of an endpoint

Where the node is and how to speak to it. The URL is judged before the credentials, and it is kept
as it was given.

It is kept for two reasons. Errors show it to whoever wrote it, and a URL that was parsed and
written again may look different. And the URL may hold a user and a password of its own, which are
used along with those of the settings and are left out where the URL in use is shown.

Only `http` and `https` will do. A URL of another scheme is refused for its scheme, although it is a
URL, and a text that is none is refused with what is wrong with it.
-/

namespace NodeRpc

/-- The settings. All but the place of the node and the credentials have a value that will do for
most. -/
structure Config where
  /-- The URL as it was given. -/
  connection : String
  /-- The URL as it is used. -/
  url : WebUrl
  credentials : Option Credentials
  /-- The identifier sent with every request. -/
  clientId : String := "bn"
  protocolVersion : String := "1.0"
  connectTimeout : Duration := .ofSeconds 10
  requestTimeout : Duration := .ofSeconds 30
  /-- How many requests may be sent in a second; no limit if there is none. -/
  requestsPerSecond : Option UInt32 := none

namespace Config

/-- The URL of the web that a text is. -/
def readUrl (connection : String) : Except CallError WebUrl :=
  match Url.parse connection.toList with
  | .ok (.web url) => .ok url
  | .ok (.other scheme) =>
    .error (.invalidConfig
      ("unsupported connection scheme `" ++ scheme ++ "`; expected http or https"))
  | .error fault =>
    .error (.invalidConfig
      ("invalid connection `" ++ connection ++ "`: expected HTTP(S) URL (" ++ fault.message ++ ")"))

/-- The settings of an endpoint with everything else as usual. -/
def make (connection : String) (user password : Option String) (cookie : Option CookieFile) :
    Except CallError Config := do
  let url ← readUrl connection
  let credentials ← Credentials.choose user password cookie
  return { connection, url, credentials }

/-- Whether an endpoint can be used with these settings. -/
def check (config : Config) : Except CallError Unit :=
  if config.requestsPerSecond = some 0 then
    .error (.invalidConfig "requests_per_second must be at least 1")
  else .ok ()

end Config
end NodeRpc
