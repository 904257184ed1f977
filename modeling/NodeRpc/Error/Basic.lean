import NodeRpc.Chain.Hash
import NodeRpc.Error.Decoding
import NodeRpc.Error.Duration

/-!
# What can go wrong with a call

A `TripError` is the failure of one round trip and is the same for every caller that shares it. A
`CallError` is what one caller ends with: such a failure, or a reason of its own.

The two are apart because one is shared and the other is not. A round trip that failed has failed
for all of its callers, in the same words. That a result does not fit, or that a caller had enough
of waiting, is nobody else's concern, and it could not be put into what is shared without being told
to the wrong one.

What a user sees of an error is its message, so the messages are data of the model like everything
else. Some are looked at again: whether a hint is added to one goes by its words.
-/

namespace NodeRpc

/-- Why a round trip failed. -/
inductive TripError where
  /-- The exchange did not take place or broke off. -/
  | transport (detail : String)
  /-- An HTTP status with a body that is no JSON-RPC answer. -/
  | httpStatus (status : Nat) (body : String)
  /-- An answer that is not as it should be. -/
  | invalidResponse (detail : String)
  /-- The node's own error. -/
  | serverError (code : Int64) (message : String)
  /-- The round trip ended without an outcome. -/
  | aborted
  deriving DecidableEq

namespace TripError

def message : TripError → String
  | transport detail => "RPC transport failure: " ++ detail
  | httpStatus status body => "RPC endpoint returned HTTP " ++ toString status ++ ": " ++ body
  | invalidResponse detail => "invalid JSON-RPC response: " ++ detail
  | serverError code message =>
    "RPC server error " ++ toString code.toInt ++ ": " ++ message
  | aborted => "in-flight RPC call was abandoned before it completed"

/-- The round trip worked and the node reported a failure. -/
def isProtocol : TripError → Bool
  | serverError _ _ => true
  | _ => false

/-- The round trip itself failed. -/
def isTransport (e : TripError) : Bool := !e.isProtocol

end TripError

/-- What a caller ends with when it does not get its result. The first is the failure of its round
trip; the others are its own. -/
inductive CallError where
  | trip (error : TripError)
  /-- The outcome does not fit the caller's type. -/
  | decode (method : String) (cause : DecodeError)
  | cancelled (method : String)
  | timedOut (method : String) (limit : Duration)
  | txNotFound (txid : Hash)
  | invalidData (detail : String)
  | invalidConfig (detail : String)
  deriving DecidableEq

namespace CallError

def message : CallError → String
  | trip error => error.message
  | decode method cause => "failed to decode `" ++ method ++ "` result: " ++ cause.message
  | cancelled method => "call to `" ++ method ++ "` was cancelled"
  | timedOut method limit => "call to `" ++ method ++ "` timed out after " ++ limit.text
  | txNotFound txid => "transaction not found: " ++ txid.text
  | invalidData detail => "invalid node data: " ++ detail
  | invalidConfig detail => "invalid configuration: " ++ detail

/-- The node's error code, when the node itself rejected the call. -/
def serverCode? : CallError → Option Int64
  | trip (.serverError code _) => some code
  | _ => none

end CallError
end NodeRpc
