import NodeRpc.Chain.Amount
import NodeRpc.Text.Quoted

/-!
# Why a JSON value does not fit

A value that is asked for and not there is named by what was found and what was wanted; the other
reasons name the member, the length or the amount that is wrong.

Of what was found scalars are shown and the others only named, since an array or an object may be of
any size. There is no path into the value. An error deep inside a result says what is wrong there
and not where that is, and only the name of the call is put in front of it.
-/

namespace NodeRpc

/-- What stands where something else is wanted. -/
inductive Found where
  | null
  | bool (b : Bool)
  | integer (n : Int)
  | real (x : Binary64)
  | string (s : String)
  | sequence
  | map
  deriving DecidableEq

def Found.message : Found → String
  | null => "null"
  | bool b => "boolean `" ++ (if b then "true" else "false") ++ "`"
  | integer n => "integer `" ++ toString n ++ "`"
  | real x => "floating point `" ++ String.ofList x.json ++ "`"
  | string s => "string " ++ String.ofList (Text.quoted s.toList)
  | sequence => "sequence"
  | map => "map"

/-- Why a value cannot be decoded. -/
inductive DecodeError where
  /-- A value of another kind. -/
  | invalidType (found : Found) (wanted : String)
  /-- An integer out of range. -/
  | invalidValue (n : Int) (wanted : String)
  /-- An array of the wrong length. -/
  | invalidLength (length : Nat) (wanted : String)
  | missingField (name : String)
  /-- A hash that has not 64 digits. -/
  | hexLength
  /-- A hash with a character that is no digit. -/
  | hexDigit
  | amount (fault : AmountFault)
  deriving DecidableEq

def DecodeError.message : DecodeError → String
  | invalidType found wanted => "invalid type: " ++ found.message ++ ", expected " ++ wanted
  | invalidValue n wanted =>
    "invalid value: integer `" ++ toString n ++ "`, expected " ++ wanted
  | invalidLength length wanted =>
    "invalid length " ++ toString length ++ ", expected " ++ wanted
  | missingField name => "missing field `" ++ name ++ "`"
  | hexLength => "failed to parse hex"
  | hexDigit => "failed to parse hex digit"
  | amount fault => fault.message

end NodeRpc
