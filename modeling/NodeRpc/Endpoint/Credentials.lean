import NodeRpc.Error.Basic
import NodeRpc.Text.Blank
import NodeRpc.Text.Utf8

/-!
# Credentials

A user and a password that are both given win over everything else; one of them alone is a mistake.
Without them a cookie file is read: its first line, without white space at its ends, is the user, a
colon and the password.

A node writes such a file when it starts, and a new password with it, so the file is read each time
an endpoint is made and not kept. The password ends with the line. It may hold colons, as only the
first one counts, and it may not be empty.

That one of the two given alone is refused, and not filled up from the file, is deliberate: whoever
gives a user means that user.

The errors name the path and say what is wrong with the file, but none of them shows anything of
what it holds.
-/

namespace NodeRpc

/-- Who asks, and what proves it. -/
structure Credentials where
  user : String
  password : String
  deriving DecidableEq

/-- Why a file could not be read. -/
inductive FileFault where
  | missing
  | directory
  | notText
  | other (detail : String)
  deriving DecidableEq

def FileFault.message : FileFault → String
  | missing => "No such file or directory (os error 2)"
  | directory => "Is a directory (os error 21)"
  | notText => "stream did not contain valid UTF-8"
  | other detail => detail

/-- A cookie file: its path, and its bytes or why there are none. -/
structure CookieFile where
  path : String
  content : Except FileFault (List UInt8)

/-- What is wrong with a cookie file. -/
inductive CookieFault where
  | unreadable (fault : FileFault)
  | empty
  | noColon
  | emptyPart
  deriving DecidableEq

def CookieFault.message (path : String) : CookieFault → String
  | unreadable fault => "failed to read rpc cookie file " ++ path ++ ": " ++ fault.message
  | empty => "rpc cookie file " ++ path ++ " is empty"
  | noColon => "rpc cookie file " ++ path ++ " must contain `username:password`"
  | emptyPart => "rpc cookie file " ++ path ++ " must contain non-empty `username:password`"

namespace Credentials

/-- The credentials in the text of a cookie file. -/
def ofCookieText (text : List Char) : Except CookieFault Credentials :=
  let line := Text.trim (Text.firstLine text)
  if line.isEmpty then .error .empty
  else
    match Text.splitOnce ':' line with
    | none => .error .noColon
    | some (user, password) =>
      if user.isEmpty ∨ password.isEmpty then .error .emptyPart
      else .ok ⟨String.ofList user, String.ofList password⟩

/-- The credentials in a cookie file. -/
def ofCookie (cookie : CookieFile) : Except CookieFault Credentials :=
  match cookie.content with
  | .error fault => .error (.unreadable fault)
  | .ok bytes =>
    match Text.textOfUtf8? bytes with
    | none => .error (.unreadable .notText)
    | some text => ofCookieText text

/-- The credentials to use, if any. -/
def choose (user password : Option String) (cookie : Option CookieFile) :
    Except CallError (Option Credentials) :=
  match user, password with
  | some user, some password => .ok (some ⟨user, password⟩)
  | none, none =>
    match cookie with
    | none => .ok none
    | some cookie =>
      match ofCookie cookie with
      | .ok credentials => .ok (some credentials)
      | .error fault => .error (.invalidConfig (fault.message cookie.path))
  | _, _ => .error (.invalidConfig "both rpc user and rpc pass must be set together")

end Credentials
end NodeRpc
