import NodeRpc.Url.Host

/-!
# URLs

A text is cleaned, its scheme is taken off, and what follows is read by the kind of scheme. URLs of
the web are read in full and written in a normal form: lower-case scheme and host, the default port
left out, dot segments resolved, and characters that cannot stand where they are percent-encoded. Of
URLs of other schemes it is only found out whether they are URLs.

The normal form is what requests name and what errors show, so every step of it can be seen from
outside. The steps are those of the URL standard for what it calls special schemes: a backslash
counts as a slash, any number of slashes may stand in front of the host, and a user and a password
end at the *last* at sign.

A URL that is no URL is refused with one of a few reasons, the first that is met. The order of the
checks is part of what is modelled for that reason.
-/

namespace NodeRpc

/-- A URL of the web. -/
structure WebUrl where
  secure : Bool
  /-- The user name, percent-encoded. -/
  user : List Char
  /-- The password, percent-encoded; none if it is empty. -/
  password : Option (List Char)
  host : Url.Host
  /-- The port, if it is not the default one. -/
  port : Option Nat
  /-- The segments of the path, percent-encoded. -/
  path : List (List Char)
  query : Option (List Char)
  fragment : Option (List Char)
  deriving DecidableEq

namespace Url

/-- What a URL leads to. -/
inductive Address where
  | web (url : WebUrl)
  | other (scheme : String)

/-- How a URL goes on after its scheme. -/
inductive SchemeKind where
  | web (secure : Bool)
  /-- A scheme other than those of the web that is read like them. -/
  | weblike
  | file
  | plain
  deriving DecidableEq

def schemeKind (scheme : String) : SchemeKind :=
  match scheme with
  | "http" => .web false
  | "https" => .web true
  | "ws" | "wss" | "ftp" => .weblike
  | "file" => .file
  | _ => .plain

/-- A URL without control characters and spaces at its ends and without tabs and line
breaks anywhere. -/
def clean (text : List Char) : List Char :=
  let isEdge := fun c : Char => decide (c.toNat ≤ 0x20)
  let stripped := ((text.dropWhile isEdge).reverse.dropWhile isEdge).reverse
  stripped.filter fun c => c ≠ '\t' ∧ c ≠ '\n' ∧ c ≠ '\r'

/-- Whether a character can stand in a scheme after its first letter. -/
def isSchemeChar (c : Char) : Bool := c.isAlphanum || c == '+' || c == '-' || c == '.'

/-- The scheme in lower case, and what follows its colon. -/
def splitScheme? (text : List Char) : Option (String × List Char) :=
  match text, Text.splitOnce ':' text with
  | first :: _, some (scheme, rest) =>
    if first.isAlpha && scheme.all isSchemeChar then
      some (String.ofList (scheme.map Text.asciiLower), rest)
    else none
  | _, _ => none

/-- Whether the part of a URL that names the host ends at a character. Read like the
web, a backslash is a slash. -/
def endsAuthority (weblike : Bool) (c : Char) : Bool :=
  c == '/' || c == '?' || c == '#' || (weblike && c == '\\')

/-- The text before and after the last occurrence of a character. -/
def splitLast (mark : Char) (text : List Char) : Option (List Char × List Char) :=
  (Text.splitOnce mark text.reverse).map fun (after, before) => (before.reverse, after.reverse)

/-- Host and port apart: at the first colon outside brackets. -/
def splitPort (inBrackets : Bool) : List Char → List Char × Option (List Char)
  | [] => ([], none)
  | c :: rest =>
    if c = ':' ∧ !inBrackets then ([], some rest)
    else
      let inBrackets := if c = '[' then true else if c = ']' then false else inBrackets
      let (host, port) := splitPort inBrackets rest
      (c :: host, port)

def portLimit : Nat := 65535

/-- The port that digits spell; none if there are no digits. -/
def readPort (digits : List Char) : Except UrlFault (Option Nat) :=
  if digits.isEmpty then .ok none
  else
    match Text.numberInBase? 10 digits with
    | some port => if port ≤ portLimit then .ok (some port) else .error .port
    | none => .error .port

/-- User name and password, percent-encoded. An empty password is none. -/
def readUserinfo (text : List Char) : List Char × Option (List Char) :=
  match Text.splitOnce ':' text with
  | none => (encode .userinfo text, none)
  | some (user, []) => (encode .userinfo user, none)
  | some (user, password) => (encode .userinfo user, some (encode .userinfo password))

/-- Whether a segment, percent-encoded or not, is one dot. -/
def isDot (segment : List Char) : Bool :=
  let s := String.ofList (segment.map Text.asciiLower)
  s == "." || s == "%2e"

def isDoubleDot (segment : List Char) : Bool :=
  let s := String.ofList (segment.map Text.asciiLower)
  s == ".." || s == ".%2e" || s == "%2e." || s == "%2e%2e"

/-- Whether a text is the letter of a drive with its mark. -/
def isDrive (text : List Char) : Bool :=
  match text with
  | [letter, mark] => letter.isAlpha && (mark == ':' || mark == '|')
  | _ => false

/-- The segments that two dots leave of those before them, the last one first. The
letter of a drive is not taken back. -/
def takeBack : List (List Char) → List (List Char)
  | [] => []
  | last :: before => if isDrive last then last :: before else before

/-- The path of segments with the dot segments resolved; `done` holds the segments so
far, the last one first. A dot segment at the end leaves an empty one. -/
def resolve (done : List (List Char)) : List (List Char) → List (List Char)
  | [] => done.reverse
  | [last] =>
    if isDot last then ([] :: done).reverse
    else if isDoubleDot last then ([] :: takeBack done).reverse
    else (last :: done).reverse
  | segment :: rest =>
    if isDot segment then resolve done rest
    else if isDoubleDot segment then resolve (takeBack done) rest
    else resolve (segment :: done) rest

/-- The segments of the path of a web URL. The slash that it starts with may be
missing. -/
def readPath (text : List Char) : List (List Char) :=
  let slashed := text.map fun c => if c = '\\' then '/' else c
  let body := if slashed.head? = some '/' then slashed.tail else slashed
  resolve [] ((Text.splitAll '/' body).map (encode .path))

/-- What follows the host: path, query and fragment, each of the last two without the
character it starts with. -/
def splitTail (text : List Char) : List Char × Option (List Char) × Option (List Char) :=
  let (front, fragment) :=
    match Text.splitOnce '#' text with
    | some (front, fragment) => (front, some fragment)
    | none => (text, none)
  match Text.splitOnce '?' front with
  | some (path, query) => (path, some query, fragment)
  | none => (front, none, fragment)

/-- User information, host and port of the part of a URL that names them. An empty
user before an empty host is not an empty host. -/
def splitAuthority (text : List Char) : Option (List Char) × List Char × Option (List Char) :=
  match splitLast '@' text with
  | some (userinfo, hostport) => (some userinfo, splitPort false hostport)
  | none => (none, splitPort false text)

/-- A web URL after the slashes behind its scheme. -/
def readWeb (secure : Bool) (text : List Char) : Except UrlFault WebUrl := do
  let (authority, tail) := text.span fun c => !endsAuthority true c
  let (userinfo, hostText, portText) := splitAuthority authority
  if hostText.isEmpty then throw .emptyHost
  let host ← Host.parse hostText
  let port ← readPort (portText.getD [])
  let (user, password) := readUserinfo (userinfo.getD [])
  let (path, query, fragment) := splitTail tail
  return {
    secure, user, password, host
    -- the port of the scheme is left out
    port := if port = some (if secure then 443 else 80) then none else port
    path := readPath path
    query := query.map (encode .query)
    fragment := fragment.map (encode .fragment) }

/-- Whether what follows two slashes behind another scheme can stand there. -/
def checkPlain (text : List Char) : Except UrlFault Unit := do
  let (authority, tail) := text.span fun c => !endsAuthority false c
  let (userinfo, hostText, portText) := splitAuthority authority
  if userinfo = some [] ∧ hostText.isEmpty ∧ portText.isNone ∧ !tail.isEmpty then throw .emptyHost
  checkOpaqueHost hostText
  let (user, password) := readUserinfo (userinfo.getD [])
  if hostText.isEmpty ∧ (portText.isSome ∨ !user.isEmpty ∨ password.isSome) then throw .emptyHost
  let _ ← readPort ((portText.getD []).takeWhile (· ≠ '\\'))

/-- Whether what follows the scheme of a file can stand there. The letter of a drive is
no host. -/
def checkFile (text : List Char) : Except UrlFault Unit :=
  match text with
  | a :: b :: rest =>
    if (a = '/' ∨ a = '\\') ∧ (b = '/' ∨ b = '\\') then
      let host := rest.takeWhile fun c => !endsAuthority true c
      if host.isEmpty || isDrive host then .ok () else (Host.parse host).map fun _ => ()
    else .ok ()
  | _ => .ok ()

/-- What a text leads to. -/
def parse (text : List Char) : Except UrlFault Address := do
  match splitScheme? (clean text) with
  | none => throw .relative
  | some (scheme, rest) =>
    -- a web URL may have any number of slashes behind its scheme
    let unslashed := rest.dropWhile fun c => c == '/' || c == '\\'
    match schemeKind scheme with
    | .web secure => return .web (← readWeb secure unslashed)
    | .weblike =>
      -- nothing is sent there, but what is wrong with it is said
      let _ ← readWeb false unslashed
      return .other scheme
    | .file =>
      checkFile rest
      return .other scheme
    | .plain =>
      match rest with
      | '/' :: '/' :: rest =>
        checkPlain rest
        return .other scheme
      | _ => return .other scheme

end Url

namespace WebUrl

/-- The path with a slash before each segment. -/
def pathText (url : WebUrl) : List Char := url.path.flatMap fun segment => '/' :: segment

/-- Path and query, as a request names them. -/
def target (url : WebUrl) : List Char :=
  url.pathText ++
    match url.query with
    | some query => '?' :: query
    | none => []

/-- User name and password as they stand before the host. -/
def userinfoText (url : WebUrl) : List Char :=
  match url.password with
  | some password => url.user ++ ':' :: password ++ ['@']
  | none => if url.user.isEmpty then [] else url.user ++ ['@']

def hostText (url : WebUrl) : List Char :=
  url.host.text ++
    match url.port with
    | some port => ':' :: digitChars port
    | none => []

def text (url : WebUrl) : String :=
  String.ofList
    ((if url.secure then "https://" else "http://").toList ++ url.userinfoText ++ url.hostText ++
      url.target ++
      match url.fragment with
      | some fragment => '#' :: fragment
      | none => [])

/-- User name and password in clear; none if there are none, or if the user name is no
text. -/
def credentials? (url : WebUrl) : Option (String × String) :=
  match Text.textOfUtf8? (Url.decode url.user) with
  | none => none
  | some user =>
    let password := url.password.bind fun text => Text.textOfUtf8? (Url.decode text)
    if user.isEmpty && password.isNone then none
    else some (String.ofList user, String.ofList (password.getD []))

/-- The URL without user name and password. -/
def anonymous (url : WebUrl) : WebUrl := { url with user := [], password := none }

end WebUrl
end NodeRpc
