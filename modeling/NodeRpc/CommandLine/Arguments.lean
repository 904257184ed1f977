import NodeRpc.Number.Decimal

/-!
# Arguments

Options stand before the command, each at most once, and what the command line does not give is
taken from the environment. An option takes one value, after an equals sign or as the next word. A
word that starts with a dash is never a value or a parameter, unless it is a dash alone or follows a
double dash.

The order in which mistakes are found matters, since help and the version are shown instead of a
mistake that has not been found yet. A value that makes no sense is found late, when the next option
or the whole command has been read. `misuseBefore` is about that.

Which of an option and its environment variable counts is settled per option. A value from the
environment is judged like one from the command line, and only if it is used.
-/

namespace NodeRpc.CommandLine

/-- What to do. -/
inductive Command where
  | info
  | chainInfo
  | blockCount
  | miningInfo
  /-- Any method, with parameters, issued so many times at once. -/
  | call (method : String) (params : List String) (burst : Nat)
  deriving DecidableEq

/-- An option that stands before the command. Each has a name, and some can be set in the
environment. -/
inductive Setting where
  | url
  | user
  | password
  | cookie
  | clientId
  | rate
  | timeout
  deriving DecidableEq

namespace Setting

def name : Setting → String
  | url => "rpc-url"
  | user => "rpc-user"
  | password => "rpc-pass"
  | cookie => "rpc-cookie"
  | clientId => "client-id"
  | rate => "requests-per-second"
  | timeout => "timeout-secs"

/-- The environment variable that stands in for an option. -/
def environmentName? : Setting → Option String
  | url => some "BN_RPC_URL"
  | user => some "BN_RPC_USER"
  | password => some "BN_RPC_PASS"
  | cookie => some "BN_RPC_COOKIE"
  | _ => none

def all : List Setting := [url, user, password, cookie, clientId, rate, timeout]

def ofName? (name : String) : Option Setting := all.find? (·.name == name)

end Setting

/-- What the command line and the environment say. -/
structure Options where
  url : String
  user : Option String
  password : Option String
  /-- The path of the cookie file. -/
  cookie : Option String
  clientId : String
  rate : Option UInt32
  /-- The deadline of the command in seconds. -/
  timeout : Option UInt64
  command : Command
  deriving DecidableEq

/-- Why nothing is run. -/
inductive Stop where
  | version
  | help
  /-- The arguments make no sense. -/
  | misuse
  deriving DecidableEq

def digits? (text : List Char) : Option Nat :=
  if text.isEmpty then none else (text.mapM digit?).map digitsValue

/-- An unsigned number of 64 bits; a plus sign may stand before it. -/
def unsigned? (text : String) : Option UInt64 :=
  let digits :=
    match text.toList with
    | '+' :: digits => digits
    | digits => digits
  (digits? digits).bind fun n => if n < UInt64.size then some (UInt64.ofNat n) else none

/-- A number of 32 bits. It may have either sign, as long as it is not below zero. -/
def rate? (text : String) : Option UInt32 :=
  let (digits, limit) :=
    match text.toList with
    | '+' :: digits => (digits, UInt32.size)
    | '-' :: digits => (digits, 1)
    | digits => (digits, UInt32.size)
  (digits? digits).bind fun n => if n < limit then some (UInt32.ofNat n) else none

/-- Whether an option can have a value. -/
def Setting.accepts (setting : Setting) (value : String) : Bool :=
  match setting with
  | .rate => (rate? value).isSome
  | .timeout => (unsigned? value).isSome
  | .cookie => value != ""
  | _ => true

/-- What a word is by its look. -/
inductive Word where
  | plain (text : String)
  | doubleDash
  /-- A long option, with a value after an equals sign. -/
  | long (name : String) (value : Option String)
  /-- Short options. -/
  | short (letters : List Char)

/-- The text before and after the first equals sign. -/
def splitEquals : List Char → List Char × Option (List Char)
  | [] => ([], none)
  | c :: rest =>
    if c = '=' then ([], some rest)
    else
      let (name, value) := splitEquals rest
      (c :: name, value)

/-- What a word is by its look. -/
def Word.ofText (text : String) : Word :=
  match text.toList with
  | ['-', '-'] => .doubleDash
  | '-' :: '-' :: rest =>
    let (name, value) := splitEquals rest
    .long (String.ofList name) (value.map String.ofList)
  -- a dash alone is a plain word, and a negative number is an option that nobody knows
  | '-' :: c :: rest => .short (c :: rest)
  | _ => .plain text

/-- What is shown for a word that asks for the version or for help, wherever that is
known. -/
def Word.stop? (knowsVersion : Bool) : Word → Option Stop
  | .long "help" none | .short ('h' :: _) => some .help
  | .long "version" none | .short ('V' :: _) => if knowsVersion then some .version else none
  | _ => none

/-- The value of a long option and what follows it. -/
def takeValue (attached : Option String) (rest : List String) :
    Except Stop (String × List String) :=
  match attached, rest with
  | some value, _ => .ok (value, rest)
  | none, next :: rest =>
    match Word.ofText next with
    | .plain value => .ok (value, rest)
    | _ => .error .misuse
  | none, [] => .error .misuse

theorem length_takeValue {attached : Option String} {rest rest' : List String} {value : String}
    (h : takeValue attached rest = .ok (value, rest')) : rest'.length ≤ rest.length := by
  unfold takeValue at h
  split at h
  · simp_all
  · split at h
    · simp only [Except.ok.injEq, Prod.mk.injEq] at h
      simp [← h.2]
    · cases h
  · cases h

/-- What a call takes so far. -/
structure CallArguments where
  method : Option String := none
  params : List String := []
  burst : Option Nat := none

namespace CallArguments

/-- The first word is the method and the others are parameters. -/
def add (call : CallArguments) (text : String) : CallArguments :=
  match call.method with
  | none => { call with method := some text }
  | some _ => { call with params := call.params ++ [text] }

/-- The command, once the method is known. -/
def command (call : CallArguments) : Except Stop Command :=
  match call.method with
  | some method => .ok (.call method call.params (call.burst.getD 1))
  | none => .error .misuse

end CallArguments

/-- The words of a call. -/
def readCall (call : CallArguments) (words : List String) : Except Stop Command :=
  match words with
  | [] => call.command
  | text :: rest =>
    match Word.ofText text with
    | .plain text => readCall (call.add text) rest
    -- what follows is plain, whatever it looks like
    | .doubleDash => (rest.foldl CallArguments.add call).command
    | .long "burst" attached =>
      match h : takeValue attached rest with
      | .error stop => .error stop
      | .ok (value, rest') =>
        match unsigned? value, call.burst with
        | some n, none =>
          have := length_takeValue h
          readCall { call with burst := some n.toNat } rest'
        -- no number, or a second one
        | _, _ => .error .misuse
    | word => .error ((word.stop? false).getD .misuse)
termination_by words.length

/-- The words after a command that takes none. -/
def readNothing (command : Command) : List String → Except Stop Command
  | [] | ["--"] => .ok command
  | text :: _ => .error (((Word.ofText text).stop? false).getD .misuse)

/-- The words that name a command. -/
def commandNames : List String :=
  ["info", "chain-info", "block-count", "mining-info", "call", "help"]

/-- What is shown for words that ask for help: at most one command can be named. -/
def readHelp : List String → Stop
  | [] => .help
  | [name] => if commandNames.contains name then .help else .misuse
  | _ => .misuse

/-- The command of a word and those after it. -/
def readCommand (text : String) (rest : List String) : Except Stop Command :=
  match text with
  | "info" => readNothing .info rest
  | "chain-info" => readNothing .chainInfo rest
  | "block-count" => readNothing .blockCount rest
  | "mining-info" => readNothing .miningInfo rest
  | "call" => readCall {} rest
  | "help" => .error (readHelp rest)
  | _ => .error .misuse

/-- What is shown when the value before these words makes no sense. One that is a word of
its own is only looked at when the next option or the whole command has been read, so
help that is asked for with the command is shown. -/
def misuseBefore (attached : Option String) (rest : List String) : Stop :=
  match attached, rest with
  | none, text :: rest =>
    match Word.ofText text with
    | .plain text =>
      match readCommand text rest with
      | .error stop => stop
      | .ok _ => .misuse
    | _ => .misuse
  | _, _ => .misuse

/-- The options before the command with their values, and the command. -/
def readWords (given : List (Setting × String)) (words : List String) :
    Except Stop (List (Setting × String) × Command) :=
  match words with
  | [] => .error .misuse
  | text :: rest =>
    match Word.ofText text with
    | .plain text => (readCommand text rest).map fun command => (given, command)
    | .long name attached =>
      match Setting.ofName? name with
      | none => .error (((Word.long name attached).stop? true).getD .misuse)
      | some setting =>
        match h : takeValue attached rest with
        | .error stop => .error stop
        | .ok (value, rest') =>
          if (given.lookup setting).isSome || !setting.accepts value then
            .error (misuseBefore attached rest')
          else
            have := length_takeValue h
            readWords ((setting, value) :: given) rest'
    | word => .error ((word.stop? true).getD .misuse)
termination_by words.length

/-- Where the node is unless said otherwise. -/
def defaultUrl : String := "http://127.0.0.1:8332"

/-- The identifier that is sent unless said otherwise. -/
def defaultClientId : String := "bn"

/-- What the arguments and the environment say. -/
def parse (environment : String → Option String) (words : List String) : Except Stop Options := do
  let (given, command) ← readWords [] words
  let value? (setting : Setting) : Option String :=
    (given.lookup setting).or (setting.environmentName?.bind environment)
  -- the values from the environment are judged as the given ones have been
  if Setting.all.any fun setting => !((value? setting).all setting.accepts) then throw .misuse
  return {
    url := (value? .url).getD defaultUrl
    user := value? .user
    password := value? .password
    cookie := value? .cookie
    clientId := (value? .clientId).getD defaultClientId
    rate := (value? .rate).bind rate?
    timeout := (value? .timeout).bind unsigned?
    command }

end NodeRpc.CommandLine
