import NodeRpc.Json.Parser

/-!
# Passing over JSON

A value that nobody asks for is passed over. It is only looked at as far as is needed to find its
end: escapes are checked for their form alone, numbers may be of any size, and nesting has no limit.

That is how members of an answer are treated that have no place in it. What is passed over is in
form and need not be JSON, and a text with such a member is read although it would be refused as a
value. The two walks are compared in `NodeRpc.Proofs.Json.Skipping`.
-/

namespace NodeRpc.Json

/-- Passes over the exponent of a number after its letter. -/
def skipExponent (s : List Char) : Except Fault (List Char) :=
  let s :=
    match s with
    | '+' :: rest => rest
    | '-' :: rest => rest
    | _ => s
  match digitRun s with
  | ([], rest) => refuseAt .invalidNumber rest
  | (_, rest) => .ok rest

/-- Passes over what may follow the fraction of a number. -/
def skipAfterFraction (s : List Char) : Except Fault (List Char) :=
  match s with
  | 'e' :: rest | 'E' :: rest => skipExponent rest
  | _ => .ok s

/-- Passes over what may follow the whole part of a number. -/
def skipAfterWhole (s : List Char) : Except Fault (List Char) :=
  match s with
  | '.' :: rest =>
    match digitRun rest with
    | ([], rest) => refuseAt .invalidNumber rest
    | (_, rest) => skipAfterFraction rest
  | _ => skipAfterFraction s

/-- Passes over a number after its sign. -/
def skipUnsigned (s : List Char) : Except Fault (List Char) :=
  match digitRun s with
  | ([], rest) => refuseAt .invalidNumber rest
  | (0 :: _ :: _, _) => refuseAt .invalidNumber (s.drop 1)
  | (_, rest) => skipAfterWhole rest

/-- Passes over an escape after its backslash. -/
def skipEscape (s : List Char) : Except Fault (List Char) :=
  match s with
  | [] => refuse .endInString []
  | 'u' :: rest => (readHexEscape rest).map (·.2)
  | c :: rest =>
    match shortEscape? c with
    | some _ => .ok rest
    | none => refuseAt .invalidEscape (c :: rest)

/-- Passes over a string after its opening quote, at most `fuel` characters of it. -/
def skipString : Nat → List Char → Except Fault (List Char)
  | 0, s => refuse .endInString s
  | _ + 1, [] => refuse .endInString []
  | fuel + 1, c :: rest =>
    if c = '"' then .ok rest
    else if c = '\\' then do skipString fuel (← skipEscape rest)
    -- the fault is in front of the character, and not behind it as where a string is kept
    else if c.toNat < 32 then refuse .controlCharacter (c :: rest)
    else skipString fuel rest

mutual

/-- Passes over a value. Two steps are enough for each character of it. -/
def skipValue : Nat → List Char → Except Fault (List Char)
  | 0, s => refuse .expectedValue s
  | fuel + 1, s =>
    match skipSpace s with
    | [] => refuse .endInValue []
    | '"' :: rest => skipString (rest.length + 1) rest
    | '[' :: rest =>
      match skipSpace rest with
      | [] => refuse .endInList []
      | ']' :: rest => .ok rest
      | rest => skipItems fuel rest
    | '\x7b' :: rest =>
      match skipSpace rest with
      | [] => refuse .endInObject []
      | '\x7d' :: rest => .ok rest
      | rest => skipMembers fuel rest
    | 'n' :: rest => readIdent ['u', 'l', 'l'] rest
    | 't' :: rest => readIdent ['r', 'u', 'e'] rest
    | 'f' :: rest => readIdent ['a', 'l', 's', 'e'] rest
    | '-' :: rest => skipUnsigned rest
    | c :: rest =>
      if (digit? c).isSome then skipUnsigned (c :: rest) else refuseAt .expectedValue (c :: rest)

/-- Passes over the items of an array from one of them on, with the closing bracket. -/
def skipItems : Nat → List Char → Except Fault (List Char)
  | 0, s => refuse .endInList s
  | fuel + 1, s => do
    match skipSpace (← skipValue fuel s) with
    | [] => refuse .endInList []
    | ',' :: rest => skipItems fuel rest
    | ']' :: rest => return rest
    | rest => refuseAt .expectedListCommaOrEnd rest

/-- Passes over the members of an object from one of them on, with the closing brace. -/
def skipMembers : Nat → List Char → Except Fault (List Char)
  | 0, s => refuse .endInObject s
  | fuel + 1, s => do
    match skipSpace s with
    | [] => refuse .endInObject []
    | '"' :: rest =>
      let rest ← readColon (← skipString (rest.length + 1) rest)
      match skipSpace (← skipValue fuel rest) with
      | [] => refuse .endInObject []
      | ',' :: rest => skipMembers fuel rest
      | '\x7d' :: rest => return rest
      | rest => refuseAt .expectedObjectCommaOrEnd rest
    | rest => refuseAt .keyMustBeString rest

end

end NodeRpc.Json
