import NodeRpc.Endpoint.Http

/-!
# HTTP messages

A request as bytes, and the answer that the bytes received so far hold. Where the body of an answer
ends is decided by its head alone: by chunks, by a length, or, if it names neither, by the end of
the connection, which every request asks for.

The functions say what a given number of bytes amounts to, with `none` for "not enough yet". Whoever
receives bytes asks again with more of them, and nothing is kept in between, so an answer does not
depend on the pieces in which it came.

Interim answers are passed over. An answer whose connection ends too early is broken off if its head
is there and lost if it is not, and these are different errors to a caller.

A head that is not understood where it matters, such as a length that is no number, is as good as
none of it.
-/

namespace NodeRpc

namespace HttpRequest

/-- The end of a line. -/
def lineEnd : String := "\r\n"

/-- The bytes of a request to a host. -/
def bytes (request : HttpRequest) (host : String) : List UInt8 :=
  let headers :=
    [("host", host), ("content-type", request.contentType)] ++
      request.authorization.map (fun value => ("authorization", value)) ++
      [("content-length", toString request.body.utf8ByteSize), ("connection", "close")]
  let head :=
    "POST " ++ request.target ++ " HTTP/1.1" ++ lineEnd ++
      String.join (headers.map fun (name, value) => name ++ ": " ++ value ++ lineEnd) ++ lineEnd
  Text.utf8Bytes (head ++ request.body).toList

end HttpRequest

namespace Message

/-- How the end of a body is found. -/
inductive Framing where
  | chunked
  | length (n : Nat)
  | untilEnd
  deriving DecidableEq

/-- The first line of some bytes without its end, and what follows it. -/
def takeLine : List UInt8 → Option (List UInt8 × List UInt8)
  | [] => none
  | 13 :: 10 :: rest => some ([], rest)
  | 10 :: rest => some ([], rest)
  | b :: rest => (takeLine rest).map fun (line, rest) => (b :: line, rest)

/-- The lines of a head up to the empty one; `fuel` bounds their number. -/
def takeHead : Nat → List UInt8 → Option (List (List Char) × List UInt8)
  | 0, _ => none
  | fuel + 1, bytes => do
    let (line, rest) ← takeLine bytes
    if line.isEmpty then return ([], rest)
    else
      let (lines, rest) ← takeHead fuel rest
      return (Text.textOfUtf8 line :: lines, rest)

/-- The status code in the first line of a head. -/
def status? (line : List Char) : Option Nat :=
  match Text.splitOnce ' ' line with
  | some (version, rest) =>
    let code := rest.take 3
    if "HTTP/1.".toList.isPrefixOf version ∧ code.length = 3 then
      (code.mapM digit?).map digitsValue
    else none
  | none => none

/-- The value of a header; names do not distinguish case. -/
def header? (name : String) (lines : List (List Char)) : Option (List Char) :=
  lines.findSome? fun line =>
    match Text.splitOnce ':' line with
    | some (other, value) =>
      if other.map Text.asciiLower = name.toList then some (Text.trim value) else none
    | none => none

/-- How the end of the body is found after a head. -/
def framing (lines : List (List Char)) : Framing :=
  match header? "transfer-encoding" lines, header? "content-length" lines with
  | some coding, length =>
    -- a coding goes before a length; only if it is another one does the length count
    if coding.map Text.asciiLower = "chunked".toList then .chunked
    else ((length.bind fun value => value.mapM digit?).map fun ds => .length (digitsValue ds)).getD
      .untilEnd
  | none, some value =>
    match value.mapM digit? with
    | some digits => .length (digitsValue digits)
    | none => .untilEnd
  | none, none => .untilEnd

/-- The bytes of a chunked body, once all of it is there; `fuel` bounds the number of
chunks. -/
def takeChunks : Nat → List UInt8 → Option (List UInt8)
  | 0, _ => none
  | fuel + 1, bytes => do
    let (line, rest) ← takeLine bytes
    let size ← (Text.textOfUtf8 line |>.takeWhile (· ≠ ';') |> Text.trim).foldlM
      (fun n c => (Text.hexValue? c).map fun d => 16 * n + d) 0
    if size = 0 then return []
    else if rest.length < size then none
    else
      let (_, more) ← takeLine (rest.drop size)
      return rest.take size ++ (← takeChunks fuel more)

/-- The body of a framing, once all of it is there. -/
def body? (framing : Framing) (closed : Bool) (bytes : List UInt8) : Option (List UInt8) :=
  match framing with
  | .chunked => takeChunks (bytes.length + 1) bytes
  | .length n => if n ≤ bytes.length then some (bytes.take n) else none
  | .untilEnd => if closed then some bytes else none

/-- The exchange that the bytes received so far make; `closed` tells that no more will
come. Interim answers are passed over; `fuel` bounds their number. -/
def exchange? (closed : Bool) : Nat → List UInt8 → Option Exchange
  | 0, _ => some .lost
  | fuel + 1, bytes =>
    match takeHead (bytes.length + 1) bytes with
    -- the head is not complete, and if nothing more comes it never will be
    | none => if closed then some .lost else none
    | some (lines, rest) =>
      match lines.head?.bind status? with
      | none => some .lost
      | some status =>
        if status < 200 then exchange? closed fuel rest
        else if Status.isBodiless status then some (.response status [])
        else
          match body? (framing lines) closed rest with
          | some body => some (.response status body)
          | none => if closed then some .brokenOff else none

end Message
end NodeRpc
