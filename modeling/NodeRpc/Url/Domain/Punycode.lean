import NodeRpc.Text.Blank

/-!
# Labels beyond ASCII

A label of a name is written in ASCII by Punycode: its ASCII characters come first,
and then numbers say which other characters stand where. The numbers have base 36 and
end where a digit is below its threshold, so nothing has to stand between them.
-/

namespace NodeRpc.Url.Domain.Punycode

def digit (value : Nat) : Char :=
  if value < 26 then Char.ofNat ('a'.toNat + value) else Char.ofNat ('0'.toNat + (value - 26))

/-- The value of a digit in lower case. -/
def digitValue? (c : Char) : Option Nat :=
  if 'a' ≤ c ∧ c ≤ 'z' then some (c.toNat - 'a'.toNat)
  else if '0' ≤ c ∧ c ≤ '9' then some (c.toNat - '0'.toNat + 26)
  else none

/-- A digit below this ends a number; `place` is 36 for the first digit and grows by
36 with each. -/
def threshold (place bias : Nat) : Nat := min 26 (max 1 (place - bias))

def digits (bias place n : Nat) : List Char :=
  let t := threshold place bias
  if n < t then [digit n]
  else digit (t + (n - t) % (36 - t)) :: digits bias (place + 36) ((n - t) / (36 - t))
termination_by n
decreasing_by
  have := Nat.div_le_self (n - t) (36 - t)
  simp only [t, threshold] at *
  omega

/-- The bias of a span that is brought below 456. -/
def biasOf (span : Nat) : Nat :=
  if 455 < span then 36 + biasOf (span / 35) else 36 * span / (span + 38)
termination_by span

/-- The bias after a number when so many characters are known. -/
def adapt (isFirst : Bool) (n known : Nat) : Nat :=
  let span := if isFirst then n / 700 else n / 2
  biasOf (span + span / known)

def initialBias : Nat := 72

/-- The first character that is not ASCII. -/
def firstBeyond : Nat := 128

/-- What is known while a label is written. -/
structure Writing where
  /-- The number that has built up since the last one written. -/
  number : Nat
  bias : Nat
  known : Nat
  written : List Char

/-- Passes a character while those of one code are written. -/
def Writing.pass (basic code : Nat) (w : Writing) (c : Char) : Writing :=
  if c.toNat < code then { w with number := w.number + 1 }
  else if c.toNat = code then {
    number := 0
    bias := adapt (w.known == basic) w.number (w.known + 1)
    known := w.known + 1
    written := w.written ++ digits w.bias 36 w.number }
  else w

/-- Writes the characters of these codes, which are in order and come from `next` on. -/
def writeCodes (label : List Char) (basic : Nat) (w : Writing) (next : Nat) : List Nat → List Char
  | [] => w.written
  | code :: rest =>
    let w := { w with number := w.number + (code - next) * (w.known + 1) }
    let w := label.foldl (·.pass basic code ·) w
    writeCodes label basic { w with number := w.number + 1 } (code + 1) rest

/-- A label in ASCII. -/
def encode (label : List Char) : List Char :=
  let basic := label.filter Text.isAscii
  let beyond := (label.filter fun c => !Text.isAscii c).map (·.toNat)
  let codes := (beyond.mergeSort (· ≤ ·)).eraseDups
  (if basic.isEmpty then [] else basic ++ ['-']) ++
    writeCodes label basic.length ⟨0, initialBias, basic.length, []⟩ firstBeyond codes

/-- The numbers of a label are below this. -/
def numberLimit : Nat := UInt32.size

/-- What is known while the numbers of a label are read. -/
structure Reading where
  /-- The codes of the characters known so far. -/
  label : List Nat
  code : Nat
  /-- Where the next character is looked for. -/
  position : Nat
  bias : Nat

/-- The reading after a number: it leads to the place of the next character. -/
def Reading.insert? (r : Reading) (n : Nat) : Option Reading :=
  let places := r.label.length + 1
  let code := r.code + (r.position + n) / places
  let position := (r.position + n) % places
  if code.isValidChar then some {
    label := r.label.take position ++ code :: r.label.drop position
    code
    position := position + 1
    bias := adapt (r.position == 0) n places }
  else none

/-- Reads the numbers of a label; `n` is the number so far and `weight` that of its
next digit. Neither that nor the number from the start of the label reaches the limit. -/
def readNumbers (r : Reading) (n weight place : Nat) : List Char → Option (List Nat)
  | [] => if place = 36 then some r.label else none
  | c :: rest =>
    (digitValue? c).bind fun d =>
      let t := threshold place r.bias
      let n := n + d * weight
      if numberLimit ≤ r.position + n then none
      else if d < t then (r.insert? n).bind fun r => readNumbers r 0 1 36 rest
      else if numberLimit ≤ weight * (36 - t) then none
      else readNumbers r n (weight * (36 - t)) (place + 36) rest

/-- The label of a text in lower case. Its ASCII characters, if there are any, stand
before the last dash. -/
def decode? (text : List Char) : Option (List Char) :=
  let (basic, numbers) :=
    match Text.splitOnce '-' text.reverse with
    | some (_, []) | none => ([], text)
    | some (after, before) => (before.reverse, after.reverse)
  if !basic.all Text.isAscii then none
  else
    (readNumbers ⟨basic.map (·.toNat), firstBeyond, 0, initialBias⟩ 0 1 36 numbers).map
      (·.map Char.ofNat)

end NodeRpc.Url.Domain.Punycode
