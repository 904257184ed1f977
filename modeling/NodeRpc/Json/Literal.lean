import NodeRpc.Json.Basic
import NodeRpc.Json.Fault

/-!
# Number literals

A literal is read into its parts first; its value is a function of the parts. The value of a literal
with a fraction or an exponent is *not* the nearest binary64 number in general: the significand is
collected in 64 bits, digits that do not fit are dropped, and the significand is then multiplied or
divided once by the binary64 number nearest to a power of ten.

That is a quick way to read a number, and what it gives may be next to the number that is nearest.
It matters where a number is read and printed again, and where it is read as an amount; for the
numbers that nodes write, with few digits, it is shown that a single rounding is left
(`NodeRpc.Proofs.Json.PlainNumber`).

A minus sign in front of zero makes a binary64 number, since integers have no such zero. A literal
that is too large is refused, and one that is too small is zero, however it is spelled; an exponent
beyond what is read in full decides by its sign alone.
-/

namespace NodeRpc.Json

/-- The parts of a number as it is written. Nothing else of the text is kept: not the letter of the
exponent, and not a plus sign in it. -/
structure Literal where
  negative : Bool
  /-- The digits before the point; at least one. -/
  whole : List Nat
  /-- The digits after the point; none if there is no point. -/
  fraction : List Nat
  /-- The sign (true for minus) and the digits of the exponent, if there is one. -/
  exponent : Option (Bool × List Nat)
  deriving DecidableEq

/-- The digits at the front of the input. -/
def digitRun : List Char → List Nat × List Char
  | [] => ([], [])
  | c :: rest =>
    match digit? c with
    | some d => let (ds, rest) := digitRun rest; (d :: ds, rest)
    | none => ([], c :: rest)

/-- Digits appended to a 64-bit significand until one does not fit: the significand,
how many were appended, and how many were not. -/
def collect (significand : Nat) : List Nat → Nat × Nat × Nat
  | [] => (significand, 0, 0)
  | d :: rest =>
    if significand * 10 + d < UInt64.size then
      let (s, taken, dropped) := collect (significand * 10 + d) rest
      (s, taken + 1, dropped)
    else (significand, 0, rest.length + 1)

namespace Literal

/-- `significand * 10 ^ exponent` as a binary64 number: one multiplication or
division by a power of ten up to `10 ^ 308`; smaller exponents are reached by
dividing by `10 ^ 308` first. None if the result is too large. -/
def scale? (significand : Binary64) (exponent : Int) : Option Binary64 :=
  if -308 ≤ exponent ∧ exponent ≤ 308 then
    (Binary64.tenPow? exponent.natAbs).bind fun power =>
      if 0 ≤ exponent then significand.mul? power else significand.div? power
  else if significand.isZero then some significand
  -- there is no greater power to divide by, so it is done in steps, each of them rounded
  else if h : exponent < -308 then
    (Binary64.tenPow? 308).bind fun power =>
      (significand.div? power).bind fun reduced => scale? reduced (exponent + 308)
  else none
termination_by exponent.natAbs
decreasing_by omega

/-- The binary64 number of a significand, an exponent and a sign. -/
def real? (negative : Bool) (significand : Nat) (exponent : Int) : Option Number := do
  let magnitude ← Binary64.ofNat? significand
  let scaled ← scale? magnitude exponent
  return .real (if negative then scaled.neg else scaled)

/-- The integer of a sign and a magnitude, if it fits 64 bits. Minus zero is not an
integer. -/
def integer? (negative : Bool) (magnitude : Nat) : Option Number :=
  if negative then
    if h : 0 < magnitude ∧ 2 * magnitude ≤ UInt64.size then some (.negative magnitude h) else none
  else
    if h : magnitude < UInt64.size then some (.natural magnitude h) else none

/-- The largest exponent that is read in full. -/
def exponentLimit : Nat := 2147483647

/-- The exponent as written, with its sign. -/
def writtenExponent : Option (Bool × List Nat) → Int
  | none => 0
  | some (minus, digits) =>
    if minus then -Int.ofNat (digitsValue digits) else Int.ofNat (digitsValue digits)

/-- The value of a literal; `none` if it is too large for binary64. An exponent
beyond the limit gives zero if it is negative or the significand is zero. -/
def value? (literal : Literal) : Option Number :=
  let (whole, _, dropped) := collect 0 literal.whole
  let (significand, taken, _) := collect whole literal.fraction
  if literal.fraction.isEmpty && literal.exponent.isNone && dropped == 0 then
    -- an integer beyond 64 bits and minus zero are kept as binary64 numbers
    match integer? literal.negative significand with
    | some n => some n
    | none => real? literal.negative significand 0
  else
    match literal.exponent with
    | some (minus, digits) =>
      if exponentLimit < digitsValue digits then
        if significand = 0 ∨ minus then some (.real (.zero literal.negative)) else none
      else
        real? literal.negative significand
          (writtenExponent literal.exponent + Int.ofNat dropped - Int.ofNat taken)
    | none => real? literal.negative significand (Int.ofNat dropped - Int.ofNat taken)

/-- How many digits of an exponent are looked at before it is known to be beyond
the limit. -/
def digitsToLimit (value : Nat) : List Nat → Nat
  | [] => 0
  | d :: rest =>
    if exponentLimit < value * 10 + d then 1 else digitsToLimit (value * 10 + d) rest + 1

/-- Reads the exponent after its letter: an optional sign and at least one digit. -/
def readExponent (s : List Char) : Except Fault ((Bool × List Nat) × List Char) :=
  let (minus, s) :=
    match s with
    | '+' :: rest => (false, rest)
    | '-' :: rest => (true, rest)
    | _ => (false, s)
  match digitRun s with
  | ([], []) => refuse .endInValue []
  | ([], rest) => refuseAt .invalidNumber rest
  | (digits, rest) => .ok ((minus, digits), rest)

/-- Reads what may follow the whole part: a point with digits, then an exponent. -/
def readTail (negative : Bool) (whole : List Nat) (s : List Char) :
    Except Fault (Literal × List Char) := do
  let (fraction, s) ← match s with
    | '.' :: rest =>
      match digitRun rest with
      | ([], []) => refuse .endInValue []
      | ([], rest) => refuseAt .invalidNumber rest
      | (digits, rest) => pure (digits, rest)
    | _ => pure ([], s)
  match s with
  | c :: rest =>
    if c = 'e' ∨ c = 'E' then
      let (exponent, rest) ← readExponent rest
      return (⟨negative, whole, fraction, some exponent⟩, rest)
    else return (⟨negative, whole, fraction, none⟩, s)
  | [] => return (⟨negative, whole, fraction, none⟩, [])

/-- Reads a literal after its sign. A leading zero stands alone. -/
def readUnsigned (negative : Bool) (s : List Char) : Except Fault (Literal × List Char) :=
  match digitRun s with
  | ([], []) => refuse .endInValue []
  | ([], rest) => refuseAt .invalidNumber rest
  | (0 :: _ :: _, _) => refuseAt .invalidNumber (s.drop 1)
  | (digits, rest) => readTail negative digits rest

/-- Reads a literal with its sign. -/
def read (s : List Char) : Except Fault (Literal × List Char) :=
  match s with
  | '-' :: rest => readUnsigned true rest
  | _ => readUnsigned false s

end Literal

/-- Reads a number. It is too large where its exponent goes beyond the limit, or
else at its end. -/
def readNumber (s : List Char) : Except Fault (Number × List Char) := do
  let (literal, rest) ← Literal.read s
  match literal.value? with
  | some n => return (n, rest)
  | none =>
    let unread := match literal.exponent with
      | some (_, digits) => digits.length - Literal.digitsToLimit 0 digits
      | none => 0
    refuse .numberOutOfRange (s.drop (s.length - rest.length - unread))

end NodeRpc.Json
