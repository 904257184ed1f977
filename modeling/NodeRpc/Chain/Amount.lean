import NodeRpc.Number.Shortest

/-!
# Amounts

An amount is a number of satoshi; a coin has `10 ^ 8`. On the wire an amount is a binary64 number of
coins. It is written as the nearest one, and it is read from the shortest decimal of the one
received, digit by digit, so that no amount is ever rounded: a decimal with more than eight places
after the point is refused.

To read it from the decimal looks like a detour. The nearest number of satoshi would be had by a
multiplication, and it would be an amount that nobody has written. The shortest decimal is what was
written, as long as that has no more digits than a binary64 number can keep, and where it is not an
amount there is an error and not a guess. That the two ways, there and back, agree for all the coins
there are is shown in `NodeRpc.Proofs.Chain.Satoshi`.

There are amounts of at least zero and amounts with a sign. A balance can be below zero and so can a
fee that was changed by hand, and a negative number is refused everywhere else. They are read in the
same way but for that and for their bounds.

The checks come in an order, and the errors with it. A text that is too long is refused before its
digits are looked at; a digit that makes the value overflow is refused before the digits behind it,
even if the text has a ninth place too; and minus zero, where an amount has no sign, is refused as
if it were below zero, but only after its digits are read.
-/

namespace NodeRpc

/-- An amount of at least zero, in satoshi. -/
structure Amount where
  sat : UInt64
  deriving DecidableEq

/-- An amount that may be negative, in satoshi. -/
structure SignedAmount where
  sat : Int64
  deriving DecidableEq

/-- Why a number of coins is no amount. -/
inductive AmountFault where
  | above (maximum : Int)
  | below (minimum : Int)
  /-- More than eight places; `position` is where in the text the ninth stands. -/
  | tooPrecise (position : Nat)
  /-- The text is longer than the limit. -/
  | tooLong (length : Nat)
  deriving DecidableEq

namespace AmountFault

/-- The longest text of a number of coins that is read. -/
def lengthLimit : Nat := 50

/-- What is wrong, in general. -/
def summary : AmountFault → String
  | above _ | below _ => "amount out of range"
  | tooPrecise _ => "amount has a too high precision"
  | tooLong _ => "the input is too large"

/-- The fault with its particulars. -/
def detail : AmountFault → String
  | above maximum => "the amount is greater than " ++ toString maximum
  | below minimum => "the amount is less than " ++ toString minimum
  | tooPrecise position =>
    "the digits starting from position " ++ toString position ++
      " represent a sub-satoshi amount"
  | tooLong length =>
    let excess := length - lengthLimit
    (if excess = 1 then "the input is one character"
      else "the input is " ++ toString excess ++ " characters") ++
      " longer than the maximum allowed length (" ++ toString lengthLimit ++ ")"

def message (fault : AmountFault) : String := fault.summary ++ ": " ++ fault.detail

end AmountFault

namespace Amount

/-- Places after the point that a satoshi takes. -/
def places : Nat := 8

/-- What the digits of a number of coins come to, or what stops their reading. -/
inductive Scan where
  | value (sat : Nat)
  | overflow
  | tooPrecise (position : Nat)

/-- Reads digits into a 64-bit value. `decimals` counts the places after the point,
once it has been met; a digit is added before its place is judged. -/
def scan (position value : Nat) (decimals : Option Nat) : List Char → Scan
  | [] =>
    let sat := value * tenPow (places - decimals.getD 0)
    if sat < UInt64.size then .value sat else .overflow
  | c :: rest =>
    match digit? c with
    -- of the characters of a plain layout only the point is no digit
    | none => scan (position + 1) value (some 0) rest
    | some d =>
      if UInt64.size ≤ value * 10 + d then .overflow
      else
        match decimals with
        | none => scan (position + 1) (value * 10 + d) none rest
        | some n =>
          if n < places then scan (position + 1) (value * 10 + d) (some (n + 1)) rest
          else .tooPrecise position

/-- The satoshi in a number of coins, its sign apart, or what is wrong with it;
`outOfRange` is what is wrong with too many. -/
def magnitude (coins : Binary64) (outOfRange : AmountFault) : Except AmountFault Nat :=
  if AmountFault.lengthLimit < coins.plain.length then .error (.tooLong coins.plain.length)
  else
    match scan (if coins.negative then 1 else 0) 0 none (coins.shortest .larger).plain with
    | .value sat => .ok sat
    | .overflow => .error outOfRange
    | .tooPrecise position => .error (.tooPrecise position)

def maximum : Int := UInt64.size - 1

/-- The amount in a number of coins. A negative number is below the range at once,
negative zero only after its digits are read. -/
def ofCoins (coins : Binary64) : Except AmountFault Amount :=
  if coins.negative && !coins.isZero then .error (.below 0)
  else do
    let sat ← magnitude coins (.above maximum)
    if coins.negative then .error (.below 0) else return ⟨UInt64.ofNat sat⟩

/-- The number of coins nearest to an amount. -/
def toCoins (amount : Amount) : Binary64 :=
  (Binary64.ofRatio? false amount.sat.toNat (tenPow places)).getD (.zero false)

end Amount

namespace SignedAmount

def minimum : Int := Int64.minValue.toInt

def maximum : Int := Int64.maxValue.toInt

/-- The amount in a number of coins. -/
def ofCoins (coins : Binary64) : Except AmountFault SignedAmount := do
  let outOfRange := if coins.negative then AmountFault.below minimum else .above maximum
  let magnitude ← Amount.magnitude coins outOfRange
  let sat : Int := if coins.negative then -Int.ofNat magnitude else magnitude
  if sat < minimum ∨ maximum < sat then .error outOfRange else return ⟨Int64.ofInt sat⟩

/-- The number of coins nearest to an amount. -/
def toCoins (amount : SignedAmount) : Binary64 :=
  (Binary64.ofRatio? (amount.sat < 0) amount.sat.toInt.natAbs (tenPow Amount.places)).getD
    (.zero false)

end SignedAmount
end NodeRpc
