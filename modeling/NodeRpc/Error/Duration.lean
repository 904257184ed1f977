import NodeRpc.Number.Decimal

/-!
# Spans of time

A span is a whole number of nanoseconds. Its text uses the largest of the units second, millisecond,
microsecond and nanosecond that it reaches, with as many decimals as it needs.

Timers go by milliseconds and count a begun one as whole (`ticks`), so a timer never fires before
its span is over, and may fire up to a millisecond after. What is *shown* of a span is the span that
was asked for.
-/

namespace NodeRpc

/-- A span of time. -/
structure Duration where
  nanos : Nat
  deriving DecidableEq

namespace Duration

def ofSeconds (n : Nat) : Duration := ⟨n * 1000000000⟩

def ofMillis (n : Nat) : Duration := ⟨n * 1000000⟩

/-- Whole milliseconds. -/
def millis (d : Duration) : Nat := d.nanos / 1000000

/-- Milliseconds, a begun one counted as whole: when a timer of this span fires. -/
def ticks (d : Duration) : Nat := (d.nanos + 999999) / 1000000

/-- The span in a unit of `10 ^ places` nanoseconds, without trailing zeros. -/
def inUnit (d : Duration) (places : Nat) : List Char :=
  ((Decimal.mk d.nanos (-Int.ofNat places)).trimZeros places).plain

def text (d : Duration) : String :=
  if 1000000000 ≤ d.nanos then String.ofList (d.inUnit 9) ++ "s"
  else if 1000000 ≤ d.nanos then String.ofList (d.inUnit 6) ++ "ms"
  else if 1000 ≤ d.nanos then String.ofList (d.inUnit 3) ++ "µs"
  else String.ofList (d.inUnit 0) ++ "ns"

end Duration
end NodeRpc
