/-!
# UTF-8

Text from bytes, in two ways. The strict way refuses ill-formed bytes. The lenient way puts U+FFFD
for each maximal ill-formed run: the longest start of a character that could still have become one,
or a single byte that cannot start any.

A cookie file is read in the strict way, as a wrong password is of no use to anybody. The body of an
answer is read in the lenient way, as it may have to be shown, and what is wrong with it is then
found out by whoever takes it for JSON.
-/

namespace NodeRpc.Text

/-- The length of the character that a first byte announces, with the range its
second byte must lie in; `none` if no character starts with it. -/
def leadByte? (b : UInt8) : Option (Nat × Nat × Nat) :=
  let n := b.toNat
  if n < 0x80 then some (1, 0x80, 0xBF)
  else if 0xC2 ≤ n ∧ n ≤ 0xDF then some (2, 0x80, 0xBF)
  else if n = 0xE0 then some (3, 0xA0, 0xBF)
  else if n = 0xED then some (3, 0x80, 0x9F)
  else if 0xE1 ≤ n ∧ n ≤ 0xEF then some (3, 0x80, 0xBF)
  else if n = 0xF0 then some (4, 0x90, 0xBF)
  else if n = 0xF4 then some (4, 0x80, 0x8F)
  else if 0xF1 ≤ n ∧ n ≤ 0xF3 then some (4, 0x80, 0xBF)
  else none

/-- Up to `wanted` continuation bytes, the first of them between `low` and `high`:
the value they add to `value`, how many were still missing, and the rest. -/
def continuation : Nat → Nat → Nat → Nat → List UInt8 → Nat × Nat × List UInt8
  | 0, _, _, value, rest => (value, 0, rest)
  | wanted + 1, low, high, value, b :: rest =>
    if low ≤ b.toNat ∧ b.toNat ≤ high then
      continuation wanted 0x80 0xBF (value * 64 + b.toNat % 64) rest
    else (value, wanted + 1, b :: rest)
  | wanted + 1, _, _, value, [] => (value, wanted + 1, [])

/-- The first character of some bytes and what follows it; no character for an
ill-formed run. -/
def nextChar (b : UInt8) (rest : List UInt8) : Option Char × List UInt8 :=
  match leadByte? b with
  | none => (none, rest)
  | some (1, _, _) => (some (Char.ofNat b.toNat), rest)
  | some (size, low, high) =>
    let (value, missing, rest) :=
      continuation (size - 1) low high (b.toNat % 1 <<< (7 - size)) rest
    if missing = 0 then (some (Char.ofNat value), rest) else (none, rest)

/-- The characters of some bytes, `none` for each ill-formed run. One byte at least
goes with each, so as many steps as bytes are enough. -/
def decodeUtf8 : Nat → List UInt8 → List (Option Char)
  | _, [] => []
  | 0, _ :: _ => []
  | fuel + 1, b :: rest =>
    let (c, rest) := nextChar b rest
    c :: decodeUtf8 fuel rest

/-- The text of bytes that are one. -/
def textOfUtf8? (bytes : List UInt8) : Option (List Char) :=
  (decodeUtf8 bytes.length bytes).mapM id

/-- The text of any bytes, with U+FFFD for each ill-formed run. -/
def textOfUtf8 (bytes : List UInt8) : List Char :=
  (decodeUtf8 bytes.length bytes).map (·.getD '\uFFFD')

/-- The bytes of a text. -/
def utf8Bytes (text : List Char) : List UInt8 :=
  (String.ofList text).toUTF8.toList

end NodeRpc.Text
