import NodeRpc.Json.Parser
import NodeRpc.Json.Printer
import Mathlib.Tactic.IntervalCases

/-!
# Strings, written and read

A string is written one character at a time, and each character stands for itself or is escaped.
What the reader does with the text of one character decides what it does with all of them: it takes
that character off the front and goes on behind it (`readString_escape`). The quote ends the string
because no character is written with a bare quote.

Two strings followed by anything are therefore told apart by their text, and so are the inputs left
behind them (`stringChars_append_inj`). Nothing needs to be known of what follows, since a string
closes itself, and this is what lets a name in an object be any string at all.

The reader accepts much more than is written: escapes for characters that need none, and characters
beyond sixteen bits spelled as two. None of that is a case here, as the texts in question are those
of the printer.
-/

namespace NodeRpc.Json

open Text (hexDigit hexValue?)

theorem hexValue_hexDigit {n : Nat} (h : n < 16) : hexValue? (hexDigit n) = some n := by
  interval_cases n <;> decide

theorem four_le_utf8ByteSize (a b c d : Char) :
    4 ≤ (String.ofList [a, b, c, d]).utf8ByteSize := by
  have ha := a.utf8Size_pos
  have hb := b.utf8Size_pos
  have hc := c.utf8Size_pos
  have hd := d.utf8Size_pos
  have hsplit : String.ofList [a, b, c, d] = (((("".push a).push b).push c).push d) := by
    apply String.toList_inj.mp
    simp
  rw [hsplit]
  simp only [String.utf8ByteSize_push]
  omega

/-- The escape of a control character is read as its number. -/
theorem readHexEscape_hexDigit {high low : Nat} (hh : high < 16) (hl : low < 16)
    (rest : List Char) :
    readHexEscape ('0' :: '0' :: hexDigit high :: hexDigit low :: rest) =
      .ok (high * 16 + low, rest) := by
  have hbytes : ¬(String.ofList (List.take 4
      ('0' :: '0' :: hexDigit high :: hexDigit low :: rest))).utf8ByteSize < 4 := by
    have := four_le_utf8ByteSize '0' '0' (hexDigit high) (hexDigit low)
    simpa using this
  have hzero : hexValue? '0' = some 0 := by decide
  unfold readHexEscape
  rw [if_neg hbytes]
  simp only [hzero, hexValue_hexDigit hh, hexValue_hexDigit hl]
  simp

theorem readUnicodeEscape_hexDigit {high low : Nat} (hh : high < 16) (hl : low < 16)
    (rest : List Char) :
    readUnicodeEscape ('0' :: '0' :: hexDigit high :: hexDigit low :: rest) =
      .ok (Char.ofNat (high * 16 + low), rest) := by
  unfold readUnicodeEscape
  rw [readHexEscape_hexDigit hh hl]
  simp only [bind, Except.bind]
  rw [if_neg (by omega), if_pos (by omega)]
  rfl

/-- What follows the character just read. -/
def consRead (c : Char) (read : Except Fault (List Char × List Char)) :
    Except Fault (List Char × List Char) :=
  read.map fun (cs, rest) => (c :: cs, rest)

theorem readString_backslash {fuel : Nat} {s rest : List Char} {c : Char}
    (h : readEscape s = .ok (c, rest)) :
    readString (fuel + 1) ('\\' :: s) = consRead c (readString fuel rest) := by
  rw [readString, if_neg (by decide), if_pos rfl, h]
  simp only [bind, Except.bind, consRead]
  cases readString fuel rest with
  | error e => rfl
  | ok read => rfl

/-- A character that is written as itself is read as itself. -/
theorem readString_plain {fuel : Nat} {c : Char} {rest : List Char} (hquote : c ≠ '"')
    (hback : c ≠ '\\') (hcontrol : ¬c.toNat < 32) :
    readString (fuel + 1) (c :: rest) = consRead c (readString fuel rest) := by
  rw [readString, if_neg hquote, if_neg hback, if_neg hcontrol]
  simp only [bind, Except.bind, consRead]
  cases readString fuel rest with
  | error e => rfl
  | ok read => rfl

theorem eq_ofNat_of_toNat {c : Char} {n : Nat} (h : c.toNat = n) : c = Char.ofNat n := by
  rw [← h, Char.ofNat_toNat]

/-- **Reading takes the text of one character off the front.** Escaped or not, it is one step of the
loop, so the fuel is counted in characters of the string and not of its text. -/
theorem readString_escape (fuel : Nat) (c : Char) (rest : List Char) :
    readString (fuel + 1) (escape c ++ rest) = consRead c (readString fuel rest) := by
  unfold escape
  split
  · rename_i h
    subst h
    exact readString_backslash rfl
  split
  · rename_i h
    subst h
    exact readString_backslash rfl
  split
  · rename_i h
    rw [eq_ofNat_of_toNat h]
    exact readString_backslash rfl
  split
  · rename_i h
    rw [eq_ofNat_of_toNat h]
    exact readString_backslash rfl
  split
  · rename_i h
    rw [eq_ofNat_of_toNat h]
    exact readString_backslash rfl
  split
  · rename_i h
    rw [eq_ofNat_of_toNat h]
    exact readString_backslash rfl
  split
  · rename_i h
    rw [eq_ofNat_of_toNat h]
    exact readString_backslash rfl
  split
  · -- the remaining control characters are spelled by their number
    rename_i h
    have hhigh : c.toNat / 16 < 16 := by omega
    have hlow : c.toNat % 16 < 16 := by omega
    have hread := readUnicodeEscape_hexDigit hhigh hlow rest
    rw [Nat.div_add_mod' c.toNat 16, Char.ofNat_toNat] at hread
    exact readString_backslash hread
  · rename_i hquote hback _ _ _ _ _ hcontrol
    exact readString_plain hquote hback hcontrol

/-- **A string is read up to its closing quote.** Any fuel above the number of characters will do,
and the rest may be anything. -/
theorem readString_chars (cs : List Char) {fuel : Nat} (hfuel : cs.length < fuel)
    (rest : List Char) : readString fuel (cs.flatMap escape ++ '"' :: rest) = .ok (cs, rest) := by
  induction cs generalizing fuel with
  | nil =>
    obtain ⟨fuel, rfl⟩ : ∃ k, fuel = k + 1 := ⟨fuel - 1, by simp at hfuel; omega⟩
    rw [List.flatMap_nil, List.nil_append, readString, if_pos rfl]
  | cons c cs ih =>
    obtain ⟨fuel, rfl⟩ : ∃ k, fuel = k + 1 := ⟨fuel - 1, by simp at hfuel; omega⟩
    rw [List.flatMap_cons, List.append_assoc, readString_escape, ih (by simpa using hfuel)]
    rfl

/-- **The text of a string determines the string and where it ends.** Proved by reading both: what
is read is the string, and what is left is the rest. -/
theorem stringChars_append_inj {s t : String} {r u : List Char}
    (h : stringChars s ++ r = stringChars t ++ u) : s = t ∧ r = u := by
  have hbody : s.toList.flatMap escape ++ '"' :: r = t.toList.flatMap escape ++ '"' :: u := by
    simpa [stringChars] using h
  have hsfuel : s.toList.length < s.toList.length + t.toList.length + 1 := by omega
  have htfuel : t.toList.length < s.toList.length + t.toList.length + 1 := by omega
  have hs := readString_chars s.toList hsfuel r
  have ht := readString_chars t.toList htfuel u
  rw [hbody, ht] at hs
  obtain ⟨hchars, hrest⟩ := Prod.mk.inj (Except.ok.inj hs)
  exact ⟨(String.toList_inj.mp hchars).symm, hrest.symm⟩

end NodeRpc.Json
