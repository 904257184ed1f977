import NodeRpc.Proofs.Endpoint.Failures
import NodeRpc.Proofs.Endpoint.Identifiers
import NodeRpc.Proofs.Json.Reprinting
import NodeRpc.Proofs.Text.Encoding

/-!
# Identifiers that come back as numbers

A client may have an identifier that is a number, and a node may then echo it as one. Of a number
that was read only the value is kept, and what is compared with the identifier is how that value
would be printed. An echo in the client's own characters is therefore accepted exactly if they are
what would be printed (`outcome_of_echo`). Of the integers these are the ones that fit 64 bits.
Minus zero, a zero too many behind the point, a capital letter and most exponents are refused.

A node that repeats the identifier character by character does nothing wrong, and a call that it
answered fails. `not_every_echo_accepted` has the shortest case: the identifier `1e2`, which is read
as a hundred and printed as `100.0`. Clients choose their own identifiers, and hardly one of them
chooses such a number, but nothing keeps them from it.

The condition is told apart for each kind of spelling, since `n.chars = s.chars` is the comparison
over again and says nothing to somebody who wants to know which identifiers are safe. Integers of 64
bits are, and short decimals without zeros to spare.
-/

namespace NodeRpc

open Json

namespace Envelope

theorem idMatches_number {expected : List Char} {n : Number} :
    idMatches (String.ofList expected) (.number n) = true ↔ n.chars = expected := by
  unfold idMatches Number.compact
  rw [beq_iff_eq, String.ofList_inj]

/-- An answer with a number is for the client whose identifier is what would be printed. -/
theorem outcome_of_number {envelope : Envelope} {expected : List Char} {n : Number}
    (herror : envelope.error = none) (hid : envelope.id = some (.number n)) :
    envelope.outcome (String.ofList expected) =
      if n.chars = expected then .ok (envelope.result.getD .null)
      else .error (.invalidResponse ("response id " ++ n.compact ++
        " does not match request id `" ++ String.ofList expected ++ "`")) := by
  unfold outcome
  rw [herror, hid]
  dsimp only
  by_cases hsame : n.chars = expected
  · rw [if_pos (idMatches_number.mpr hsame), if_pos hsame]
  · rw [if_neg (mt idMatches_number.mp hsame), if_neg hsame]
    rfl

/-! ## An answer that is an echo alone

The texts that the two cases at the end are about, and how they are read. -/

/-- The largest natural number of 64 bits. -/
def largestNatural : Spelling :=
  ⟨false, ⟨digitChars 18446744073709551615, [], none⟩, false, false⟩

/-- A hundred in two digits. -/
def hundred : Spelling := ⟨false, ⟨['1'], [], some (false, ['2'])⟩, false, false⟩

section Echo

variable {s : Spelling} {n : Number}

/-- An answer that has a number for its identifier and nothing else. -/
def echo (s : Spelling) : List Char :=
  '\x7b' :: '"' :: 'i' :: 'd' :: '"' :: ':' :: (s.chars ++ ['\x7d'])

theorem readValue_echo (h : s.numeral.Spelled) (hvalue : s.literal.value? = some n) (depth : Nat) :
    readValue depth (s.chars ++ ['\x7d']) = .ok (.number n, ['\x7d']) := by
  refine (readValue_spelling h ?_).mpr ⟨n, hvalue, rfl, rfl⟩
  exact numeralEnds_of_skipSpace rfl (.inr (.inr rfl))

theorem parse_echo (h : s.numeral.Spelled) (hvalue : s.literal.value? = some n) :
    parse (echo s) = .ok { id := some (.number n) } := by
  have hmember : readMember (s.chars ++ ['\x7d']) = .ok (some (.number n), ['\x7d']) :=
    readMember_eq_ok.mpr ⟨_, readValue_echo h hvalue _, rfl⟩
  have hanswer : readAnswer (echo s) = .ok ({ id := some (.number n) }, []) := by
    show readMembers _ true [] {} ('"' :: 'i' :: 'd' :: '"' :: ':' :: (s.chars ++ ['\x7d'])) = _
    rw [readMembers]
    show (readMember (s.chars ++ ['\x7d']) >>= fun p =>
      readMembers _ false ["id"] { id := p.1 } p.2) = _
    rw [hmember]
    rfl
  unfold parse
  rw [hanswer]
  rfl

theorem writesId_echo (h : s.numeral.Spelled) (hvalue : s.literal.value? = some n) :
    WritesId s.chars (echo s) := by
  refine .member rfl (.here rfl rfl rfl ⟨?_, passesOver_of_readValue (readValue_echo h hvalue 0)⟩)
  obtain ⟨c, cs, hchars, hc⟩ := Spelling.exists_chars_eq_cons h
  rw [hchars, List.cons_append, skipSpace_of_not (isSpace_eq_false hc)]

end Echo
end Envelope

/-! ## Echoes over HTTP

The identifier is spoken of as it stands in the text of the answer, wherever that is, so the theorem
holds for an answer with any other members before and behind it. -/

namespace Config

open Envelope

theorem answerText_utf8Bytes {status : Nat} (h : Status.isBodiless status = false)
    (text : List Char) : answerText status (Text.utf8Bytes text) = text := by
  unfold answerText
  rw [if_neg (by simp [h])]
  exact Text.textOfUtf8_utf8Bytes text

theorem outcome_of_parse (config : Config) {status : Nat} {body : List UInt8}
    {envelope : Envelope} (h : Envelope.parse (answerText status body) = .ok envelope) :
    config.outcome (.response status body) = envelope.outcome config.clientId := by
  show classify config.clientId status (answerText status body) = _
  unfold classify
  rw [h]

/-- **What an answer comes to that has the client's identifier as a number**, in the client's own
characters. The status does not count. The value of the number is kept, and the call gets the result
exactly if that value is printed in the same characters. An integer is so exactly if it fits 64
bits, and a number of at most fifteen digits with a fraction exactly if it is tidy. A number with an
exponent can be so only if the exponent is one that is printed.

If it is refused, the error shows both spellings, the one that was kept and the client's. -/
theorem outcome_of_echo (config : Config) {s : Spelling} {status : Nat} {body : List UInt8}
    {envelope : Envelope} (hspelled : s.numeral.Spelled)
    (hclient : config.clientId = String.ofList s.chars)
    (hparse : Envelope.parse (answerText status body) = .ok envelope)
    (herror : envelope.error = none) (hid : WritesId s.chars (answerText status body)) :
    ∃ n, s.literal.value? = some n ∧
      (config.outcome (.response status body) =
        if n.chars = s.chars then .ok (envelope.result.getD .null)
        else .error (.invalidResponse ("response id " ++ n.compact ++
          " does not match request id `" ++ config.clientId ++ "`"))) ∧
      (s.IsWhole → (n.chars = s.chars ↔ s.Fits)) ∧
      (s.IsShort → (n.chars = s.chars ↔ s.Tidy)) ∧
      (s.numeral.exponent ≠ none → n.chars = s.chars → s.IsScientific) := by
  obtain ⟨v, rest, value, htext, hends, hread, hvalue⟩ := id_of_writesId hid hparse
  rw [← readValue_skipSpace, htext] at hread
  obtain ⟨n, hn, rfl, -⟩ := (readValue_spelling hspelled hends).mp hread
  refine ⟨n, hn, ?_, fun hwhole => Spelling.chars_eq_iff_fits hspelled hwhole hn,
    fun hshort => Spelling.chars_eq_iff_tidy hspelled hshort hn,
    Spelling.isScientific_of_chars_eq hspelled⟩
  rw [config.outcome_of_parse hparse, hclient]
  exact outcome_of_number herror hvalue

theorem outcome_of_echo_largestNatural :
    ({ loopback with clientId := "18446744073709551615" } : Config).outcome
      (.response 200 (Text.utf8Bytes (echo largestNatural))) = .ok .null := by
  have hspelled : largestNatural.numeral.Spelled := spelled_digitChars _
  have hwhole : largestNatural.IsWhole := ⟨rfl, rfl⟩
  have hfits : largestNatural.Fits := by
    show Nat.ofDigitChars 10 (digitChars 18446744073709551615 ++ []) 0 < 2 ^ 64
    rw [List.append_nil]
    exact Nat.ofDigitChars_ten_toDigits.trans_lt (by decide)
  obtain ⟨m, hm, -⟩ := Spelling.value?_of_fits hwhole hfits
  have htext := answerText_utf8Bytes (show Status.isBodiless 200 = false from rfl)
    (echo largestNatural)
  obtain ⟨n, -, houtcome, hintegers, -⟩ := outcome_of_echo
    { loopback with clientId := "18446744073709551615" } hspelled rfl
    ((congrArg Envelope.parse htext).trans (parse_echo hspelled hm)) rfl
    (htext.symm ▸ writesId_echo hspelled hm)
  rw [houtcome, if_pos ((hintegers hwhole).mpr hfits)]
  rfl

/-- An echo of the identifier in its own characters can be refused. -/
theorem not_every_echo_accepted :
    ¬∀ (config : Config) (s : Spelling) (status : Nat) (body : List UInt8) (envelope : Envelope),
      s.numeral.Spelled → config.clientId = String.ofList s.chars → Status.isSuccess status = true →
      Envelope.parse (answerText status body) = .ok envelope → envelope.error = none →
      WritesId s.chars (answerText status body) →
      config.outcome (.response status body) = .ok (envelope.result.getD .null) := by
  intro haccepted
  have hspelled : hundred.numeral.Spelled := by
    refine ⟨by simp [hundred], by simp [hundred], ?_, by simp [hundred], ?_⟩
    · rintro c d cs ⟨⟩
    · rintro minus ds ⟨⟩
      simp
  have hvalue : hundred.literal.value?.isSome = true := by decide +kernel
  obtain ⟨n, hn⟩ := Option.isSome_iff_exists.mp hvalue
  have htext := answerText_utf8Bytes (show Status.isBodiless 200 = false from rfl)
    (echo hundred)
  have hparse := (congrArg Envelope.parse htext).trans (parse_echo hspelled hn)
  have hok := haccepted { loopback with clientId := String.ofList hundred.chars } hundred 200 _ _
    hspelled rfl rfl hparse rfl (htext.symm ▸ writesId_echo hspelled hn)
  -- an exponent is printed with its sign
  have hother : n.chars ≠ hundred.chars := by
    intro hsame
    obtain ⟨-, hsign | hsign⟩ := ((Spelling.chars_eq_iff hspelled).mp hsame).2.2 false ['2'] rfl
    · cases hsign
    · cases hsign
  rw [outcome_of_parse _ hparse, outcome_of_number rfl rfl, if_neg hother] at hok
  cases hok

end Config
end NodeRpc
