import Mathlib.Data.List.Basic
import Mathlib.Data.Char
import NodeRpc.Text.Utf8

/-!
# Text and its bytes

Bytes are read as a text exactly if they are the encoding of it (`textOfUtf8?_eq_some_iff`). So no
text is read from a character that is spelled with more bytes than it takes, from half a pair of
surrogates or from a number beyond the last character, and every text is read back.

One character is looked at at a time: `Spells` says in numbers how its bytes begin and go on, and
both what the encoder writes and what the reader takes are that.

The reader goes on where a byte is wrong, since bytes that are no text are shown all the same in
some places, with a replacement character for what is wrong. Of that nothing is said here but that
it does not happen to the bytes of a text (`textOfUtf8_utf8Bytes`).
-/

namespace NodeRpc.Text

/-! ## The bytes of a character

Four lengths, and bounds on the second byte for some first bytes. Each bound keeps out what would be
a second spelling of a character or a number that is none. -/

/-- A character is spelled by these bytes, by its number: what the first byte begins with says how
many there are. The bounds on a second byte keep out what fits in fewer bytes, the surrogates and
what lies behind the last character. -/
inductive Spells (n : Nat) : List UInt8 → Prop
  | one {a : UInt8} (value : n = a.toNat) (first : a.toNat < 0x80) : Spells n [a]
  | two {a b : UInt8} (value : n = a.toNat % 32 * 64 + b.toNat % 64)
      (first : 0xC2 ≤ a.toNat ∧ a.toNat ≤ 0xDF) (second : 0x80 ≤ b.toNat ∧ b.toNat ≤ 0xBF) :
      Spells n [a, b]
  | three {a b c : UInt8} (value : n = (a.toNat % 16 * 64 + b.toNat % 64) * 64 + c.toNat % 64)
      (first : 0xE0 ≤ a.toNat ∧ a.toNat ≤ 0xEF) (second : 0x80 ≤ b.toNat ∧ b.toNat ≤ 0xBF)
      (low : a.toNat = 0xE0 → 0xA0 ≤ b.toNat) (high : a.toNat = 0xED → b.toNat ≤ 0x9F)
      (third : 0x80 ≤ c.toNat ∧ c.toNat ≤ 0xBF) : Spells n [a, b, c]
  | four {a b c d : UInt8}
      (value : n = ((a.toNat % 8 * 64 + b.toNat % 64) * 64 + c.toNat % 64) * 64 + d.toNat % 64)
      (first : 0xF0 ≤ a.toNat ∧ a.toNat ≤ 0xF4) (second : 0x80 ≤ b.toNat ∧ b.toNat ≤ 0xBF)
      (low : a.toNat = 0xF0 → 0x90 ≤ b.toNat) (high : a.toNat = 0xF4 → b.toNat ≤ 0x8F)
      (third : 0x80 ≤ c.toNat ∧ c.toNat ≤ 0xBF) (fourth : 0x80 ≤ d.toNat ∧ d.toNat ≤ 0xBF) :
      Spells n [a, b, c, d]

/-- Only characters are spelled. -/
theorem Spells.isValidChar {n : Nat} {bytes : List UInt8} (h : Spells n bytes) :
    n.isValidChar := by
  unfold Nat.isValidChar
  cases h with
  | one value first => omega
  | two value first second => omega
  | three value first second low high third => omega
  | four value first second low high third fourth => omega

theorem eq_ofNat_of_toNat {a : UInt8} {n : Nat} (h : a.toNat = n) : a = UInt8.ofNat n := by
  rw [← h, UInt8.ofNat_toNat]

/-- A character is spelled as it is encoded, -/
theorem Spells.eq_encode {c : Char} {bytes : List UInt8} (h : Spells c.toNat bytes) :
    bytes = String.utf8EncodeChar c := by
  have hval : c.val.toNat = c.toNat := rfl
  unfold String.utf8EncodeChar
  simp only [hval]
  generalize c.toNat = n at h
  cases h with
  | one value first =>
    rw [if_pos (by omega), ← eq_ofNat_of_toNat value.symm]
  | @two a b value first second =>
    have ha : a = UInt8.ofNat (n / 64 % 32 + 192) := eq_ofNat_of_toNat (by omega)
    have hb : b = UInt8.ofNat (n % 64 + 128) := eq_ofNat_of_toNat (by omega)
    rw [if_neg (by omega), if_pos (by omega), ← ha, ← hb]
  | @three a b c value first second low high third =>
    have ha : a = UInt8.ofNat (n / 4096 % 16 + 224) := eq_ofNat_of_toNat (by omega)
    have hb : b = UInt8.ofNat (n / 64 % 64 + 128) := eq_ofNat_of_toNat (by omega)
    have hc : c = UInt8.ofNat (n % 64 + 128) := eq_ofNat_of_toNat (by omega)
    rw [if_neg (by omega), if_neg (by omega), if_pos (by omega), ← ha, ← hb, ← hc]
  | @four a b c d value first second low high third fourth =>
    have ha : a = UInt8.ofNat (n / 262144 % 8 + 240) := eq_ofNat_of_toNat (by omega)
    have hb : b = UInt8.ofNat (n / 4096 % 64 + 128) := eq_ofNat_of_toNat (by omega)
    have hc : c = UInt8.ofNat (n / 64 % 64 + 128) := eq_ofNat_of_toNat (by omega)
    have hd : d = UInt8.ofNat (n % 64 + 128) := eq_ofNat_of_toNat (by omega)
    rw [if_neg (by omega), if_neg (by omega), if_neg (by omega), ← ha, ← hb, ← hc, ← hd]

/-- and there is no other way to spell it. -/
theorem spells_encode (c : Char) : Spells c.toNat (String.utf8EncodeChar c) := by
  have hvalid : c.toNat < 0xD800 ∨ 0xDFFF < c.toNat ∧ c.toNat < 0x110000 := c.valid
  have hval : c.val.toNat = c.toNat := rfl
  unfold String.utf8EncodeChar
  simp only [hval]
  generalize c.toNat = n at hvalid
  have hbyte : ∀ k, k < 256 → (UInt8.ofNat k).toNat = k := fun k hk =>
    UInt8.toNat_ofNat_of_lt' hk
  split
  · have ha := hbyte n (by omega)
    exact .one ha.symm (by omega)
  · split
    · have ha := hbyte (n / 64 % 32 + 192) (by omega)
      have hb := hbyte (n % 64 + 128) (by omega)
      exact .two (by omega) (by omega) (by omega)
    · split
      · have ha := hbyte (n / 4096 % 16 + 224) (by omega)
        have hb := hbyte (n / 64 % 64 + 128) (by omega)
        have hc := hbyte (n % 64 + 128) (by omega)
        exact .three (by omega) (by omega) (by omega) (by omega) (by omega) (by omega)
      · have ha := hbyte (n / 262144 % 8 + 240) (by omega)
        have hb := hbyte (n / 4096 % 64 + 128) (by omega)
        have hc := hbyte (n / 64 % 64 + 128) (by omega)
        have hd := hbyte (n % 64 + 128) (by omega)
        exact .four (by omega) (by omega) (by omega) (by omega) (by omega) (by omega) (by omega)

/-! ## Reading one character

The reader has a table of first bytes and a loop over those that follow. `Announces` is the table as
a relation, so that it is gone through once. -/

/-- What a first byte announces: the size and the bounds on the second byte. -/
inductive Announces (n : Nat) : Option (Nat × Nat × Nat) → Prop
  | one (first : n < 0x80) : Announces n (some (1, 0x80, 0xBF))
  | two (first : 0xC2 ≤ n ∧ n ≤ 0xDF) : Announces n (some (2, 0x80, 0xBF))
  | three {low high : Nat} (first : 0xE0 ≤ n ∧ n ≤ 0xEF)
      (low_eq : n = 0xE0 ∧ low = 0xA0 ∨ n ≠ 0xE0 ∧ low = 0x80)
      (high_eq : n = 0xED ∧ high = 0x9F ∨ n ≠ 0xED ∧ high = 0xBF) :
      Announces n (some (3, low, high))
  | four {low high : Nat} (first : 0xF0 ≤ n ∧ n ≤ 0xF4)
      (low_eq : n = 0xF0 ∧ low = 0x90 ∨ n ≠ 0xF0 ∧ low = 0x80)
      (high_eq : n = 0xF4 ∧ high = 0x8F ∨ n ≠ 0xF4 ∧ high = 0xBF) :
      Announces n (some (4, low, high))
  | none (first : 0x80 ≤ n ∧ n < 0xC2 ∨ 0xF4 < n) : Announces n none

theorem announces (a : UInt8) : Announces a.toNat (leadByte? a) := by
  unfold leadByte?
  dsimp only
  split
  · exact .one ‹_›
  · split
    · exact .two ‹_›
    · split
      · exact .three (by omega) (by omega) (by omega)
      · split
        · exact .three (by omega) (by omega) (by omega)
        · split
          · exact .three (by omega) (by omega) (by omega)
          · split
            · exact .four (by omega) (by omega) (by omega)
            · split
              · exact .four (by omega) (by omega) (by omega)
              · split
                · exact .four (by omega) (by omega) (by omega)
                · exact .none (by omega)

/-- No byte is left to come, -/
theorem continuation_zero_iff {low high value found : Nat} {bytes rest : List UInt8} :
    continuation 0 low high value bytes = (found, 0, rest) ↔ found = value ∧ bytes = rest := by
  simp [continuation, eq_comm]

/-- or the next one is there and within its bounds. -/
theorem continuation_succ_iff {wanted low high value found : Nat} {bytes rest : List UInt8} :
    continuation (wanted + 1) low high value bytes = (found, 0, rest) ↔
      ∃ b after, bytes = b :: after ∧ (low ≤ b.toNat ∧ b.toNat ≤ high) ∧
        continuation wanted 0x80 0xBF (value * 64 + b.toNat % 64) after = (found, 0, rest) := by
  cases bytes with
  | nil => simp [continuation]
  | cons b after =>
    rw [continuation]
    split
    · rename_i hb
      simp [hb]
    · rename_i hb
      simp only [Prod.mk.injEq, Nat.succ_ne_zero, false_and, and_false, List.cons.injEq, false_iff]
      rintro ⟨b, after, ⟨rfl, rfl⟩, hb', -⟩
      exact hb hb'

/-- A character of several bytes is read if all of them are there. -/
theorem nextChar_of_lead (size : Nat) {b : UInt8} {low high : Nat} {c : Char}
    {rest after : List UInt8} (lead : leadByte? b = some (size + 2, low, high)) :
    nextChar b rest = (some c, after) ↔ ∃ value, c = Char.ofNat value ∧
      continuation (size + 1) low high (b.toNat % 1 <<< (5 - size)) rest = (value, 0, after) := by
  have hshift : 7 - (size + 2) = 5 - size := by omega
  unfold nextChar
  rw [lead]
  simp only [hshift, show size + 2 - 1 = size + 1 from rfl]
  generalize continuation (size + 1) low high (b.toNat % 1 <<< (5 - size)) rest = read
  obtain ⟨value, missing, left⟩ := read
  by_cases hmissing : missing = 0
  · subst hmissing
    simp [eq_comm]
  · simp [hmissing]

/-- What is read is what spells a number. -/
theorem nextChar_eq_some_iff {b : UInt8} {c : Char} {rest after : List UInt8} :
    nextChar b rest = (some c, after) ↔
      ∃ n, c = Char.ofNat n ∧ ∃ more, Spells n (b :: more) ∧ rest = more ++ after := by
  have hlead := announces b
  generalize hfound : leadByte? b = found at hlead
  -- the first byte tells how many follow, so no other spelling can begin with it
  cases hlead with
  | none first =>
    simp only [nextChar, hfound, Prod.mk.injEq, reduceCtorEq, false_and, false_iff]
    rintro ⟨n, -, more, spelled, -⟩
    cases spelled <;> omega
  | one first =>
    simp only [nextChar, hfound, Prod.mk.injEq, Option.some.injEq]
    constructor
    · rintro ⟨rfl, rfl⟩
      exact ⟨_, rfl, [], .one rfl first, rfl⟩
    · rintro ⟨n, rfl, more, spelled, rfl⟩
      cases spelled with
      | one value _ => exact ⟨by rw [value], rfl⟩
      | two | three | four => omega
  | two first =>
    rw [nextChar_of_lead 0 hfound]
    simp only [continuation_succ_iff, continuation_zero_iff]
    refine exists_congr fun n => and_congr_right fun _ => ⟨?_, ?_⟩
    · rintro ⟨b₂, _, rfl, second, value, rfl⟩
      exact ⟨[b₂], .two value first second, rfl⟩
    · rintro ⟨more, spelled, rfl⟩
      cases spelled with
      | @two _ b₂ value _ second => exact ⟨b₂, _, rfl, second, value, rfl⟩
      | one | three | four => omega
  | three first low_eq high_eq =>
    rw [nextChar_of_lead 1 hfound]
    simp only [continuation_succ_iff, continuation_zero_iff]
    refine exists_congr fun n => and_congr_right fun _ => ⟨?_, ?_⟩
    · rintro ⟨b₂, _, rfl, second, b₃, _, rfl, third, value, rfl⟩
      exact ⟨[b₂, b₃], .three value first (by omega) (by omega) (by omega) third, rfl⟩
    · rintro ⟨more, spelled, rfl⟩
      cases spelled with
      | @three _ b₂ b₃ value _ second low high third =>
        exact ⟨b₂, _, rfl, by omega, b₃, _, rfl, third, value, rfl⟩
      | one | two | four => omega
  | four first low_eq high_eq =>
    rw [nextChar_of_lead 2 hfound]
    simp only [continuation_succ_iff, continuation_zero_iff]
    refine exists_congr fun n => and_congr_right fun _ => ⟨?_, ?_⟩
    · rintro ⟨b₂, _, rfl, second, b₃, _, rfl, third, b₄, _, rfl, fourth, value, rfl⟩
      exact ⟨[b₂, b₃, b₄], .four value first (by omega) (by omega) (by omega) third fourth, rfl⟩
    · rintro ⟨more, spelled, rfl⟩
      cases spelled with
      | @four _ b₂ b₃ b₄ value _ second low high third fourth =>
        exact ⟨b₂, _, rfl, by omega, b₃, _, rfl, third, b₄, _, rfl, fourth, value, rfl⟩
      | one | two | three => omega

/-- The character that is read is the one whose encoding stands in front. -/
theorem nextChar_eq_some_iff_encode {b : UInt8} {c : Char} {rest after : List UInt8} :
    nextChar b rest = (some c, after) ↔ b :: rest = String.utf8EncodeChar c ++ after := by
  rw [nextChar_eq_some_iff]
  constructor
  · rintro ⟨n, rfl, more, spelled, rfl⟩
    have hn : (Char.ofNat n).toNat = n := by
      rw [Char.ofNat, dif_pos spelled.isValidChar]
      rfl
    rw [← hn] at spelled
    rw [← spelled.eq_encode, List.cons_append]
  · intro front
    have spelled := spells_encode c
    cases hencode : String.utf8EncodeChar c with
    | nil => exact absurd hencode String.utf8EncodeChar_ne_nil
    | cons first more =>
      rw [hencode, List.cons_append, List.cons.injEq] at front
      rw [hencode, ← front.1] at spelled
      exact ⟨c.toNat, (Char.ofNat_toNat c).symm, more, spelled, front.2⟩

/-! ## Reading a text -/

/-- Bytes are read as a text if they are the encodings of its characters. -/
theorem mapM_decodeUtf8_eq_some_iff {fuel : Nat} {bytes : List UInt8} {text : List Char}
    (enough : bytes.length ≤ fuel) :
    (decodeUtf8 fuel bytes).mapM id = some text ↔ bytes = text.flatMap String.utf8EncodeChar := by
  induction fuel generalizing bytes text with
  | zero =>
    obtain rfl : bytes = [] := List.eq_nil_of_length_eq_zero (Nat.le_zero.1 enough)
    cases text <;> simp [decodeUtf8]
  | succ fuel ih =>
    cases bytes with
    | nil => cases text <;> simp [decodeUtf8]
    | cons b rest =>
      simp only [decodeUtf8, List.mapM_cons, id, Option.bind_eq_bind, Option.bind_eq_some_iff,
        Option.pure_def, Option.some.injEq]
      -- as long as there are bytes for the fuel, what follows a character is read by the rest of it
      have step {c : Char} {after : List UInt8} {more : List Char}
          (hread : nextChar b rest = (some c, after)) :
          (decodeUtf8 fuel after).mapM id = some more ↔
            after = more.flatMap String.utf8EncodeChar := by
        have hlength := congrArg List.length (nextChar_eq_some_iff_encode.1 hread)
        have hpos := List.length_pos_iff.2 (String.utf8EncodeChar_ne_nil (c := c))
        simp only [List.length_cons, List.length_append] at hlength enough
        exact ih (by omega)
      constructor
      · rintro ⟨c, hc, more, hmore, rfl⟩
        have hread : nextChar b rest = (some c, (nextChar b rest).2) := by rw [← hc]
        rw [List.flatMap_cons, ← (step hread).1 hmore]
        exact nextChar_eq_some_iff_encode.1 hread
      · intro whole
        cases text with
        | nil => cases whole
        | cons c more =>
          have hread := nextChar_eq_some_iff_encode.2 (List.flatMap_cons ▸ whole)
          rw [hread]
          exact ⟨c, rfl, more, (step hread).2 rfl, rfl⟩

theorem toList_loop_eq (bytes : ByteArray) (i : Nat) (before : List UInt8) :
    ByteArray.toList.loop bytes i before = before.reverse ++ bytes.data.toList.drop i := by
  fun_induction ByteArray.toList.loop bytes i before with
  | case1 i before h ih =>
    have hi : i < bytes.data.toList.length := by simpa using h
    rw [ih, List.drop_eq_getElem_cons hi]
    simp [ByteArray.get!, h]
  | case2 i before h =>
    rw [List.drop_eq_nil_of_le (by simpa using Nat.le_of_not_lt h), List.append_nil]

/-- A text is encoded character by character. -/
theorem utf8Bytes_eq_flatMap (text : List Char) :
    utf8Bytes text = text.flatMap String.utf8EncodeChar := by
  rw [utf8Bytes, String.toUTF8_eq_toByteArray, String.toByteArray_ofList, List.utf8Encode,
    ByteArray.toList, toList_loop_eq, List.toList_data_toByteArray]
  rfl

/-- **What is read as a text is its encoding, and nothing else is.** So bytes are read as one text
at most, and two files with the same text have the same bytes. -/
theorem textOfUtf8?_eq_some_iff {bytes : List UInt8} {text : List Char} :
    textOfUtf8? bytes = some text ↔ bytes = utf8Bytes text := by
  rw [textOfUtf8?, mapM_decodeUtf8_eq_some_iff (Nat.le_refl _), utf8Bytes_eq_flatMap]

theorem eq_map_some_of_mapM_id {α : Type} {cs : List (Option α)} {text : List α}
    (h : cs.mapM id = some text) : cs = text.map some := by
  induction cs generalizing text with
  | nil =>
    cases h
    rfl
  | cons c? cs ih =>
    simp only [List.mapM_cons, id, Option.bind_eq_bind, Option.bind_eq_some_iff, Option.pure_def,
      Option.some.injEq] at h
    obtain ⟨c, rfl, more, hmore, rfl⟩ := h
    rw [ih hmore]
    rfl

/-- The encoding of a text is read as the text. -/
theorem textOfUtf8_utf8Bytes (text : List Char) : textOfUtf8 (utf8Bytes text) = text := by
  have hread : textOfUtf8? (utf8Bytes text) = some text := textOfUtf8?_eq_some_iff.mpr rfl
  unfold textOfUtf8
  rw [eq_map_some_of_mapM_id hread, List.map_map]
  exact List.map_id _

end NodeRpc.Text
