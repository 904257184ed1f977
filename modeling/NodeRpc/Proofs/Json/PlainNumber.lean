import NodeRpc.Shape.Decode
import NodeRpc.Proofs.Json.Readable
import NodeRpc.Proofs.Json.Skipping
import NodeRpc.Proofs.Number.Nearest

/-!
# Short numbers are read as the nearest

The value of a literal with a fraction is not the nearest binary64 number in general: its digits are
collected in 64 bits, made a binary64 number and divided by the binary64 number of a power of ten,
and each of these steps may round. A literal whose digits, taken together, fit 53 bits and of which
at most fifteen stand after the point is rounded once only, by the division (`exists_value?`). So
its text is read as a number near what it says (`exists_parse?`), and so is a text without a
fraction, which is kept as an integer until a binary64 number is wanted.

Amounts are such numbers. They have eight places, and there are fewer than 53 bits of satoshis. The
bound of fifteen places is that of the powers of ten which are binary64 numbers themselves without
rounding, up to what fifteen digits need, and the bound of 53 bits that of the integers which are.

It is not said that other literals are rounded wrongly. Most are not. But it takes two roundings
to go wrong, and this is the class of those where there is one.
-/

namespace NodeRpc.Json

/-! ## A number at the front of a text -/

/-- A number does not begin with a blank. -/
theorem isSpace_eq_false {c : Char} (hc : c.isDigit = true ∨ c = '-') : isSpace c = false := by
  rcases hc with hdigit | rfl
  · unfold isSpace
    simp only [Bool.or_eq_false_iff, beq_eq_false_iff_ne, ne_eq]
    refine ⟨⟨⟨?_, ?_⟩, ?_⟩, ?_⟩
    all_goals
      rintro rfl
      exact absurd hdigit (by decide)
  · decide

/-- Where a text begins like a number, a number is read or nothing. -/
theorem readValue_eq_readNumber {c : Char} (hc : c.isDigit = true ∨ c = '-') (depth : Nat)
    (cs : List Char) : readValue depth (c :: cs) =
      (readNumber (c :: cs)).map fun p => (.number p.1, p.2) := by
  have hspace := isSpace_eq_false hc
  have hbegins : c = '-' ∨ (digit? c).isSome = true := by
    rcases hc with hdigit | hminus
    · exact Or.inr (by rw [digit?_of_isDigit hdigit, Option.isSome_some])
    · exact Or.inl hminus
  unfold readValue
  rw [skipSpace_of_not hspace]
  split
  case h_1 heq => cases heq
  case h_8 heq =>
    cases heq
    rw [if_pos hbegins]
    rfl
  all_goals
    -- nothing else begins with a digit or a minus sign
    rename_i heq
    cases heq
    exact absurd hc (by decide)

theorem readValue_number {c : Char} {cs rest : List Char} {n : Number}
    (hc : c.isDigit = true ∨ c = '-') (hread : readNumber (c :: cs) = .ok (n, rest))
    (depth : Nat) : readValue depth (c :: cs) = .ok (.number n, rest) := by
  rw [readValue_eq_readNumber hc, hread]
  rfl

/-- A number begins with its sign or else with a digit. -/
theorem Spelling.exists_chars_eq_cons {s : Spelling} (h : s.numeral.Spelled) :
    ∃ c cs, s.chars = c :: cs ∧ (c.isDigit = true ∨ c = '-') := by
  unfold chars
  cases s.negative with
  | true => exact ⟨'-', _, rfl, Or.inr rfl⟩
  | false =>
    obtain ⟨c, cs, hwhole⟩ := List.exists_cons_of_ne_nil h.whole_ne_nil
    refine ⟨c, cs ++ (Numeral.fractionChars s.numeral.fraction ++ s.exponentChars), ?_,
      Or.inl (h.whole_digits c (by simp [hwhole]))⟩
    rw [signChars, if_neg Bool.false_ne_true, List.nil_append, hwhole, List.cons_append]

theorem exists_numeral_chars {numeral : Numeral} (h : numeral.Spelled) (negative : Bool) :
    ∃ c cs, signChars negative ++ numeral.chars = c :: cs ∧ (c.isDigit = true ∨ c = '-') := by
  rw [← Spelling.chars_printed]
  exact Spelling.exists_chars_eq_cons h

/-- **However a number is written, its value is read**, if it is not out of range. Nothing of what
follows is taken, and the depth does not matter, as a number has nothing inside. -/
theorem readValue_spelling {s : Spelling} {rest r : List Char} {value : Json} {depth : Nat}
    (h : s.numeral.Spelled) (hrest : NumeralEnds rest) :
    readValue depth (s.chars ++ rest) = .ok (value, r) ↔
      ∃ n, s.literal.value? = some n ∧ value = .number n ∧ r = rest := by
  have hread := read_spelling h hrest
  obtain ⟨c, cs, hchars, hc⟩ := Spelling.exists_chars_eq_cons h
  rw [hchars, List.cons_append] at hread ⊢
  rw [readValue_eq_readNumber hc]
  unfold readNumber
  rw [hread]
  dsimp only [bind, Except.bind]
  cases s.literal.value? with
  | none => simp [refuse, Except.map]
  | some n => simp [pure, Except.pure, Except.map, eq_comm]

/-- A text that is a number and nothing more. -/
theorem parse?_number {c : Char} {cs : List Char} {n : Number}
    (hc : c.isDigit = true ∨ c = '-') (hread : readNumber (c :: cs) = .ok (n, [])) :
    parse? (String.ofList (c :: cs)) = some (.number n) := by
  unfold parse? parse
  rw [String.toList_ofList, readValue_number hc hread]
  rfl

/-! ## The value of a literal

Where a literal without an exponent goes: an integer that fits 64 bits stays one, and the digits of
anything else are collected, made a number and scaled. -/

theorem le_foldl_digits (ds : List Nat) (s : Nat) :
    s ≤ ds.foldl (fun n d => 10 * n + d) s := by
  induction ds generalizing s with
  | nil => exact Nat.le_refl s
  | cons d ds ih =>
    have hle := ih (10 * s + d)
    rw [List.foldl_cons]
    omega

/-- Digits that fit 64 bits are all collected. -/
theorem collect_eq (ds : List Nat) (s : Nat)
    (h : ds.foldl (fun n d => 10 * n + d) s < UInt64.size) :
    collect s ds = (ds.foldl (fun n d => 10 * n + d) s, ds.length, 0) := by
  induction ds generalizing s with
  | nil => rfl
  | cons d ds ih =>
    rw [List.foldl_cons] at h
    have hle := le_foldl_digits ds (10 * s + d)
    have hcomm : s * 10 + d = 10 * s + d := by rw [Nat.mul_comm]
    unfold collect
    rw [hcomm, if_pos (hle.trans_lt h), ih _ h]
    rfl

/-- A power of ten up to `10 ^ 15` divides without being rounded itself. -/
theorem exists_real? (negative : Bool) {m k : Nat} (hm : m < 2 ^ 53) (hpos : 0 < k)
    (hk : k ≤ 15) :
    ∃ x, Literal.real? negative m (Int.ofNat 0 - Int.ofNat k) = some (.real x) ∧
      x.negative = negative ∧ x.Near ((m : ℚ) / (10 ^ k : Nat)) := by
  have hpower : 10 ^ k < 2 ^ 53 :=
    (Nat.pow_le_pow_right (by decide) hk).trans_lt (by decide)
  obtain ⟨x, y, z, hx, hy, hz, hsign, hnear⟩ :=
    Binary64.exists_near_div? hm hpower (Nat.pow_pos (by decide))
  have hexp : Int.ofNat 0 - Int.ofNat k = -(k : Int) := by
    simp
  have hscale : Literal.scale? x (-(k : Int)) = some z := by
    unfold Literal.scale?
    rw [if_pos (by omega), Int.natAbs_neg, Int.natAbs_natCast]
    have hten : Binary64.tenPow? k = some y := hy
    rw [hten, Option.bind_some, if_neg (by omega), hz]
  unfold Literal.real?
  rw [hexp, hx]
  simp only [Option.bind_eq_bind, Option.bind_some, hscale, Option.pure_def]
  cases negative with
  | false => exact ⟨z, rfl, hsign, hnear⟩
  | true => exact ⟨z.neg, rfl, by simp [Binary64.neg, hsign], hnear⟩

/-- An integer of at most 53 bits is near the binary64 number it stands for. -/
theorem exists_integer? {negative : Bool} {m : Nat} (hm : m < 2 ^ 53)
    (hzero : negative = true → 0 < m) :
    ∃ n, Literal.integer? negative m = some n ∧ (Decode.realOfNumber n).negative = negative ∧
      (Decode.realOfNumber n).Near ((m : ℚ) / (1 : Nat)) := by
  have hsize : m < 2 ^ 64 := by omega
  obtain ⟨x, hx, hsign, hnear⟩ := Binary64.exists_near_ofRatio? false Nat.one_pos hsize
  have hofNat : Binary64.ofNat? m = some x := hx
  unfold Literal.integer?
  cases negative with
  | false =>
    have hfits : m < UInt64.size := by
      unfold UInt64.size
      omega
    refine ⟨.natural m hfits, ?_, ?_⟩
    · rw [if_neg Bool.false_ne_true, dif_pos hfits]
    · simp only [Decode.realOfNumber, hofNat, Option.getD_some]
      exact ⟨hsign, hnear⟩
  | true =>
    have hfits : 0 < m ∧ 2 * m ≤ UInt64.size := by
      unfold UInt64.size
      have := hzero rfl
      omega
    refine ⟨.negative m hfits, ?_, ?_⟩
    · rw [if_pos rfl, dif_pos hfits]
    · simp only [Decode.realOfNumber, hofNat, Option.getD_some]
      exact ⟨by simp [Binary64.neg, hsign], hnear⟩

section Value

variable {l : Literal}

/-- The digits of a short literal are all collected. -/
theorem collect_short (hsize : digitsValue (l.whole ++ l.fraction) < UInt64.size) :
    collect 0 l.whole = (digitsValue l.whole, l.whole.length, 0) ∧
      collect (digitsValue l.whole) l.fraction =
        (digitsValue (l.whole ++ l.fraction), l.fraction.length, 0) := by
  have hsplit : digitsValue (l.whole ++ l.fraction) =
      l.fraction.foldl (fun n d => 10 * n + d) (digitsValue l.whole) := List.foldl_append
  rw [hsplit] at hsize ⊢
  have hle := le_foldl_digits l.fraction (digitsValue l.whole)
  have hlt : digitsValue l.whole < UInt64.size := by omega
  exact ⟨collect_eq _ _ hlt, collect_eq _ _ hsize⟩

/-- An integer of 64 bits is kept as one. -/
theorem value?_of_integer? {n : Number} (hfraction : l.fraction = []) (hplain : l.exponent = none)
    (hsize : digitsValue l.whole < UInt64.size)
    (h : Literal.integer? l.negative (digitsValue l.whole) = some n) : l.value? = some n := by
  have hall : digitsValue (l.whole ++ l.fraction) = digitsValue l.whole := by
    rw [hfraction, List.append_nil]
  obtain ⟨hwhole, -⟩ := collect_short (hall ▸ hsize)
  unfold Literal.value?
  simp [hwhole, hplain, hfraction, collect, h]

/-- **A short literal with a fraction and without an exponent is rounded once.** The digits and the
power of ten are both binary64 numbers without rounding, and what is left is their quotient. -/
theorem exists_fraction_value? (hplain : l.exponent = none)
    (hbits : digitsValue (l.whole ++ l.fraction) < 2 ^ 53) (hpoint : l.fraction ≠ [])
    (hplaces : l.fraction.length ≤ 15) :
    ∃ x, l.value? = some (.real x) ∧ x.negative = l.negative ∧
      x.Near ((digitsValue (l.whole ++ l.fraction) : ℚ) / (10 ^ l.fraction.length : Nat)) := by
  have hsize : 2 ^ 53 < UInt64.size := by decide
  obtain ⟨hwhole, hfraction⟩ := collect_short (hbits.trans hsize)
  obtain ⟨x, hx, hspec⟩ :=
    exists_real? l.negative hbits (List.length_pos_of_ne_nil hpoint) hplaces
  have hempty : l.fraction.isEmpty = false := by simpa using hpoint
  refine ⟨x, ?_, hspec⟩
  unfold Literal.value?
  simp only [hwhole, hfraction, hplain, hempty]
  exact hx

/-- So is one without a fraction, where a binary64 number is wanted. Minus zero is left out. -/
theorem exists_value? (hplain : l.exponent = none)
    (hbits : digitsValue (l.whole ++ l.fraction) < 2 ^ 53) (hplaces : l.fraction.length ≤ 15)
    (hzero : l.negative = true → 0 < digitsValue (l.whole ++ l.fraction)) :
    ∃ n, l.value? = some n ∧ (Decode.realOfNumber n).negative = l.negative ∧
      (Decode.realOfNumber n).Near
        ((digitsValue (l.whole ++ l.fraction) : ℚ) / (10 ^ l.fraction.length : Nat)) := by
  have hsize : 2 ^ 53 < UInt64.size := by decide
  by_cases hpoint : l.fraction = []
  · have hall : digitsValue (l.whole ++ l.fraction) = digitsValue l.whole := by
      rw [hpoint, List.append_nil]
    rw [hall] at hbits hzero ⊢
    obtain ⟨n, hn, hspec⟩ := exists_integer? hbits hzero
    rw [hpoint, List.length_nil, Nat.pow_zero]
    exact ⟨n, value?_of_integer? hpoint hplain (hbits.trans hsize) hn, hspec⟩
  · obtain ⟨x, hx, hspec⟩ := exists_fraction_value? hplain hbits hpoint hplaces
    exact ⟨.real x, hx, hspec⟩

end Value

/-- **A short number without an exponent is read as a number near what it says.** The sign is kept,
so zero must not have one. A number without a fraction is an integer at first, and is made a
binary64 number by whoever wants one. -/
theorem exists_parse? {numeral : Numeral} (negative : Bool) (h : numeral.Spelled)
    (hplain : numeral.exponent = none)
    (hbits : Nat.ofDigitChars 10 (numeral.whole ++ numeral.fraction) 0 < 2 ^ 53)
    (hplaces : numeral.fraction.length ≤ 15)
    (hzero : negative = true → 0 < Nat.ofDigitChars 10 (numeral.whole ++ numeral.fraction) 0) :
    ∃ n, parse? (String.ofList (signChars negative ++ numeral.chars)) = some (.number n) ∧
      (Decode.realOfNumber n).negative = negative ∧
      (Decode.realOfNumber n).Near
        ((Nat.ofDigitChars 10 (numeral.whole ++ numeral.fraction) 0 : ℚ) /
          (10 ^ numeral.fraction.length : Nat)) := by
  have hread := read_numeral h negative valueEnds_nil.numeralEnds
  rw [List.append_nil] at hread
  have hdigits : digitsValue ((numeral.literal negative).whole ++
      (numeral.literal negative).fraction) =
        Nat.ofDigitChars 10 (numeral.whole ++ numeral.fraction) 0 := by
    unfold Numeral.literal
    rw [← digitValues_append, digitsValue_digitValues]
  have hlength : (numeral.literal negative).fraction.length = numeral.fraction.length :=
    length_digitValues _
  obtain ⟨n, hn, hsign, hnear⟩ := exists_value? (l := numeral.literal negative)
    (by simp [Numeral.literal, hplain]) (hdigits ▸ hbits) (hlength ▸ hplaces)
    (fun hnegative => hdigits ▸ hzero hnegative)
  rw [hdigits, hlength] at hnear
  refine ⟨n, ?_, hsign, hnear⟩
  obtain ⟨c, cs, hchars, hc⟩ := exists_numeral_chars h negative
  rw [hchars] at hread ⊢
  refine parse?_number hc ?_
  unfold readNumber
  rw [hread]
  simp only [bind, Except.bind, hn]
  rfl

end NodeRpc.Json
