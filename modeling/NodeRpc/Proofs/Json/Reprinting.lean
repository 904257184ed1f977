import NodeRpc.Proofs.Json.PlainLayout
import NodeRpc.Proofs.Json.PlainNumber
import NodeRpc.Proofs.Number.FifteenDigits

/-!
# Which numbers are printed as they were written

A number that was read is printed from its value alone. What comes out is what went in exactly if it
was written in the one way that a number is printed in (`chars_eq_iff`): with the parts of its own
layout, and an exponent in small letters and with its sign. When that is so can be told from the
parts: an integer has to fit 64 bits (`chars_eq_iff_fits`), a number of at most fifteen digits that
has a fraction and no exponent must not end in a zero, nor be so small that it would be printed with
an exponent (`chars_eq_iff_tidy`), and an exponent must be so small or so large that it would be
printed (`isScientific_of_chars_eq`).

The question comes up for the identifier of a call, which a node may echo as a number. The
identifier is a text, the number is compared with it through its own text, and so whether an echo is
accepted depends on how the number is *spelled*. The conditions are stated on spellings for that
reason, without any reference to values.

For most numbers the answer is exact in both directions. Where a number has more than fifteen digits
and a fraction, or an exponent, one needs to know which binary64 number is the nearest before it can
be said what is printed; there the first form, `chars_eq_iff`, still holds and the others do not say
anything, but for the exponents that are never printed.
-/

namespace NodeRpc.Json

/-! ## The value of a literal -/

namespace Literal

theorem real?_eq_some {negative : Bool} {significand : Nat} {exponent : Int} {n : Number}
    (h : real? negative significand exponent = some n) : ∃ x, n = .real x := by
  unfold real? at h
  obtain ⟨magnitude, -, h⟩ := Option.bind_eq_some_iff.mp h
  obtain ⟨scaled, -, h⟩ := Option.bind_eq_some_iff.mp h
  exact ⟨_, (Option.some.inj h).symm⟩

theorem integer?_eq_some_iff {negative : Bool} {magnitude : Nat} {n : Number} :
    integer? negative magnitude = some n ↔
      (negative = false ∧ ∃ fits, n = .natural magnitude fits) ∨
        negative = true ∧ ∃ fits, n = .negative magnitude fits := by
  unfold integer?
  cases negative with
  | false =>
    by_cases fits : magnitude < UInt64.size
    · simp [fits, eq_comm]
    · simp [fits]
  | true =>
    by_cases fits : 0 < magnitude ∧ 2 * magnitude ≤ UInt64.size
    · simp [fits, eq_comm]
    · simp [fits]

end Literal

/-- Digits of which none was dropped are all collected. -/
theorem collect_of_none_dropped {ds : List Nat} {s : Nat} (h : (collect s ds).2.2 = 0) :
    (collect s ds).1 = ds.foldl (fun n d => 10 * n + d) s := by
  induction ds generalizing s with
  | nil => rfl
  | cons d ds ih =>
    unfold collect at h ⊢
    split
    · rename_i hfits
      rw [if_pos hfits] at h
      rw [List.foldl_cons, Nat.mul_comm 10 s]
      exact ih h
    · rename_i hfits
      rw [if_neg hfits] at h
      cases h

/-- **A literal is an integer, or a binary64 number.** It is an integer only if it looks like one,
and one that looks like one may still be too large, and is a binary64 number then. -/
theorem Literal.value?_cases {l : Literal} {n : Number} (h : l.value? = some n) :
    (∃ x, n = .real x) ∨
      l.fraction = [] ∧ l.exponent = none ∧
        integer? l.negative (digitsValue l.whole) = some n := by
  unfold value? at h
  dsimp only at h
  split at h
  · rename_i hwhole
    simp only [Bool.and_eq_true, List.isEmpty_iff, Option.isNone_iff_eq_none, beq_iff_eq] at hwhole
    obtain ⟨⟨hfraction, hexponent⟩, hdropped⟩ := hwhole
    have hall : (collect 0 l.whole).1 = digitsValue l.whole := collect_of_none_dropped hdropped
    rw [hfraction, collect, hall] at h
    split at h
    · rename_i hinteger
      cases h
      exact .inr ⟨hfraction, hexponent, hinteger⟩
    · exact .inl (real?_eq_some h)
  · left
    split at h
    · split at h
      · split at h
        · cases h
          exact ⟨_, rfl⟩
        · cases h
      · exact real?_eq_some h
    · exact real?_eq_some h

/-! ## Spellings and printed numbers

A number is printed in the layout of its own numeral. So the text is the one it was read from if the
numeral is, the sign is, and the exponent is begun in the same way. -/

theorem digitValues_inj {cs ds : List Char} (hcs : ∀ c ∈ cs, c.isDigit = true)
    (hds : ∀ c ∈ ds, c.isDigit = true) (h : digitValues cs = digitValues ds) : cs = ds := by
  refine ofDigitChars_inj hcs hds ?_ ?_
  · simpa using congrArg List.length h
  · rw [← digitsValue_digitValues, h, digitsValue_digitValues]

/-- A literal tells the numeral that it was read from. -/
theorem Numeral.eq_of_literal_eq {m n : Numeral} (hm : m.Spelled) (hn : n.Spelled)
    {negative negative' : Bool} (h : m.literal negative = n.literal negative') : m = n := by
  have hwhole := digitValues_inj hm.whole_digits hn.whole_digits (congrArg Literal.whole h)
  have hfraction := digitValues_inj hm.fraction_digits hn.fraction_digits
    (congrArg Literal.fraction h)
  have hexponent := congrArg Literal.exponent h
  simp only [Numeral.literal] at hexponent
  obtain ⟨_, _, exponent⟩ := m
  obtain ⟨_, _, exponent'⟩ := n
  obtain rfl := hwhole
  obtain rfl := hfraction
  cases exponent with
  | none =>
    cases exponent' with
    | none => rfl
    | some e' => cases hexponent
  | some e =>
    cases exponent' with
    | none => cases hexponent
    | some e' =>
      obtain ⟨minus, ds⟩ := e
      obtain ⟨minus', ds'⟩ := e'
      simp only [Option.map_some, Option.some.injEq, Prod.mk.injEq] at hexponent
      obtain ⟨rfl, hds⟩ := hexponent
      have hm := (hm.exponent_digits minus ds rfl).1
      have hn := (hn.exponent_digits minus ds' rfl).1
      rw [digitValues_inj hm hn hds]

namespace Spelling

variable {s : Spelling} {n : Number}

/-- An exponent is begun as in what is printed: with the small letter, and with its sign. -/
def Begun (s : Spelling) : Prop :=
  ∀ minus ds, s.numeral.exponent = some (minus, ds) →
    s.capital = false ∧ (minus = true ∨ s.plus = true)

theorem begun_of_plain (h : s.numeral.exponent = none) : s.Begun := by
  intro minus ds hexponent
  rw [h] at hexponent
  cases hexponent

theorem exponentChars_printed_eq_iff :
    (printed s.negative s.numeral).exponentChars = s.exponentChars ↔ s.Begun := by
  unfold exponentChars exponentSign Begun printed
  dsimp only
  cases s.numeral.exponent with
  | none => simp
  | some e =>
    obtain ⟨minus, ds⟩ := e
    cases minus with
    | true => cases s.capital <;> simp
    | false => cases s.capital <;> cases s.plus <;> simp

theorem chars_printed_eq_iff :
    (printed s.negative s.numeral).chars = s.chars ↔ s.Begun := by
  rw [← exponentChars_printed_eq_iff]
  unfold chars
  simp [printed]

/-- **A number is printed as it is spelled exactly if its sign and parts are those of its layout**,
and an exponent is begun as in what is printed. -/
theorem chars_eq_iff (h : s.numeral.Spelled) :
    n.chars = s.chars ↔ isSigned n = s.negative ∧ numeralOfNumber n = s.numeral ∧ s.Begun := by
  have hprinted : n.chars = (printed (isSigned n) (numeralOfNumber n)).chars := by
    rw [chars_printed, chars_numeralOfNumber]
  constructor
  · intro heq
    have hread := read_spelling h valueEnds_nil.numeralEnds
    rw [← heq, read_chars n valueEnds_nil.numeralEnds] at hread
    have hliteral := (Prod.mk.inj (Except.ok.inj hread)).1
    have hsign : isSigned n = s.negative := congrArg Literal.negative hliteral
    have hnumeral := Numeral.eq_of_literal_eq (spelled_numeralOfNumber n) h hliteral
    rw [hprinted, hsign, hnumeral, chars_printed_eq_iff] at heq
    exact ⟨hsign, hnumeral, heq⟩
  · rintro ⟨hsign, hnumeral, hbegun⟩
    rw [hprinted, hsign, hnumeral, chars_printed_eq_iff]
    exact hbegun

/-! ## Integers

An integer of 64 bits is kept as it is, and one that does not fit becomes a binary64 number, which
is printed with a fraction or an exponent. Minus zero is of the second kind. -/

/-- A spelling without a fraction and without an exponent. -/
def IsWhole (s : Spelling) : Prop := s.numeral.fraction = [] ∧ s.numeral.exponent = none

/-- An integer of 64 bits, with or without a sign. Minus zero is none, as no integer has a sign in
front of zero. -/
def Fits (s : Spelling) : Prop :=
  if s.negative then 0 < s.numeral.digits ∧ s.numeral.digits ≤ 2 ^ 63 else s.numeral.digits < 2 ^ 64

theorem digitsValue_whole (hwhole : s.IsWhole) :
    digitsValue s.literal.whole = s.numeral.digits := by
  unfold Numeral.digits
  rw [hwhole.1, List.append_nil]
  exact digitsValue_digitValues _

theorem fits_iff : s.Fits ↔ ∃ n, Literal.integer? s.negative s.numeral.digits = some n := by
  have hsize : UInt64.size = 2 ^ 64 := rfl
  unfold Fits Literal.integer?
  cases s.negative with
  | false =>
    rw [if_neg Bool.false_ne_true, if_neg Bool.false_ne_true]
    by_cases fits : s.numeral.digits < UInt64.size
    · rw [dif_pos fits]
      exact iff_of_true fits ⟨_, rfl⟩
    · rw [dif_neg fits]
      exact iff_of_false fits fun ⟨_, h⟩ => nomatch h
  | true =>
    rw [if_pos rfl, if_pos rfl]
    by_cases fits : 0 < s.numeral.digits ∧ 2 * s.numeral.digits ≤ UInt64.size
    · rw [dif_pos fits]
      exact iff_of_true (by omega) ⟨_, rfl⟩
    · rw [dif_neg fits]
      exact iff_of_false (by omega) fun ⟨_, h⟩ => nomatch h

/-- What fits 64 bits is kept as an integer. -/
theorem value?_of_fits (hwhole : s.IsWhole) (hfits : s.Fits) :
    ∃ n, s.literal.value? = some n ∧ Literal.integer? s.negative s.numeral.digits = some n := by
  obtain ⟨n, hn⟩ := fits_iff.mp hfits
  have hsize : s.numeral.digits < UInt64.size := by
    rcases Literal.integer?_eq_some_iff.mp hn with ⟨-, fits, -⟩ | ⟨-, fits, -⟩
    · exact fits
    · omega
  rw [← digitsValue_whole hwhole] at hn hsize
  refine ⟨n, value?_of_integer? ?_ ?_ hsize hn, digitsValue_whole hwhole ▸ hn⟩
  · show digitValues s.numeral.fraction = []
    rw [hwhole.1]
    rfl
  · show s.numeral.exponent.map _ = none
    rw [hwhole.2]
    rfl

theorem not_fits_of_real {x : Binary64} (hwhole : s.IsWhole)
    (hvalue : s.literal.value? = some (.real x)) : ¬s.Fits := by
  intro hfits
  obtain ⟨n, hn, hinteger⟩ := value?_of_fits hwhole hfits
  obtain rfl := Option.some.inj (hn.symm.trans hvalue)
  rcases Literal.integer?_eq_some_iff.mp hinteger with ⟨-, _, heq⟩ | ⟨-, _, heq⟩
  · cases heq
  · cases heq

/-- **An integer is printed as it is spelled exactly if it fits 64 bits.** A larger one is printed
with an exponent, and minus zero as `-0.0`. -/
theorem chars_eq_iff_fits (h : s.numeral.Spelled) (hwhole : s.IsWhole)
    (hvalue : s.literal.value? = some n) : n.chars = s.chars ↔ s.Fits := by
  rw [chars_eq_iff h]
  rcases Literal.value?_cases hvalue with ⟨x, rfl⟩ | ⟨-, -, hinteger⟩
  · -- what is kept as a binary64 number is printed with a point or an exponent
    have hprinted : numeralOf (x.shortest .even) ≠ s.numeral := by
      intro heq
      rcases numeralOf_not_whole (x.shortest .even) with hfraction | hexponent
      · exact hfraction (heq ▸ hwhole.1)
      · exact hexponent (heq ▸ hwhole.2)
    exact iff_of_false (fun hsame => hprinted hsame.2.1) (not_fits_of_real hwhole hvalue)
  · rw [digitsValue_whole hwhole] at hinteger
    have hnumeral : Numeral.mk (digitChars s.numeral.digits) [] none = s.numeral := by
      have hdigits := h.digitChars_whole
      unfold Numeral.digits
      rw [hwhole.1, List.append_nil, hdigits, ← hwhole.2]
      nth_rewrite 1 [← hwhole.1]
      rfl
    refine iff_of_true ⟨?_, ?_, begun_of_plain hwhole.2⟩ (fits_iff.mpr ⟨n, hinteger⟩)
    all_goals
      rcases Literal.integer?_eq_some_iff.mp hinteger with ⟨hsign, _, rfl⟩ | ⟨hsign, _, rfl⟩
    · exact hsign.symm
    · exact hsign.symm
    · exact hnumeral
    · exact hnumeral

/-! ## Short numbers with a fraction

With at most fifteen digits the number that is read prints as a decimal of the same worth, so only
zeros and the choice of layout are left to differ. -/

/-- A spelling of at most fifteen digits with a fraction and without an exponent. The digits in
front of the point are counted too, also a zero that stands there alone. -/
structure IsShort (s : Spelling) : Prop where
  fraction_ne_nil : s.numeral.fraction ≠ []
  exponent_eq : s.numeral.exponent = none
  length_le : s.numeral.whole.length + s.numeral.fraction.length ≤ 15

/-- No zero to spare at the end, and zero or at least `1e-5`. A number that is smaller would be
printed with an exponent. -/
def Tidy (s : Spelling) : Prop :=
  s.numeral.Trimmed ∧
    (s.numeral.digits = 0 ∨ 10 ^ s.numeral.fraction.length ≤ 10 ^ 5 * s.numeral.digits)

theorem IsShort.digits_lt (h : s.numeral.Spelled) (hshort : s.IsShort) :
    s.numeral.digits < 10 ^ 15 := by
  refine (ofDigitChars_lt h.isDigit_of_mem).trans_le (Nat.pow_le_pow_right (by decide) ?_)
  rw [List.length_append]
  exact hshort.length_le

/-- What has at most fifteen places and is not zero is not very small. -/
theorem one_le_mul_div {digits places : Nat} (hpos : 0 < digits) (hplaces : places ≤ 15) :
    1 ≤ 10 ^ 15 * ((digits : ℚ) / 10 ^ places) := by
  have hscale : (10 : ℚ) ^ places ≤ 10 ^ 15 := pow_le_pow_right₀ (by norm_num) hplaces
  have hpos : (1 : ℚ) ≤ digits := by exact_mod_cast hpos
  rw [mul_div_assoc', one_le_div (by positivity)]
  exact hscale.trans (le_mul_of_one_le_right (by norm_num) hpos)

/-- **The shortest decimal of a short number is worth what was written.** This is where the fifteen
digits come in: nothing shorter, and nothing else as short, is near the number. -/
theorem IsShort.value_shortest (h : s.numeral.Spelled) (hshort : s.IsShort)
    (hvalue : s.literal.value? = some n) :
    ∃ x, n = .real x ∧ x.negative = s.negative ∧
      (x.shortest .even).value = s.numeral.digits / (10 : ℚ) ^ s.numeral.fraction.length := by
  have hdigits : digitsValue (s.literal.whole ++ s.literal.fraction) = s.numeral.digits := by
    unfold literal Numeral.literal
    rw [← digitValues_append, digitsValue_digitValues]
    rfl
  have hlength : s.literal.fraction.length = s.numeral.fraction.length := length_digitValues _
  have hlt := hshort.digits_lt h
  have hplaces : s.numeral.fraction.length ≤ 15 := by
    have := hshort.length_le
    omega
  obtain ⟨x, hx, hsign, hnear⟩ := exists_fraction_value? (l := s.literal)
    (by simp [literal, Numeral.literal, hshort.exponent_eq])
    (by rw [hdigits]; exact hlt.trans (by decide))
    (digitValues_ne_nil hshort.fraction_ne_nil)
    (by rw [hlength]; exact hplaces)
  obtain rfl := Option.some.inj (hvalue.symm.trans hx)
  rw [hdigits, hlength] at hnear
  push_cast at hnear
  refine ⟨x, rfl, hsign, ?_⟩
  rcases Nat.eq_zero_or_pos s.numeral.digits with hzero | hpos
  · rw [hzero, Nat.cast_zero, zero_div] at hnear ⊢
    rw [hnear.eq_zero]
    simp [Binary64.shortest, Binary64.zero, Binary64.isZero, Decimal.value]
  · have hwritten : (Decimal.mk s.numeral.digits (-s.numeral.fraction.length)).value =
        s.numeral.digits / (10 : ℚ) ^ s.numeral.fraction.length := by
      simp [Decimal.value, div_eq_mul_inv]
    have hone := one_le_mul_div hpos hplaces
    rw [← hwritten] at hnear hone ⊢
    exact Binary64.value_shortest_of_near .even (hnear.shift_pos hone) hnear
      ((Decimal.size_le_iff (by decide)).mpr hlt)

/-- A short number is printed without an exponent unless it is very small. -/
theorem IsShort.exponent_eq_none_iff (h : s.numeral.Spelled) (hshort : s.IsShort) {d : Decimal}
    (hworth : d.value = s.numeral.digits / (10 : ℚ) ^ s.numeral.fraction.length) :
    (numeralOf d).exponent = none ↔
      s.numeral.digits = 0 ∨ 10 ^ s.numeral.fraction.length ≤ 10 ^ 5 * s.numeral.digits := by
  have hscale : (0 : ℚ) < 10 ^ s.numeral.fraction.length := by positivity
  have hzero : d.digits = 0 ↔ s.numeral.digits = 0 := by
    have hvalue : d.value = 0 ↔ d.digits = 0 := by simp [Decimal.value, zpow_ne_zero]
    rw [← hvalue, hworth]
    simp
  have hlow : 1 ≤ 10 ^ 5 * d.value ↔
      10 ^ s.numeral.fraction.length ≤ 10 ^ 5 * s.numeral.digits := by
    rw [hworth, mul_div_assoc', one_le_div hscale]
    exact_mod_cast Iff.rfl
  have hhigh : d.value < 10 ^ 16 := by
    have hlt : (s.numeral.digits : ℚ) < 10 ^ 15 := by exact_mod_cast hshort.digits_lt h
    rw [hworth, div_lt_iff₀ hscale]
    have hone : (1 : ℚ) ≤ 10 ^ s.numeral.fraction.length := one_le_pow₀ (by norm_num)
    linarith
  rw [numeralOf_exponent_eq_none_iff, hzero, hlow, and_iff_left hhigh]

/-- **A short number is printed as it is spelled exactly if it is tidy.** So `0.5` is and `0.50` is
not, and neither is `0.000005`, which is printed with an exponent. -/
theorem chars_eq_iff_tidy (h : s.numeral.Spelled) (hshort : s.IsShort)
    (hvalue : s.literal.value? = some n) : n.chars = s.chars ↔ s.Tidy := by
  obtain ⟨x, rfl, hsign, hworth⟩ := hshort.value_shortest h hvalue
  have hplain : s.numeral.Plain := ⟨h, hshort.exponent_eq, hshort.fraction_ne_nil⟩
  have hrange := hshort.exponent_eq_none_iff h hworth
  have hlayout := trimmed_numeralOf (x.isShortest_shortest .even).digits_mod_ten
  rw [chars_eq_iff h]
  constructor
  · rintro ⟨-, hsame, -⟩
    change numeralOf (x.shortest .even) = s.numeral at hsame
    have hnone : (numeralOf (x.shortest .even)).exponent = none := hsame ▸ hshort.exponent_eq
    exact ⟨hsame ▸ (hlayout hnone).2, hrange.mp hnone⟩
  · rintro ⟨htrimmed, hlarge⟩
    obtain ⟨hprinted, hends⟩ := hlayout (hrange.mpr hlarge)
    refine ⟨hsign, hprinted.eq_of_worth hplain hends htrimmed ?_,
      begun_of_plain hshort.exponent_eq⟩
    -- the two are worth the same, so there is no more to say of them
    have hsame := worth_numeralOf (x.shortest .even) false
    rw [hprinted.worth_eq, hworth, div_eq_div_iff (by positivity) (by positivity)] at hsame
    exact_mod_cast hsame

/-! ## Exponents -/

/-- One digit in front of the point, and an exponent with the small letter, its sign and no zero too
many that is less than -5 or more than 15. -/
def IsScientific (s : Spelling) : Prop :=
  s.capital = false ∧ s.numeral.whole.length = 1 ∧
    ∃ minus e, s.numeral.exponent = some (minus, digitChars e) ∧
      if minus then 6 ≤ e else s.plus = true ∧ 16 ≤ e

/-- **A number with an exponent is printed otherwise than it is spelled** unless its exponent is one
that is printed. -/
theorem isScientific_of_chars_eq (h : s.numeral.Spelled) (hexponent : s.numeral.exponent ≠ none)
    (heq : n.chars = s.chars) : s.IsScientific := by
  obtain ⟨-, hsame, hbegun⟩ := (chars_eq_iff h).mp heq
  obtain ⟨⟨minus, ds⟩, hds⟩ := Option.ne_none_iff_exists'.mp hexponent
  obtain ⟨hletter, hsign⟩ := hbegun minus ds hds
  cases n with
  | natural n fits => exact absurd (hsame ▸ rfl) hexponent
  | negative n fits => exact absurd (hsame ▸ rfl) hexponent
  | real x =>
    change numeralOf (x.shortest .even) = s.numeral at hsame
    obtain ⟨hone, e, rfl, hrange⟩ := exponent_numeralOf (hsame ▸ hds)
    refine ⟨hletter, hsame ▸ hone, minus, e, hds, ?_⟩
    cases minus with
    | true => exact hrange
    | false => exact ⟨hsign.resolve_left Bool.false_ne_true, hrange⟩

end Spelling
end NodeRpc.Json
