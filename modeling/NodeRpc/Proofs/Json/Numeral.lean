import NodeRpc.Json.Printer
import NodeRpc.Proofs.Number.Digits
import NodeRpc.Proofs.Number.Shortest

/-!
# Numerals

A number is written in one of several layouts: digits alone, digits with a fraction, one digit with
an exponent. `Numeral` is what they have in common, the parts of the text, and the argument about a
layout is made in two steps that do not know of each other:

* reading: a numeral in front of anything that cannot belong to a number is read into its parts, and
  nothing of what follows is taken, also if it is written in another way than numbers are printed
  (`Spelling`, `read_spelling`);
* worth: the parts, read as an exact decimal, are worth what was printed (`worth_numeralOf`).

So the text of a number determines the number (`number_chars_inj`): an integer has neither fraction
nor exponent, a binary64 number always has one of them, and of these the worth and the sign
determine the number.

A spelling is more than a numeral by very little. JSON leaves open with which letter an exponent
begins and whether it has a plus sign, and it leaves nothing else open. That this is all there is to
it makes the parts of a spelling the thing to reason with: whether a number that somebody else wrote
is printed back as it was written becomes a question about a numeral and two booleans.
-/

namespace NodeRpc.Json

/-- The parts of a number as it is spelled. -/
structure Numeral where
  whole : List Char
  /-- The digits after the point; none if there is no point. -/
  fraction : List Char
  /-- The sign (true for minus) and the digits of the exponent, if there is one. -/
  exponent : Option (Bool × List Char)

namespace Numeral

def exponentChars : Option (Bool × List Char) → List Char
  | none => []
  | some (minus, digits) => 'e' :: (if minus then '-' else '+') :: digits

def fractionChars : List Char → List Char
  | [] => []
  | digits => '.' :: digits

def chars (n : Numeral) : List Char :=
  n.whole ++ (fractionChars n.fraction ++ exponentChars n.exponent)

/-- The literal that a numeral with the given sign is read into. -/
def literal (negative : Bool) (n : Numeral) : Literal :=
  ⟨negative, digitValues n.whole, digitValues n.fraction,
    n.exponent.map fun (minus, digits) => (minus, digitValues digits)⟩

/-- Digits where digits belong, and a leading zero alone. This is the grammar of a number without
its sign; that there is a point or an exponent is told by their digits. -/
structure Spelled (n : Numeral) : Prop where
  whole_digits : ∀ c ∈ n.whole, c.isDigit = true
  whole_ne_nil : n.whole ≠ []
  no_leading_zero : ∀ c d cs, n.whole = c :: d :: cs → c ≠ '0'
  fraction_digits : ∀ c ∈ n.fraction, c.isDigit = true
  exponent_digits : ∀ minus ds, n.exponent = some (minus, ds) →
    (∀ c ∈ ds, c.isDigit = true) ∧ ds ≠ []

end Numeral

def signChars (negative : Bool) : List Char := if negative then ['-'] else []

/-- A number as it can be written. What is left open by its sign and its parts is how an exponent is
begun: with which letter, and with or without a plus sign. -/
structure Spelling where
  negative : Bool
  numeral : Numeral
  /-- An exponent has the capital letter. -/
  capital : Bool
  /-- An exponent that is not negative has a sign nevertheless. -/
  plus : Bool

namespace Spelling

def exponentSign (s : Spelling) (minus : Bool) : List Char :=
  if minus then ['-'] else if s.plus then ['+'] else []

def exponentChars (s : Spelling) : List Char :=
  match s.numeral.exponent with
  | none => []
  | some (minus, digits) => (if s.capital then 'E' else 'e') :: (s.exponentSign minus ++ digits)

def chars (s : Spelling) : List Char :=
  signChars s.negative ++
    (s.numeral.whole ++ (Numeral.fractionChars s.numeral.fraction ++ s.exponentChars))

def literal (s : Spelling) : Literal := s.numeral.literal s.negative

/-- The spelling of what is printed. -/
def printed (negative : Bool) (n : Numeral) : Spelling := ⟨negative, n, false, true⟩

theorem chars_printed (negative : Bool) (n : Numeral) :
    (printed negative n).chars = signChars negative ++ n.chars := by
  unfold chars exponentChars exponentSign Numeral.chars Numeral.exponentChars
  cases hexp : n.exponent with
  | none => simp [printed, hexp]
  | some e =>
    obtain ⟨minus, digits⟩ := e
    cases minus <;> simp [printed, hexp]

end Spelling

/-- The input does not go on with anything that could belong to a number. It may be at an end,
too. -/
def NumeralEnds (s : List Char) : Prop :=
  ∀ c rest, s = c :: rest → c.isDigit = false ∧ c ≠ '.' ∧ c ≠ 'e' ∧ c ≠ 'E'

theorem NumeralEnds.noDigit {s : List Char} (h : NumeralEnds s) : NoDigit s :=
  fun c rest hs => (h c rest hs).1

/-! ## Reading a numeral

From the end of the number to its beginning, as each part has to know that what follows it is none
of its own. -/

theorem digitValues_ne_nil {cs : List Char} (h : cs ≠ []) : digitValues cs ≠ [] := by
  simpa [digitValues] using h

theorem toNat_sub_ne_zero {c : Char} (hd : c.isDigit = true) (hz : c ≠ '0') :
    c.toNat - '0'.toNat ≠ 0 := by
  intro h
  have hlow : '0'.toNat ≤ c.toNat := by
    have : '0' ≤ c ∧ c ≤ '9' := by simpa [Char.isDigit, Char.le_def] using hd
    exact this.1
  exact hz (Char.toNat_inj.mp (by omega))

theorem ne_sign_of_isDigit {c : Char} (h : c.isDigit = true) : c ≠ '+' ∧ c ≠ '-' := by
  constructor
  · rintro rfl
    exact absurd h (by decide)
  · rintro rfl
    exact absurd h (by decide)

section Reading

variable {s : Spelling} {rest : List Char}

theorem readExponent_chars (minus : Bool) {ds : List Char} (hds : ∀ c ∈ ds, c.isDigit = true)
    (hne : ds ≠ []) (hrest : NumeralEnds rest) :
    Literal.readExponent (s.exponentSign minus ++ ds ++ rest) =
      .ok ((minus, digitValues ds), rest) := by
  have hrun := digitRun_append hds hrest.noDigit
  have hvals := digitValues_ne_nil hne
  obtain ⟨c, cs, rfl⟩ := List.exists_cons_of_ne_nil hne
  obtain ⟨hplus, hminus⟩ := ne_sign_of_isDigit (hds c (by simp))
  unfold Literal.readExponent Spelling.exponentSign
  -- with the sign taken, if there is one, the digits are read
  cases minus with
  | true =>
    simp only [if_true, List.cons_append, List.nil_append] at hrun ⊢
    rw [hrun]
    rfl
  | false =>
    cases s.plus with
    | true =>
      simp only [Bool.false_eq_true, if_false, if_true, List.cons_append, List.nil_append] at hrun ⊢
      rw [hrun]
      rfl
    | false =>
      rw [List.cons_append] at hrun
      simp [hplus, hminus, hrun, digitValues]

theorem noDigit_exponentChars (s : Spelling) (hrest : NumeralEnds rest) :
    NoDigit (s.exponentChars ++ rest) := by
  unfold Spelling.exponentChars
  split
  · exact hrest.noDigit
  · refine noDigit_cons ?_
    split
    · decide
    · decide

theorem noDigit_tail (s : Spelling) (hrest : NumeralEnds rest) :
    NoDigit (Numeral.fractionChars s.numeral.fraction ++ s.exponentChars ++ rest) := by
  cases s.numeral.fraction with
  | nil => exact noDigit_exponentChars s hrest
  | cons c fs => exact noDigit_cons (by decide)

/-- What may follow a fraction: an exponent or nothing of the number. -/
theorem readTail_exponent (negative : Bool) (whole : List Nat) (h : s.numeral.Spelled)
    (hrest : NumeralEnds rest) :
    Literal.readTail negative whole (s.exponentChars ++ rest) =
      .ok (⟨negative, whole, [],
        s.numeral.exponent.map fun (minus, ds) => (minus, digitValues ds)⟩, rest) := by
  unfold Literal.readTail Spelling.exponentChars
  cases hexp : s.numeral.exponent with
  | none =>
    cases rest with
    | nil => rfl
    | cons c rest =>
      obtain ⟨-, hdot, hlow, hup⟩ := hrest c rest rfl
      simp [hdot, hlow, hup, pure, Except.pure, bind, Except.bind]
  | some e =>
    obtain ⟨minus, ds⟩ := e
    obtain ⟨hds, hne⟩ := h.exponent_digits minus ds hexp
    have hread : Literal.readExponent (s.exponentSign minus ++ ds ++ rest) = _ :=
      readExponent_chars minus hds hne hrest
    rw [List.append_assoc] at hread
    cases s.capital with
    | false => simp [hread, pure, Except.pure, bind, Except.bind]
    | true => simp [hread, pure, Except.pure, bind, Except.bind]

theorem readTail_chars (negative : Bool) (whole : List Nat) (h : s.numeral.Spelled)
    (hrest : NumeralEnds rest) :
    Literal.readTail negative whole
        (Numeral.fractionChars s.numeral.fraction ++ s.exponentChars ++ rest) =
      .ok (⟨negative, whole, digitValues s.numeral.fraction,
        s.numeral.exponent.map fun (minus, ds) => (minus, digitValues ds)⟩, rest) := by
  have htail := readTail_exponent negative whole h hrest
  cases hfraction : s.numeral.fraction with
  | nil => exact htail
  | cons f fs =>
    have hrun := digitRun_append (hfraction ▸ h.fraction_digits) (noDigit_exponentChars s hrest)
    -- with the fraction taken, what is left is read as if there had been no point
    unfold Literal.readTail Spelling.exponentChars
    unfold Spelling.exponentChars at hrun
    cases hexp : s.numeral.exponent with
    | none =>
      simp only [hexp, Numeral.fractionChars, List.cons_append, List.append_nil,
        List.nil_append] at hrun ⊢
      rw [hrun]
      cases rest with
      | nil => simp [digitValues, pure, Except.pure, bind, Except.bind]
      | cons c rest =>
        obtain ⟨-, -, hlow, hup⟩ := hrest c rest rfl
        simp [digitValues, hlow, hup, pure, Except.pure, bind, Except.bind]
    | some e =>
      obtain ⟨minus, ds⟩ := e
      obtain ⟨hds, hne⟩ := h.exponent_digits minus ds hexp
      have hread : Literal.readExponent (s.exponentSign minus ++ ds ++ rest) = _ :=
        readExponent_chars minus hds hne hrest
      simp only [hexp, Numeral.fractionChars, List.cons_append, List.append_assoc] at hrun hread ⊢
      rw [hrun]
      cases s.capital with
      | false => simp [digitValues, hread, pure, Except.pure, bind, Except.bind]
      | true => simp [digitValues, hread, pure, Except.pure, bind, Except.bind]

/-- A leading zero stands alone. -/
theorem readUnsigned_chars (h : s.numeral.Spelled) (hrest : NumeralEnds rest) :
    Literal.readUnsigned s.negative (s.numeral.whole ++
        (Numeral.fractionChars s.numeral.fraction ++ s.exponentChars) ++ rest) =
      .ok (s.literal, rest) := by
  have hrun := digitRun_append h.whole_digits (noDigit_tail s hrest)
  have htail := readTail_chars s.negative (digitValues s.numeral.whole) h hrest
  have hvals := digitValues_ne_nil h.whole_ne_nil
  unfold Literal.readUnsigned
  rw [List.append_assoc, hrun]
  split
  · rename_i heq
    exact absurd (Prod.mk.inj heq).1 hvals
  · rename_i heq
    exact absurd (Prod.mk.inj heq).1 hvals
  · -- two digits, the first of them zero
    rename_i d ds heq
    have hwhole := (Prod.mk.inj heq).1
    match hw : s.numeral.whole with
    | [] => exact absurd hw h.whole_ne_nil
    | [c] =>
      rw [hw] at hwhole
      simp [digitValues] at hwhole
    | c :: c2 :: cs =>
      rw [hw] at hwhole
      simp only [digitValues, List.map_cons, List.cons.injEq] at hwhole
      have hz := toNat_sub_ne_zero (h.whole_digits c (by simp [hw]))
        (h.no_leading_zero c c2 cs hw)
      exact absurd hwhole.1 hz
  · rename_i heq
    obtain ⟨h1, h2⟩ := Prod.mk.inj heq
    rw [← h1, ← h2]
    exact htail

/-- **A number is read into its parts however it is written, and nothing of what follows is
taken.** -/
theorem read_spelling (h : s.numeral.Spelled) (hrest : NumeralEnds rest) :
    Literal.read (s.chars ++ rest) = .ok (s.literal, rest) := by
  have hread := readUnsigned_chars h hrest
  unfold Literal.read Spelling.chars signChars
  cases hsign : s.negative with
  | true =>
    rw [hsign] at hread
    simpa using hread
  | false =>
    -- a number without a sign begins with a digit
    obtain ⟨c, cs, hw⟩ := List.exists_cons_of_ne_nil h.whole_ne_nil
    obtain ⟨-, hc⟩ := ne_sign_of_isDigit (h.whole_digits c (by simp [hw]))
    simp only [hsign, hw, Bool.false_eq_true, if_false, List.nil_append,
      List.cons_append] at hread ⊢
    split
    · rename_i heq
      exact absurd (List.cons.inj heq).1 hc
    · exact hread

end Reading

/-- So is what is printed. -/
theorem read_numeral {n : Numeral} (h : n.Spelled) (negative : Bool) {rest : List Char}
    (hrest : NumeralEnds rest) :
    Literal.read (signChars negative ++ n.chars ++ rest) = .ok (n.literal negative, rest) := by
  rw [← Spelling.chars_printed]
  exact read_spelling h hrest

/-! ## What a numeral is worth

The digits of a layout are the digits of the decimal, with zeros put in front of them or behind, and
the point or the exponent makes up for it. Worth is a rational number, so nothing is rounded here.
-/

/-- The magnitude of a literal, read as an exact decimal. It is a rational number, so it can be said
of any literal, whether or not a binary64 number is near. -/
def Literal.worth (l : Literal) : ℚ :=
  (digitsValue (l.whole ++ l.fraction) : ℚ) *
    (10 : ℚ) ^ (Literal.writtenExponent l.exponent - (l.fraction.length : ℤ))

/-- The parts of a decimal in the JSON layout. -/
def numeralOf (d : Decimal) : Numeral :=
  let digits := digitChars d.digits
  if d.digits = 0 then ⟨['0'], ['0'], none⟩
  else if -5 < d.point ∧ d.point ≤ 16 then
    if 0 ≤ d.exponent then ⟨digits ++ List.replicate d.exponent.toNat '0', ['0'], none⟩
    else if 0 < d.point then ⟨digits.take d.point.toNat, digits.drop d.point.toNat, none⟩
    else ⟨['0'], List.replicate (-d.point).toNat '0' ++ digits, none⟩
  else
    ⟨digits.take 1, digits.drop 1,
      some (decide (d.point - 1 < 0), digitChars (d.point - 1).natAbs)⟩

/-- The digits of a decimal that is not zero: the first is not the digit zero. -/
theorem digitChars_eq_cons {n : Nat} (hn : n ≠ 0) :
    ∃ c cs, digitChars n = c :: cs ∧ c ≠ '0' ∧ ∀ d ∈ c :: cs, d.isDigit = true := by
  obtain ⟨c, cs, h⟩ := List.exists_cons_of_ne_nil (digitChars_ne_nil n)
  refine ⟨c, cs, h, head_digitChars hn h, ?_⟩
  intro d hd
  exact isDigit_of_mem_digitChars (h ▸ hd)

/-- A fraction with a digit is spelled with its point. -/
theorem fractionChars_of_ne_nil {fs : List Char} (h : fs ≠ []) :
    Numeral.fractionChars fs = '.' :: fs := by
  cases fs with
  | nil => exact absurd rfl h
  | cons f fs => rfl

/-- The layout of a decimal is its numeral spelled out. -/
theorem chars_numeralOf (d : Decimal) : (numeralOf d).chars = d.json := by
  unfold numeralOf Decimal.json
  dsimp only
  by_cases hzero : d.digits = 0
  · rw [if_pos hzero, if_pos hzero]
    rfl
  rw [if_neg hzero, if_neg hzero]
  have hlen : (0 : ℤ) < (digitChars d.digits).length := by
    have := List.length_pos_of_ne_nil (digitChars_ne_nil d.digits)
    omega
  -- both sides tell the layouts apart in the same way
  by_cases hplain : -5 < d.point ∧ d.point ≤ 16
  · rw [if_pos hplain, if_pos hplain]
    unfold Decimal.plain
    dsimp only
    by_cases hexp : 0 ≤ d.exponent
    · rw [if_pos hexp, if_pos hexp, if_pos hexp, if_neg hzero]
      rfl
    · rw [if_neg hexp, if_neg hexp, if_neg hexp]
      by_cases hpoint : 0 < d.point
      · -- the exponent is negative, so digits remain behind the point
        have hdrop : (digitChars d.digits).drop d.point.toNat ≠ [] := by
          rw [ne_eq, List.drop_eq_nil_iff]
          unfold Decimal.point at hpoint ⊢
          omega
        rw [if_pos hpoint, if_pos hpoint]
        simp [Numeral.chars, fractionChars_of_ne_nil hdrop, Numeral.exponentChars]
      · have hne : List.replicate (-d.point).toNat '0' ++ digitChars d.digits ≠ [] := by
          simp [digitChars_ne_nil]
        rw [if_neg hpoint, if_neg hpoint]
        simp only [Numeral.chars, fractionChars_of_ne_nil hne, Numeral.exponentChars]
        simp
  · rw [if_neg hplain, if_neg hplain]
    unfold Decimal.scientific
    dsimp only
    have hsign : (if decide (d.point - 1 < 0) = true then '-' else '+') =
        (if 0 ≤ d.point - 1 then '+' else '-') := by
      by_cases h : d.point - 1 < 0
      · rw [if_pos (by simpa using h), if_neg (by omega)]
      · rw [if_neg (by simpa using h), if_pos (by omega)]
    split
    · rename_i h
      exact absurd h (digitChars_ne_nil _)
    · rename_i first h
      rw [h]
      simp only [Numeral.chars, Numeral.exponentChars, hsign]
      rfl
    · rename_i first rest hrest h
      rw [h]
      simp only [Numeral.chars, Numeral.exponentChars, hsign, List.take_succ_cons, List.take_zero,
        List.drop_succ_cons, List.drop_zero]
      rw [fractionChars_of_ne_nil (by intro h2; exact hrest (by rw [h2]))]
      rfl

theorem isDigit_of_mem_zeros {k : Nat} {c : Char} (h : c ∈ List.replicate k '0') :
    c.isDigit = true := by
  rw [(List.mem_replicate.mp h).2]
  decide

/-- The layout has digits where they belong and no leading zero. -/
theorem spelled_numeralOf (d : Decimal) : (numeralOf d).Spelled := by
  unfold numeralOf
  dsimp only
  by_cases hzero : d.digits = 0
  · rw [if_pos hzero]
    exact ⟨by simp, by simp, by simp, by simp, by simp⟩
  rw [if_neg hzero]
  obtain ⟨c, cs, hcs, hc, hdigits⟩ := digitChars_eq_cons hzero
  rw [hcs]
  split
  · split
    · refine ⟨?_, by simp, ?_, by simp, by simp⟩
      · intro x hx
        rcases List.mem_append.mp hx with hx | hx
        · exact hdigits x hx
        · exact isDigit_of_mem_zeros hx
      · intro x y zs h
        exact (List.cons.inj h).1 ▸ hc
    · split
      · rename_i hpoint
        obtain ⟨k, hk⟩ : ∃ k, d.point.toNat = k + 1 := ⟨d.point.toNat - 1, by omega⟩
        rw [hk]
        refine ⟨fun x hx => hdigits x (List.mem_of_mem_take hx), by simp, ?_,
          fun x hx => hdigits x (List.mem_of_mem_drop hx), by simp⟩
        intro x y zs h
        rw [List.take_succ_cons] at h
        exact (List.cons.inj h).1 ▸ hc
      · refine ⟨by simp, by simp, by simp, ?_, by simp⟩
        intro x hx
        rcases List.mem_append.mp hx with hx | hx
        · exact isDigit_of_mem_zeros hx
        · exact hdigits x hx
  · refine ⟨fun x hx => hdigits x (List.mem_of_mem_take hx), by simp, by simp,
      fun x hx => hdigits x (List.mem_of_mem_drop hx), ?_⟩
    intro minus ds h
    simp only [Option.some.injEq, Prod.mk.injEq] at h
    rw [← h.2]
    exact ⟨fun x hx => isDigit_of_mem_digitChars hx, digitChars_ne_nil _⟩

/-- A decimal always has a fraction or an exponent in the JSON layout. -/
theorem numeralOf_not_whole (d : Decimal) :
    (numeralOf d).fraction ≠ [] ∨ (numeralOf d).exponent ≠ none := by
  unfold numeralOf
  dsimp only
  split
  · exact Or.inl (by simp)
  · split
    · split
      · exact Or.inl (by simp)
      · split
        · rename_i hexp hpoint
          refine Or.inl ?_
          rw [ne_eq, List.drop_eq_nil_iff]
          unfold Decimal.point at hpoint ⊢
          omega
        · exact Or.inl (by simp [digitChars_ne_nil])
    · exact Or.inr (by simp)

/-- The worth of the literal of a numeral: all its digits, scaled. -/
theorem worth_literal (n : Numeral) (negative : Bool) :
    (n.literal negative).worth =
      (Nat.ofDigitChars 10 (n.whole ++ n.fraction) 0 : ℚ) *
        (10 : ℚ) ^ (Literal.writtenExponent (n.exponent.map fun (minus, ds) =>
          (minus, digitValues ds)) - (n.fraction.length : ℤ)) := by
  unfold Literal.worth Numeral.literal
  rw [← digitValues_append, digitsValue_digitValues, length_digitValues]

/-- **The layout of a decimal is worth the decimal.** Which of the layouts it is does not matter,
nor where the printer puts the point. -/
theorem worth_numeralOf (d : Decimal) (negative : Bool) :
    ((numeralOf d).literal negative).worth = d.value := by
  rw [worth_literal]
  unfold numeralOf Decimal.value
  dsimp only
  have hdigits : Nat.ofDigitChars 10 (digitChars d.digits) 0 = d.digits :=
    Nat.ofDigitChars_ten_toDigits
  have hlen : 0 < (digitChars d.digits).length :=
    List.length_pos_of_ne_nil (digitChars_ne_nil d.digits)
  -- zero, a plain layout without a fraction or with one, and a layout with an exponent
  split
  · rename_i hzero
    simp [hzero, Nat.ofDigitChars]
  · split
    · split
      · rename_i hexp
        obtain ⟨k, hk⟩ := Int.eq_ofNat_of_zero_le hexp
        rw [Nat.ofDigitChars_append, Nat.ofDigitChars_append, hdigits, hk, Int.toNat_natCast,
          Nat.ofDigitChars_replicate_zero]
        simp [Nat.ofDigitChars, Literal.writtenExponent]
        ring
      · rename_i hexp
        split
        · rw [List.take_append_drop, hdigits]
          congr 2
          simp only [Option.map_none, Literal.writtenExponent, List.length_drop]
          unfold Decimal.point at *
          omega
        · rw [ofDigitChars_leading_zeros, hdigits]
          congr 2
          simp only [Option.map_none, Literal.writtenExponent, List.length_append,
            List.length_replicate]
          unfold Decimal.point at *
          omega
    · rw [List.take_append_drop, hdigits]
      congr 2
      simp only [Option.map_some, Literal.writtenExponent, digitsValue_digitChars,
        List.length_drop, decide_eq_true_eq, Int.ofNat_eq_natCast]
      unfold Decimal.point
      split <;> omega

/-! ## Numbers

The three kinds of numbers as numerals with a sign. Minus zero has a sign and no integer has one
that is zero, which is why it is a binary64 number. -/

def numeralOfNumber : Number → Numeral
  | .natural n _ => ⟨digitChars n, [], none⟩
  | .negative n _ => ⟨digitChars n, [], none⟩
  | .real x => numeralOf (x.shortest .even)

def isSigned : Number → Bool
  | .natural _ _ => false
  | .negative _ _ => true
  | .real x => x.negative

theorem spelled_digitChars (n : Nat) : (Numeral.mk (digitChars n) [] none).Spelled := by
  refine ⟨fun c hc => isDigit_of_mem_digitChars hc, digitChars_ne_nil n, ?_,
    by simp, by simp⟩
  intro c d cs h
  -- zero is a single digit
  have hn : n ≠ 0 := by
    rintro rfl
    rw [digitChars_zero] at h
    cases h
  exact head_digitChars hn h

theorem signed_eq (x : Binary64) (text : List Char) :
    x.signed text = signChars x.negative ++ text := by
  unfold Binary64.signed signChars
  split
  · rfl
  · rfl

theorem chars_numeralOfNumber (n : Number) :
    n.chars = signChars (isSigned n) ++ (numeralOfNumber n).chars := by
  cases n with
  | natural n _ => simp [Number.chars, signChars, isSigned, numeralOfNumber, Numeral.chars,
      Numeral.fractionChars, Numeral.exponentChars]
  | negative n _ => simp [Number.chars, signChars, isSigned, numeralOfNumber, Numeral.chars,
      Numeral.fractionChars, Numeral.exponentChars]
  | real x =>
    show x.signed (x.shortest .even).json =
      signChars x.negative ++ (numeralOf (x.shortest .even)).chars
    rw [chars_numeralOf]
    exact signed_eq x _

theorem spelled_numeralOfNumber (n : Number) : (numeralOfNumber n).Spelled := by
  cases n with
  | natural n _ => exact spelled_digitChars n
  | negative n _ => exact spelled_digitChars n
  | real x => exact spelled_numeralOf _

/-- **The text of a number is read into its parts**, whatever follows that cannot belong to a
number. -/
theorem read_chars (n : Number) {rest : List Char} (hrest : NumeralEnds rest) :
    Literal.read (n.chars ++ rest) = .ok ((numeralOfNumber n).literal (isSigned n), rest) := by
  rw [chars_numeralOfNumber]
  exact read_numeral (spelled_numeralOfNumber n) (isSigned n) hrest

theorem literal_injective {m n : Number}
    (h : (numeralOfNumber m).literal (isSigned m) = (numeralOfNumber n).literal (isSigned n)) :
    m = n := by
  -- an integer is told from a binary64 number by having no fraction and no exponent
  have hreal : ∀ (x : Binary64) (k : Nat) (negative : Bool),
      (numeralOf (x.shortest .even)).literal x.negative ≠
        (Numeral.mk (digitChars k) [] none).literal negative := by
    intro x k negative heq
    have hf := congrArg Literal.fraction heq
    have he := congrArg Literal.exponent heq
    rcases numeralOf_not_whole (x.shortest .even) with hne | hne
    · exact digitValues_ne_nil hne hf
    · exact hne (Option.map_eq_none_iff.mp he)
  have hint : ∀ {j k : Nat}, digitValues (digitChars j) = digitValues (digitChars k) → j = k := by
    intro j k heq
    rw [← digitsValue_digitChars j, heq, digitsValue_digitChars k]
  cases m with
  | natural j _ =>
    cases n with
    | natural k _ =>
      cases hint (congrArg Literal.whole h)
      rfl
    | negative k _ =>
      exact absurd (congrArg Literal.negative h) (by simp [isSigned, Numeral.literal])
    | real y => exact absurd h.symm (hreal y j _)
  | negative j _ =>
    cases n with
    | natural k _ =>
      exact absurd (congrArg Literal.negative h) (by simp [isSigned, Numeral.literal])
    | negative k _ =>
      cases hint (congrArg Literal.whole h)
      rfl
    | real y => exact absurd h.symm (hreal y j _)
  | real x =>
    cases n with
    | natural k _ => exact absurd h (hreal x k _)
    | negative k _ => exact absurd h (hreal x k _)
    | real y =>
      have hsign : x.negative = y.negative := congrArg Literal.negative h
      have hworth := congrArg Literal.worth h
      simp only [numeralOfNumber, worth_numeralOf] at hworth
      rw [Binary64.eq_of_shortest hsign hworth]

/-- **The text of a number determines the number and where it ends.** What follows must not be a
part of a number; a digit would be, and so would the letter of an exponent. -/
theorem number_chars_inj {m n : Number} {r s : List Char} (hr : NumeralEnds r)
    (hs : NumeralEnds s) (h : m.chars ++ r = n.chars ++ s) : m = n ∧ r = s := by
  have hm := read_chars m hr
  rw [h, read_chars n hs] at hm
  obtain ⟨hlit, hrest⟩ := Prod.mk.inj (Except.ok.inj hm)
  exact ⟨(literal_injective hlit).symm, hrest.symm⟩

end NodeRpc.Json
